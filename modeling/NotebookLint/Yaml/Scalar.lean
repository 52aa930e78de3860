import NotebookLint.Binary64.Shortest
import NotebookLint.Literal.Number

/-!
# Plain scalars that are not texts

An unquoted scalar of a YAML document may be read as null, a truth value, a whole number or a
double. A text that reads as one of these has to be quoted where it is written, and an unquoted
scalar that reads as one of these is no text where it is read.
-/

namespace NotebookLint.Yaml

/-- What an unquoted scalar is read as. -/
inductive Plain where
  /-- Nothing. -/
  | null
  /-- A truth value. -/
  | bool (value : Bool)
  /-- A whole number. -/
  | int (value : Int)
  /-- A double. -/
  | float (value : Binary64)
  /-- Not a number. -/
  | nan
  /-- A text. -/
  | text (value : List Char)
  deriving DecidableEq, Repr

/-- Whether a character is a sign. -/
def isSign (c : Char) : Bool := c == '+' || c == '-'

/-- A scalar without one leading plus sign. -/
def dropPlus : List Char → List Char
  | '+' :: rest => rest
  | text => text

/-- Whether a scalar consists of digits of which the first is a superfluous zero. -/
def hasLeadingZero (text : List Char) : Bool :=
  let digits := match text with
    | c :: rest => if isSign c then rest else text
    | [] => []
  match digits with
  | '0' :: c :: rest => (c :: rest).all Char.isDigit
  | _ => false

/-- The base that a mark at the beginning of a scalar announces, with the digits after it. -/
def based : List Char → Option (Nat × List Char)
  | '0' :: 'x' :: digits => some (16, digits)
  | '0' :: 'o' :: digits => some (8, digits)
  | '0' :: 'b' :: digits => some (2, digits)
  | _ => none

/-- The number that digits of either case denote in a base. -/
def digitsValue (base : Nat) (digits : List Char) : Option Nat :=
  Literal.natOfDigits base (digits.map Char.toLower)

/-- The largest whole number that is recognised. -/
def maxWhole : Nat := Nat.pow 2 128 - 1

/-- The size of the least whole number that is recognised. -/
def maxNegative : Nat := Nat.pow 2 127

/-- The whole number within bounds that an unsigned scalar denotes. -/
def unsigned (bound : Nat) (allDigits : Bool) (text : List Char) : Option Nat :=
  let value := match based text with
    | some (base, digits) => digitsValue base digits
    | none => if allDigits then digitsValue 10 text else none
  value.filter (· ≤ bound)

/-- The whole number that a scalar denotes: decimal without superfluous zeros, or in one of three
marked bases, with an optional sign. -/
def wholeNumber (text : List Char) : Option Int :=
  match text with
  | '-' :: rest => (unsigned maxNegative (!hasLeadingZero text) rest).map fun n => -(n : Int)
  | _ => (unsigned maxWhole (!hasLeadingZero text) (dropPlus text)).map Int.ofNat

/-- A scalar with its ASCII letters in lower case. -/
def lowerCase (text : List Char) : List Char := text.map Char.toLower

/-- The bits of the finite double that an unsigned decimal denotes. -/
def decimalBits (text : List Char) : Option Nat :=
  ((Literal.decimalBits (lowerCase text)).filter (· < Binary64.infinityBits)).filter
    fun _ => text.all fun c => c.isDigit || c == '.' || c == 'e' || c == 'E' || isSign c

/-- The double that a scalar denotes. -/
def double (text : List Char) : Option Plain :=
  let unplussed := dropPlus text
  let infinity (negative : Bool) := some (Plain.float ⟨negative, Binary64.infinityBits⟩)
  if text.head? = some '+' ∧ unplussed.head?.any isSign then none
  else if unplussed ∈ [".inf".toList, ".Inf".toList, ".INF".toList] then infinity false
  else if text ∈ ["-.inf".toList, "-.Inf".toList, "-.INF".toList] then infinity true
  else if text ∈ [".nan".toList, ".NaN".toList, ".NAN".toList] then some .nan
  else
    match unplussed with
    | '-' :: rest =>
      if rest.head?.any isSign then none
      else (decimalBits rest).map fun bits => .float ⟨true, bits⟩
    | rest => (decimalBits rest).map fun bits => .float ⟨false, bits⟩

/-- What an unquoted scalar is read as. -/
def plain (text : List Char) : Plain :=
  if text ∈ ["".toList, "null".toList, "Null".toList, "NULL".toList, "~".toList] then .null
  else if text ∈ ["true".toList, "True".toList, "TRUE".toList] then .bool true
  else if text ∈ ["false".toList, "False".toList, "FALSE".toList] then .bool false
  else
    match wholeNumber text with
    | some value => .int value
    | none =>
      if hasLeadingZero text then .text text
      else (double text).getD (.text text)

end NotebookLint.Yaml
