import NotebookLint.Value
import NotebookLint.Literal.Fault

/-!
# Number tokens

A number token is the longest run of ASCII letters, digits, underscores and points, extended by a
signed exponent after a final `e`. With its separators removed it denotes a 64-bit integer in one
of four bases or a finite double, or it is refused.
-/

namespace NotebookLint.Literal

/-- The characters of a number token other than the sign of its exponent. -/
def isNumberChar (c : Char) : Bool :=
  c.isAlphanum || c == '_' || c == '.'

/-- The characters of a signed exponent after its sign. -/
def isExponentChar (c : Char) : Bool :=
  c.isDigit || c == '_'

/-- Whether a run ends in an exponent mark and is not hexadecimal, so that a sign may follow. -/
def endsInExponentMark (run : List Char) : Bool :=
  (run.getLast? == some 'e' || run.getLast? == some 'E') &&
    !(['0', 'x'].isPrefixOf run || ['0', 'X'].isPrefixOf run)

/-- The number token at the beginning of a text, and the text after it. -/
def splitNumber (text : List Char) : List Char × List Char :=
  let run := text.takeWhile isNumberChar
  let rest := text.dropWhile isNumberChar
  match rest with
  | sign :: tail =>
    if endsInExponentMark run && (sign = '+' || sign = '-') then
      (run ++ sign :: tail.takeWhile isExponentChar, tail.dropWhile isExponentChar)
    else (run, rest)
  | [] => (run, rest)

/-- Whether two underscores stand side by side. -/
def hasDoubleUnderscore : List Char → Bool
  | '_' :: '_' :: _ => true
  | _ :: rest => hasDoubleUnderscore rest
  | [] => false

/-- The value of one digit in bases up to sixteen, letters in lower case. -/
def digitValue (c : Char) : Option Nat :=
  if '0' ≤ c ∧ c ≤ '9' then some (c.toNat - '0'.toNat)
  else if 'a' ≤ c ∧ c ≤ 'f' then some (c.toNat - 'a'.toNat + 10)
  else none

/-- The number that digits denote in a base, continuing a number already read. -/
def foldDigits (base : Nat) : (soFar : Nat) → List Char → Option Nat
  | soFar, [] => some soFar
  | soFar, c :: rest =>
    match digitValue c with
    | some digit => if digit < base then foldDigits base (soFar * base + digit) rest else none
    | none => none

/-- The number that a nonempty run of digits denotes in a base. -/
def natOfDigits (base : Nat) (digits : List Char) : Option Nat :=
  if digits.isEmpty then none else foldDigits base 0 digits

/-- The largest integer that a value can hold. -/
def maxInt : Nat := Nat.pow 2 63 - 1

/-- The integer with this size and sign, as long as the size is in range. -/
def signedInt (negative : Bool) (size : Nat) : Option Value :=
  if size ≤ maxInt then some (.int (if negative then -(size : Int) else size)) else none

/-- The base that a two-character mark announces. -/
def baseOfMark : List Char → Option Nat
  | '0' :: 'x' :: _ => some 16
  | '0' :: 'o' :: _ => some 8
  | '0' :: 'b' :: _ => some 2
  | _ => none

/-- The digits of a decimal exponent with their optional sign. -/
def exponentOf : List Char → Option Int
  | '+' :: digits => (natOfDigits 10 digits).map Int.ofNat
  | '-' :: digits => (natOfDigits 10 digits).map fun n => -(Int.ofNat n)
  | digits => (natOfDigits 10 digits).map Int.ofNat

/-- The double nearest to a decimal with a point, an exponent, or both. There must be a digit
before or after the point, and a digit in an exponent. -/
def decimalBits (token : List Char) : Option Nat := do
  let mantissa := token.takeWhile (· != 'e')
  let exponent ← match token.dropWhile (· != 'e') with
    | [] => some 0
    | _ :: digits => exponentOf digits
  let whole := mantissa.takeWhile (· != '.')
  let fraction := (mantissa.dropWhile (· != '.')).drop 1
  let digits ← natOfDigits 10 (whole ++ fraction)
  some (Binary64.bitsOfDecimal digits (exponent - fraction.length))

/-- The value of a number token in lower case without its separators. -/
def numberValue (negative : Bool) (token : List Char) : Option Value :=
  match baseOfMark token with
  | some base => (natOfDigits base (token.drop 2)).bind (signedInt negative)
  | none =>
    if token.any fun c => c == '.' || c == 'e' then
      (decimalBits token).bind fun bits =>
        if bits < Binary64.infinityBits then some (.float ⟨negative, bits⟩) else none
    else if 1 < token.length && token.head? == some '0' && token.any (· != '0') then none
    else (natOfDigits 10 token).bind (signedInt negative)

/-- Reads an unsigned number token and gives it the sign. -/
def readNumber (negative : Bool) (text : List Char) : Step Value :=
  let (token, rest) := splitNumber text
  let refused := Except.error ⟨text, .badNumber (String.ofList token)⟩
  if hasDoubleUnderscore token || token.getLast? == some '_' then refused
  else
    match numberValue negative ((token.filter (· != '_')).map Char.toLower) with
    | some value => .ok (value, rest)
    | none => refused

end NotebookLint.Literal
