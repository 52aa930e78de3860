import NotebookLint.Literal.Number
import NotebookLint.Toml.Table

/-!
# Unquoted TOML values

Truth values, numbers, dates and times. Digits may be separated by single underscores, a decimal
number has no superfluous zero before it, and a date or a time has to exist.
-/

namespace NotebookLint.Toml

/-- Digits without the underscores between them; every underscore stands between two digits. -/
def unseparated (isDigit : Char → Bool) : List Char → Option (List Char)
  | [] => none
  | [c] => if isDigit c then some [c] else none
  | c :: '_' :: d :: rest =>
    if isDigit c && isDigit d then (unseparated isDigit (d :: rest)).map (c :: ·) else none
  | c :: rest => if isDigit c then (unseparated isDigit rest).map (c :: ·) else none

/-- Whether a character is a digit in a base. -/
def isDigitIn (base : Nat) (c : Char) : Bool :=
  (Literal.digitValue c.toLower).any (· < base)

/-- The number that separated digits denote in a base. -/
def separatedNumber (base : Nat) (text : List Char) : Option Nat :=
  (unseparated (isDigitIn base) text).bind fun digits =>
    Literal.natOfDigits base (digits.map Char.toLower)

/-- A text without its sign, and whether the sign is a minus. -/
def splitSign : List Char → Bool × List Char
  | '+' :: rest => (false, rest)
  | '-' :: rest => (true, rest)
  | text => (false, text)

/-- Decimal digits without separators and without a superfluous zero before them. -/
def wholeDigits (text : List Char) : Option (List Char) :=
  (unseparated Char.isDigit text).filter fun digits =>
    digits.head? != some '0' || digits.length == 1

/-- The whole number that a text denotes. -/
def integer (text : List Char) : Option Int :=
  match text with
  | '0' :: 'x' :: digits => (separatedNumber 16 digits).map Int.ofNat
  | '0' :: 'o' :: digits => (separatedNumber 8 digits).map Int.ofNat
  | '0' :: 'b' :: digits => (separatedNumber 2 digits).map Int.ofNat
  | _ =>
    let (negative, digits) := splitSign text
    ((wholeDigits digits).bind (Literal.natOfDigits 10)).map fun n =>
      if negative then -(n : Int) else n

/-- The exponent that digits with an optional sign denote. -/
def exponent (text : List Char) : Option Int :=
  let (negative, digits) := splitSign text
  ((unseparated Char.isDigit digits).bind (Literal.natOfDigits 10)).map fun n =>
    if negative then -(n : Int) else n

/-- Whether a text is a decimal with a point or an exponent, and then whether a double can hold
it. -/
def decimal (text : List Char) : Option Bool := do
  let unsigned := (splitSign text).2
  let isMark (c : Char) : Bool := c == 'e' || c == 'E'
  let mantissa := unsigned.takeWhile (!isMark ·)
  let exponent ← match unsigned.dropWhile (!isMark ·) with
    | [] => some 0
    | _ :: digits => exponent digits
  let whole ← wholeDigits (mantissa.takeWhile (· != '.'))
  let fraction ← match mantissa.dropWhile (· != '.') with
    | [] => some []
    | _ :: digits => unseparated Char.isDigit digits
  if unsigned.all Char.isDigit then none
  else
    let digits ← Literal.natOfDigits 10 (whole ++ fraction)
    some (Binary64.bitsOfDecimal digits (exponent - fraction.length) < Binary64.infinityBits)

/-- The number that exactly so many digits at the beginning of a text denote, and the rest. -/
def fixedDigits (count : Nat) (text : List Char) : Option (Nat × List Char) :=
  let digits := text.take count
  if digits.length = count && digits.all Char.isDigit then
    (Literal.natOfDigits 10 digits).map fun n => (n, text.drop count)
  else none

/-- A text without the character at its beginning, if it is the expected one. -/
def expect (wanted : Char) : List Char → Option (List Char)
  | c :: rest => if c = wanted then some rest else none
  | [] => none

/-- The number of days in a month. -/
def daysInMonth (year month : Nat) : Nat :=
  if month = 2 then
    if year % 4 = 0 ∧ (year % 100 ≠ 0 ∨ year % 400 = 0) then 29 else 28
  else if month ∈ [4, 6, 9, 11] then 30
  else 31

/-- The rest of a text after a date that exists. -/
def afterDate (text : List Char) : Option (List Char) := do
  let (year, rest) ← fixedDigits 4 text
  let (month, rest) ← fixedDigits 2 (← expect '-' rest)
  let (day, rest) ← fixedDigits 2 (← expect '-' rest)
  if 1 ≤ month ∧ month ≤ 12 ∧ 1 ≤ day ∧ day ≤ daysInMonth year month then some rest else none

/-- The rest of a text after the fraction of a second, if there is one. -/
def afterFraction : List Char → Option (List Char)
  | '.' :: rest =>
    if rest.head?.any Char.isDigit then some (rest.dropWhile Char.isDigit) else none
  | rest => some rest

/-- The rest of a text after a time of day. The seconds may be left out. -/
def afterTime (text : List Char) : Option (List Char) := do
  let (hour, rest) ← fixedDigits 2 text
  let (minute, rest) ← fixedDigits 2 (← expect ':' rest)
  if 23 < hour ∨ 59 < minute then none
  else
    match rest with
    | ':' :: rest =>
      let (second, rest) ← fixedDigits 2 rest
      if 60 < second then none else afterFraction rest
    | rest => some rest

/-- Whether a text is nothing or the distance from universal time. -/
def isOffset : List Char → Bool
  | [] => true
  | ['Z'] | ['z'] => true
  | sign :: rest =>
    (sign == '+' || sign == '-') &&
      (match fixedDigits 2 rest with
        | some (hours, ':' :: rest) =>
          (match fixedDigits 2 rest with
            | some (minutes, []) => hours ≤ 23 && minutes ≤ 59
            | _ => false)
        | _ => false)

/-- Whether a text is a date, a time of day, or both. -/
def isMoment (text : List Char) : Bool :=
  match afterDate text with
  | some [] => true
  | some (separator :: rest) =>
    (separator == 'T' || separator == 't' || separator == ' ') && (afterTime rest).any isOffset
  | none => (afterTime text).any List.isEmpty

/-- The value of an unquoted text. -/
def scalar (text : List Char) : Option Value :=
  match String.ofList text with
  | "true" => some (.boolean true)
  | "false" => some (.boolean false)
  | "inf" | "+inf" | "-inf" | "nan" | "+nan" | "-nan" => some (.float true)
  | _ =>
    match integer text with
    | some n => some (.integer n)
    | none =>
      match decimal text with
      | some fits => some (.float fits)
      | none => if isMoment text then some .moment else none

end NotebookLint.Toml
