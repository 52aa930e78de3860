import NotebookLint.Json.Fault

/-!
# Numbers of a document

A number is first delimited by its grammar and then, where it is wanted, given a value: a whole
number within the 64-bit ranges, or a double. The double is computed from the first digits that
fit 64 bits and one power of ten, which need not be the double nearest to the written decimal.
-/

namespace NotebookLint.Json

/-- A delimited number. -/
structure Numeral where
  /-- Whether it has a minus sign. -/
  negative : Bool
  /-- The digits before the point. -/
  whole : List Char
  /-- The digits after the point, if there is one. -/
  fraction : Option (List Char)
  /-- The sign of the exponent and the unread text at its first digit, if there is one. -/
  exponent : Option (Bool × Spot)
  deriving DecidableEq, Repr

/-- Splits off the exponent, given the text after the digits before it. -/
def scanExponent (text : Spot) : Except Fault (Option (Bool × Spot) × Spot) :=
  match text with
  | mark :: rest =>
    if mark = 'e' ∨ mark = 'E' then
      let (negative, digits) := match rest with
        | '+' :: digits => (false, digits)
        | '-' :: digits => (true, digits)
        | digits => (false, digits)
      if digits.head?.any Char.isDigit then
        .ok (some (negative, digits), digits.dropWhile Char.isDigit)
      else .error (.at digits .badNumber)
    else .ok (none, text)
  | [] => .ok (none, [])

/-- Splits off the fraction and the exponent, given the text after the digits before them. -/
def scanFraction (text : Spot) :
    Except Fault ((Option (List Char) × Option (Bool × Spot)) × Spot) :=
  match text with
  | '.' :: rest =>
    if rest.head?.any Char.isDigit then
      match scanExponent (rest.dropWhile Char.isDigit) with
      | .ok (exponent, after) => .ok ((some (rest.takeWhile Char.isDigit), exponent), after)
      | .error fault => .error fault
    else .error (.at rest .badNumber)
  | _ =>
    match scanExponent text with
    | .ok (exponent, after) => .ok ((none, exponent), after)
    | .error fault => .error fault

/-- The digits before the point: a zero stands alone there. -/
def wholeDigits : Spot → List Char
  | '0' :: _ => ['0']
  | text => text.takeWhile Char.isDigit

/-- Delimits the number without sign at the beginning of a text. -/
def scanUnsigned (negative : Bool) (text : Spot) : Except Fault (Numeral × Spot) :=
  let whole := wholeDigits text
  let rest := text.drop whole.length
  if whole.isEmpty then .error (.at text .badNumber)
  else if whole = ['0'] ∧ rest.head?.any Char.isDigit then .error (.at rest .badNumber)
  else
    match scanFraction rest with
    | .ok ((fraction, exponent), after) => .ok (⟨negative, whole, fraction, exponent⟩, after)
    | .error fault => .error fault

/-- Delimits the number at the beginning of a text. -/
def scanNumber : Spot → Except Fault (Numeral × Spot)
  | '-' :: rest => scanUnsigned true rest
  | text => scanUnsigned false text

/-- A malformed number as a reader that wants it reports it: at the end of the text it is rather
the value that is missing. -/
def wantedNumberFault (fault : Fault) : Fault :=
  if fault.rest.isEmpty then { fault with cause := .endInValue } else fault

/-- The value of a number. -/
inductive Number where
  /-- A whole number of at most 64 bits, signed only if negative. -/
  | integer (value : Int)
  /-- Any other number. -/
  | float (value : Binary64)
  deriving DecidableEq, Repr

/-- The largest significand. -/
def maxSignificand : Nat := Nat.pow 2 64 - 1

/-- Takes digits into a significand while it fits 64 bits; the rest is what no longer fits. -/
def takeDigits : (significand : Nat) → List Char → Nat × List Char
  | significand, [] => (significand, [])
  | significand, c :: rest =>
    let next := significand * 10 + (c.toNat - '0'.toNat)
    if maxSignificand < next then (significand, c :: rest) else takeDigits next rest

/-- The power of ten with which doubles are scaled at most. -/
def maxScale : Nat := 308

/-- The bits of a double times a power of ten that is itself rounded to a double. -/
def scaleUp (bits power : Nat) : Nat :=
  let (num, den) := Binary64.ratioOfBits bits
  let (powerNum, powerDen) := Binary64.ratioOfBits (Binary64.bitsOfDecimal 1 power)
  Binary64.bitsOfRatio (num * powerNum) (den * powerDen)

/-- The bits of a double over a power of ten that is itself rounded to a double. -/
def scaleDown (bits power : Nat) : Nat :=
  let (num, den) := Binary64.ratioOfBits bits
  let (powerNum, powerDen) := Binary64.ratioOfBits (Binary64.bitsOfDecimal 1 power)
  Binary64.bitsOfRatio (num * powerDen) (den * powerNum)

/-- Divides by a power of ten in steps of the largest scale, until nothing is left. -/
def scaleDownBy : (fuel : Nat) → (bits power : Nat) → Nat
  | 0, bits, power => scaleDown bits (min power maxScale)
  | fuel + 1, bits, power =>
    if power ≤ maxScale then scaleDown bits power
    else if bits = 0 then 0
    else scaleDownBy fuel (scaleDown bits maxScale) (power - maxScale)

/-- The bits of `significand * 10 ^ exponent`, or nothing when no double is that large. -/
def bitsOfParts (significand : Nat) (exponent : Int) : Option Nat :=
  let bits := Binary64.bitsOfRatio significand 1
  if exponent < 0 then some (scaleDownBy 4 bits exponent.natAbs)
  else if maxScale < exponent.toNat then if bits = 0 then some 0 else none
  else
    let scaled := scaleUp bits exponent.toNat
    if scaled < Binary64.infinityBits then some scaled else none

/-- The largest exponent that is computed with. -/
def maxExponent : Nat := Nat.pow 2 31 - 1

/-- The number that exponent digits denote, or the text after the digit that makes it too large. -/
def exponentValue : (soFar : Nat) → Spot → Except Spot Nat
  | soFar, [] => .ok soFar
  | soFar, c :: rest =>
    if c.isDigit then
      let next := soFar * 10 + (c.toNat - '0'.toNat)
      if maxExponent < next then .error rest else exponentValue next rest
    else .ok soFar

/-- The significand of a numeral and the power of ten that its digits before an exponent give. -/
def Numeral.significand (numeral : Numeral) : Nat × Int :=
  let (significand, left) := takeDigits 0 numeral.whole
  match numeral.fraction with
  | none => (significand, left.length)
  | some digits =>
    let (significand, unused) := takeDigits significand digits
    (significand, (left.length : Int) - ((digits.length - unused.length : Nat) : Int))

/-- The bits of the double of a numeral, without its sign, or why there is none. -/
def Numeral.floatBits (numeral : Numeral) (after : Spot) : Except Fault Nat :=
  let (significand, place) := numeral.significand
  let finish (exponent : Int) : Except Fault Nat :=
    match bitsOfParts significand exponent with
    | some bits => .ok bits
    | none => .error (.before after .numberOutOfRange)
  match numeral.exponent with
  | none => finish place
  | some (negative, digits) =>
    match exponentValue 0 digits with
    | .ok exponent => finish (if negative then place - exponent else place + exponent)
    | .error rest =>
      if significand ≠ 0 ∧ negative = false then .error (.before rest .numberOutOfRange)
      else .ok 0

/-- The value of a numeral, given the text after it. -/
def Numeral.value (numeral : Numeral) (after : Spot) : Except Fault Number :=
  let (significand, left) := takeDigits 0 numeral.whole
  if numeral.fraction.isNone ∧ numeral.exponent.isNone ∧ left.isEmpty ∧
      (numeral.negative = false ∨ (0 < significand ∧ significand ≤ Nat.pow 2 63)) then
    .ok (.integer (if numeral.negative then -(significand : Int) else significand))
  else if numeral.fraction.isNone ∧ numeral.exponent.isNone ∧ left.isEmpty then
    .ok (.float ⟨numeral.negative, Binary64.bitsOfRatio significand 1⟩)
  else
    match numeral.floatBits after with
    | .ok bits => .ok (.float ⟨numeral.negative, bits⟩)
    | .error fault => .error fault

end NotebookLint.Json
