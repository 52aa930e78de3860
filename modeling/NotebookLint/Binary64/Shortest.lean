import NotebookLint.Binary64

/-!
# The shortest decimal of a double

The decimal with the fewest digits that reads back as a given double and, among those, the one
nearest to it. For one digit, two digits and so on, the two neighbours of the value on the grid
of decimals with that many digits are tried in exact arithmetic; seventeen digits always
suffice. Two texts are built from it: one whose exponent has no plus sign and one whose exponent
always has a sign.
-/

namespace NotebookLint.Binary64

/-- A positive decimal `digits * 10 ^ exponent`. -/
structure Decimal where
  /-- The digits, as a whole number. -/
  digits : Nat
  /-- The power of ten of the last digit. -/
  exponent : Int
  deriving DecidableEq, Repr

/-- Whether `digits * 10 ^ exponent` reads back as the double with these bits: it lies between
the midpoints to the neighbouring doubles, which count exactly when the mantissa is even. -/
def readsBack (bits : Nat) (decimal : Decimal) : Bool :=
  let (mantissa, place) := mantissaPlace bits
  -- Quarter units of the last place; the gap below a power of two is half as wide.
  let low := 4 * mantissa - (if bits % Nat.pow 2 52 = 0 && Nat.pow 2 52 < bits then 1 else 2)
  let high := 4 * mantissa + 2
  let quarter := place - 2
  let two := Nat.pow 2 quarter.natAbs
  let ten := Nat.pow 10 decimal.exponent.natAbs
  let value := decimal.digits * (if decimal.exponent < 0 then 1 else ten) *
    (if quarter < 0 then two else 1)
  let unit := (if decimal.exponent < 0 then ten else 1) * (if quarter < 0 then 1 else two)
  if mantissa % 2 = 0 then low * unit ≤ value && value ≤ high * unit
  else low * unit < value && value < high * unit

/-- The power of ten of the first digit of a positive fraction. -/
def leadingExponent (num den : Nat) : Int :=
  if den ≤ num then (decimalLength (num / den) : Int) - 1
  else
    -- The reciprocal has a known number of digits; one comparison settles the rest.
    let places := decimalLength (den / num)
    if den ≤ num * Nat.pow 10 (places - 1) then -((places : Int) - 1) else -(places : Int)

/-- The decimal with this last place that is nearest to the value among the two neighbours that
read back; of two equally near ones, the one with the even last digit. -/
def nearestOnGrid (bits : Nat) (exponent : Int) : Option Decimal :=
  let (num, den) := ratioOfBits bits
  let (top, bottom) :=
    if exponent < 0 then (num * Nat.pow 10 exponent.natAbs, den)
    else (num, den * Nat.pow 10 exponent.toNat)
  let below : Decimal := ⟨top / bottom, exponent⟩
  let above : Decimal := ⟨top / bottom + 1, exponent⟩
  let nearest : Decimal := ⟨divHalfEven top bottom, exponent⟩
  if readsBack bits nearest then some nearest
  else if readsBack bits below then some below
  else if readsBack bits above then some above
  else none

/-- Searches the grids with `count` more digits than `done`, coarsest first. -/
def searchGrids (bits : Nat) (leading : Int) : (count done : Nat) → Decimal
  | 0, done => ⟨0, leading - done⟩
  | count + 1, done =>
    match nearestOnGrid bits (leading - done) with
    | some decimal => decimal
    | none => searchGrids bits leading count (done + 1)

/-- A decimal without trailing zero digits, with fuel for the number of zeros to cut. -/
def cutZeros : Nat → Decimal → Decimal
  | 0, decimal => decimal
  | fuel + 1, decimal =>
    if decimal.digits ≠ 0 && decimal.digits % 10 = 0 then
      cutZeros fuel ⟨decimal.digits / 10, decimal.exponent + 1⟩
    else decimal

/-- The shortest decimal that reads back as the finite double with these bits. -/
def shortestDecimal (bits : Nat) : Decimal :=
  if bits = 0 then ⟨0, 0⟩
  else
    let (num, den) := ratioOfBits bits
    cutZeros 20 (searchGrids bits (leadingExponent num den) 18 0)

/-- The text of a decimal: positional while the point stands between five zeros after it and
sixteen digits before it, always with a fraction, and with an exponent otherwise. -/
def decimalText (plus : String) (decimal : Decimal) : String :=
  let digits := Nat.toDigits 10 decimal.digits
  let count : Int := digits.length
  let point := count + decimal.exponent
  if decimal.digits = 0 then "0.0"
  else if 0 ≤ decimal.exponent && point ≤ 16 then
    String.ofList (digits ++ List.replicate decimal.exponent.toNat '0') ++ ".0"
  else if 0 < point && point ≤ 16 then
    String.ofList (digits.take point.toNat ++ '.' :: digits.drop point.toNat)
  else if -5 < point && point ≤ 0 then
    "0." ++ String.ofList (List.replicate point.natAbs '0' ++ digits)
  else
    let exponent := point - 1
    let sign := if exponent < 0 then "-" else plus
    let mantissa := match digits with
      | first :: second :: more => String.ofList (first :: '.' :: second :: more)
      | _ => String.ofList digits
    mantissa ++ "e" ++ sign ++ toString exponent.natAbs

/-- The text of a finite double, with the given sign before a positive exponent. -/
def textWith (plus : String) (x : Binary64) : String :=
  (if x.negative then "-" else "") ++ decimalText plus (shortestDecimal x.magnitude)

/-- The text of a finite double whose positive exponents carry no sign, as in `1e16`. -/
def plainText (x : Binary64) : String := textWith "" x

/-- The text of a finite double whose positive exponents carry a sign, as in `1e+16`. -/
def signedText (x : Binary64) : String := textWith "+" x

/-- The text of the bits of a finite double with two decimal places, a half to the even side. -/
def fixedTwo (bits : Nat) : String :=
  let (num, den) := ratioOfBits bits
  let hundredths := divHalfEven (num * 100) den
  let fraction := hundredths % 100
  toString (hundredths / 100) ++ "." ++ (if fraction < 10 then "0" else "") ++ toString fraction

end NotebookLint.Binary64
