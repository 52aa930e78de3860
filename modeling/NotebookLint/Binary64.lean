/-!
# Doubles as exact numbers

A binary64 number held as its sign and its 63 other bits, so that equality is equality of bits
and every operation is integer arithmetic. Rounding happens in one place: the fraction nearest
to a double, the even one of two equally near ones, and infinity beyond the largest.
-/

namespace NotebookLint

/-- A binary64 number. Larger magnitudes have larger `magnitude` bits. -/
structure Binary64 where
  /-- The sign bit. -/
  negative : Bool
  /-- The exponent and fraction bits, read as one number. -/
  magnitude : Nat
  deriving DecidableEq, Repr

namespace Binary64

/-- The bits of infinity. -/
def infinityBits : Nat := 0x7FF0000000000000

/-- The quotient rounded to the nearest whole number, a half to the even neighbour. -/
def divHalfEven (num den : Nat) : Nat :=
  let quotient := num / den
  let twice := 2 * (num % den)
  if twice < den then quotient
  else if den < twice then quotient + 1
  else quotient + quotient % 2

/-- The quotient rounded to the nearest whole number, a half upwards. -/
def divHalfUp (num den : Nat) : Nat :=
  (2 * num + den) / (2 * den)

/-- The fraction `num / den / 2 ^ exponent` as a numerator and a denominator. -/
def scaleDown (num den : Nat) (exponent : Int) : Nat × Nat :=
  if exponent < 0 then (num * Nat.pow 2 exponent.natAbs, den)
  else (num, den * Nat.pow 2 exponent.toNat)

/-- The exponent of the last place of the double nearest to a positive fraction: 53 bits lie
above it, fewer only at the lower end of the range. -/
def placeOf (num den : Nat) : Int :=
  let guess : Int := (Nat.log2 num : Int) - (Nat.log2 den : Int) - 53
  let scaled := scaleDown num den guess
  let place := if scaled.1 / scaled.2 < Nat.pow 2 53 then guess else guess + 1
  max place (-1074)

/-- The bits of the double nearest to the fraction `num / den`. -/
def bitsOfRatio (num den : Nat) : Nat :=
  if num = 0 then 0
  else
    let place := placeOf num den
    let scaled := scaleDown num den place
    min infinityBits ((place + 1074).toNat * Nat.pow 2 52 + divHalfEven scaled.1 scaled.2)

/-- The number of decimal digits of a whole number; zero has one. -/
def decimalLength (n : Nat) : Nat :=
  (Nat.toDigits 10 n).length

/-- The bits of the double nearest to `digits * 10 ^ exponent`. Exponents out of reach of any
double are answered without computing the power. -/
def bitsOfDecimal (digits : Nat) (exponent : Int) : Nat :=
  let point := exponent + (decimalLength digits : Int)
  if digits = 0 then 0
  else if 310 < point then infinityBits
  else if point < -330 then 0
  else if exponent < 0 then bitsOfRatio digits (Nat.pow 10 exponent.natAbs)
  else bitsOfRatio (digits * Nat.pow 10 exponent.toNat) 1

/-- The whole number and the power of two whose product the bits of a finite double denote. -/
def mantissaPlace (bits : Nat) : Nat × Int :=
  let field : Nat := bits / Nat.pow 2 52
  let fraction : Nat := bits % Nat.pow 2 52
  if field = 0 then (fraction, -1074) else (fraction + Nat.pow 2 52, (field : Int) - 1075)

/-- The exact value of the bits of a finite double, as a numerator and a denominator. -/
def ratioOfBits (bits : Nat) : Nat × Nat :=
  let (mantissa, place) := mantissaPlace bits
  if place < 0 then (mantissa, Nat.pow 2 place.natAbs) else (mantissa * Nat.pow 2 place.toNat, 1)

/-- All 64 bits of a double. -/
def toBits (x : Binary64) : Nat :=
  (if x.negative then Nat.pow 2 63 else 0) + x.magnitude

end Binary64

end NotebookLint
