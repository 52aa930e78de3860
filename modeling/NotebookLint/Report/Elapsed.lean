import NotebookLint.Binary64.Shortest

/-!
# Elapsed time

A time in milliseconds as a number of seconds in double precision, and its two roundings to
hundredths: the text report rounds the exact value of the double, a half to the even side, and
the data report rounds a hundred times the double, a half upwards, and divides again.

No text of a report is lost by leaving out finer times. Below `2 ^ 43` seconds both reports show
hundredths, and a time of so many hundredths is shown as itself. From there on doubles lie further
apart than milliseconds, and each of them is the nearest one to some time.
-/

namespace NotebookLint.Report

/-- The bits of the sum of two doubles that are not negative. -/
def addBits (a b : Nat) : Nat :=
  let (numA, denA) := Binary64.ratioOfBits a
  let (numB, denB) := Binary64.ratioOfBits b
  Binary64.bitsOfRatio (numA * denB + numB * denA) (denA * denB)

/-- The bits of the seconds of a time: whole seconds plus the rounded rest. -/
def secondsBits (milliseconds : Nat) : Nat :=
  addBits (Binary64.bitsOfRatio (milliseconds / 1000) 1)
    (Binary64.bitsOfRatio (milliseconds % 1000) 1000)

/-- The seconds of a time with two decimal places. -/
def secondsText (milliseconds : Nat) : String :=
  Binary64.fixedTwo (secondsBits milliseconds)

/-- The seconds of a time rounded to hundredths. -/
def roundedSeconds (milliseconds : Nat) : Binary64 :=
  let (num, den) := Binary64.ratioOfBits (secondsBits milliseconds)
  let (numHundred, denHundred) := Binary64.ratioOfBits (Binary64.bitsOfRatio (num * 100) den)
  ⟨false, Binary64.bitsOfRatio (Binary64.divHalfUp numHundred denHundred) 100⟩

end NotebookLint.Report
