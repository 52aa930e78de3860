import NotebookLint.Text.Blank

/-!
# Natural numbers in decimal

Reading a count: decimal digits with an optional plus sign, in the range of 64 bits.
-/

namespace NotebookLint.Text

/-- The greatest count. -/
def maxNatural : Nat := Nat.pow 2 64 - 1

/-- The number that a sequence of digits continues. -/
def digitsFrom (number : Nat) : List Char → Option Nat
  | [] => some number
  | c :: rest =>
    if c.isDigit then digitsFrom (10 * number + (c.toNat - '0'.toNat)) rest else none

/-- The number that digits spell out, if there is at least one and no other character. -/
def digits? : List Char → Option Nat
  | [] => none
  | text => digitsFrom 0 text

/-- The count that a text spells out. -/
def natural? (text : List Char) : Option Nat :=
  let unsigned := match text with
    | '+' :: rest => rest
    | _ => text
  (digits? unsigned).filter (· ≤ maxNatural)

end NotebookLint.Text
