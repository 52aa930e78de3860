/-!
# Hexadecimal digits

The digits of base sixteen, with letters of either case, and the number that so many of them at the
beginning of a text denote. The escapes of every notation that is read here name their characters
in this way; whether a number is that of a character is left to the notation.
-/

namespace NotebookLint.Text

/-- The value of one hexadecimal digit of either case. -/
def hexValue (c : Char) : Option Nat :=
  if '0' ≤ c ∧ c ≤ '9' then some (c.toNat - '0'.toNat)
  else if 'a' ≤ c ∧ c ≤ 'f' then some (c.toNat - 'a'.toNat + 10)
  else if 'A' ≤ c ∧ c ≤ 'F' then some (c.toNat - 'A'.toNat + 10)
  else none

/-- The number that exactly `count` hexadecimal digits at the beginning of a text denote,
continuing a number already read. -/
def hexPrefix : (count : Nat) → (soFar : Nat) → List Char → Option Nat
  | 0, soFar, _ => some soFar
  | count + 1, soFar, c :: rest =>
    (hexValue c).bind fun digit => hexPrefix count (soFar * 16 + digit) rest
  | _ + 1, _, [] => none

/-- A hexadecimal digit names less than sixteen. -/
theorem lt_of_hexValue {c : Char} {value : Nat} (h : hexValue c = some value) : value < 16 := by
  have hnat (first second : Char) : first ≤ second ↔ first.toNat ≤ second.toNat := by
    rw [Char.le_def, UInt32.le_iff_toNat_le, Char.toNat_val, Char.toNat_val]
  have h9 : '9'.toNat = 57 := rfl
  have hf : 'f'.toNat = 102 := rfl
  have hF : 'F'.toNat = 70 := rfl
  have h0 : '0'.toNat = 48 := rfl
  have ha : 'a'.toNat = 97 := rfl
  have hA : 'A'.toNat = 65 := rfl
  simp only [hexValue, hnat] at h
  split at h
  · obtain rfl := Option.some.inj h
    omega
  · split at h
    · obtain rfl := Option.some.inj h
      omega
    · split at h
      · obtain rfl := Option.some.inj h
        omega
      · cases h

/-- What is read as hexadecimal digits are so many of them. -/
theorem exists_digits_of_hexPrefix {count soFar code : Nat} {text : List Char}
    (h : hexPrefix count soFar text = some code) :
    ∃ digits rest, text = digits ++ rest ∧ digits.length = count ∧
      ∀ c ∈ digits, (hexValue c).isSome := by
  fun_induction hexPrefix count soFar text with
  | case1 soFar text => exact ⟨[], text, rfl, rfl, by simp⟩
  | case2 count soFar c text ih =>
    obtain ⟨digit, hdigit, h⟩ := Option.bind_eq_some_iff.mp h
    obtain ⟨digits, rest, rfl, rfl, hdigits⟩ := ih digit h
    exact ⟨c :: digits, rest, rfl, rfl,
      List.forall_mem_cons.mpr ⟨Option.isSome_iff_exists.mpr ⟨digit, hdigit⟩, hdigits⟩⟩
  | case3 => cases h

/-- Digits that are read are all that counts, whatever comes after them. -/
theorem hexPrefix_append (digits rest : List Char) (soFar : Nat) :
    hexPrefix digits.length soFar (digits ++ rest) = hexPrefix digits.length soFar digits := by
  induction digits generalizing soFar with
  | nil => simp [hexPrefix]
  | cons digit digits ih => simp only [List.length_cons, List.cons_append, hexPrefix, ih]

end NotebookLint.Text
