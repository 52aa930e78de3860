import Mathlib.Data.Bool.AllAny
import Mathlib.Data.Nat.Digits.Defs
import NotebookLint.Literal.Number
import NotebookLint.Literal.Quoted

/-!
# Digits and the numbers they denote

The digits of the bases up to sixteen, with letters of either case, and the number that a list of
them denotes by place value. The readers of number tokens and of escapes compute this number. In a
number token single underscores may stand between digits; such a run denotes what its digits do.
-/

namespace NotebookLint.Literal

open NotebookLint.Text

/-- The digits of base sixteen in the order of their values, with letters in lower case. -/
def digitLetters : List Char :=
  ['0', '1', '2', '3', '4', '5', '6', '7', '8', '9', 'a', 'b', 'c', 'd', 'e', 'f']

/-- The value of a digit of either case. What is no digit of any base up to sixteen gets sixteen. -/
def digitIndex (c : Char) : Nat :=
  digitLetters.idxOf c.toLower

/-- Whether a character is a digit of a base up to sixteen. -/
def isDigitOf (base : Nat) (c : Char) : Bool :=
  digitIndex c < base

/-- The number that digits denote in a base, the most significant one first. -/
def numberOf (base : Nat) (digits : List Char) : Nat :=
  Nat.ofDigits base (digits.reverse.map digitIndex)

/-- One or more digits of a base, with single underscores between some of them. -/
inductive DigitRun (base : Nat) : List Char → Prop where
  /-- One digit. -/
  | single {c : Char} (hc : isDigitOf base c) : DigitRun base [c]
  /-- A digit directly before others. -/
  | next {c : Char} {rest : List Char} (hc : isDigitOf base c) (hrest : DigitRun base rest) :
      DigitRun base (c :: rest)
  /-- A digit before others, with an underscore between. -/
  | separated {c : Char} {rest : List Char} (hc : isDigitOf base c) (hrest : DigitRun base rest) :
      DigitRun base (c :: '_' :: rest)

/-- The digits of base sixteen in either case. -/
def digitChars : List Char :=
  digitLetters ++ ['A', 'B', 'C', 'D', 'E', 'F']

/-- Only letters of ASCII change in lower case. -/
theorem toLower_eq_self {c : Char} (hc : ¬c.toNat < 128) : c.toLower = c := by
  refine dif_neg fun h => hc ?_
  have hle := UInt32.le_iff_toNat_le.mp h.2
  rw [Char.toNat_val, Char.toNat_val] at hle
  exact Nat.lt_of_le_of_lt hle (by decide)

/-- A digit of a base is one of the digits of base sixteen. -/
theorem mem_digitChars {base : Nat} (hbase : base ≤ 16) {c : Char} (hc : isDigitOf base c) :
    c ∈ digitChars := by
  have hlower : c.toLower ∈ digitLetters := by
    rw [isDigitOf, decide_eq_true_eq, digitIndex] at hc
    exact List.idxOf_lt_length_iff.mp (Nat.lt_of_lt_of_le hc hbase)
  have hall : ∀ code < 128, (Char.ofNat code).toLower ∈ digitLetters →
      Char.ofNat code ∈ digitChars := by decide +kernel
  by_cases hsmall : c.toNat < 128
  · rw [← Char.ofNat_toNat c] at hlower ⊢
    exact hall c.toNat hsmall hlower
  · rw [toLower_eq_self hsmall] at hlower
    exact List.mem_append_left _ hlower

/-- What can be decided for every digit of base sixteen holds of a digit of any base. -/
theorem of_digitChars {p : Char → Prop} [DecidablePred p] (hall : digitChars.all fun d => p d)
    {base : Nat} (hbase : base ≤ 16) {c : Char} (hc : isDigitOf base c) : p c :=
  List.all_iff_forall_prop.mp hall c (mem_digitChars hbase hc)

/-- The digits of base ten are the decimal digits. -/
theorem isDigit_of_isDigitOf {c : Char} (hc : isDigitOf 10 c) : c.isDigit :=
  of_digitChars (p := fun d => isDigitOf 10 d → d.isDigit) (by decide) (by decide) hc hc

/-- Digits are characters of number tokens. -/
theorem isNumberChar_of_isDigitOf {base : Nat} (hbase : base ≤ 16) {c : Char} (hc : isDigitOf base c) :
    isNumberChar c :=
  of_digitChars (p := fun d => isNumberChar d) (by decide) hbase hc

/-- The value of a digit in lower case is its place among the digits. -/
theorem digitValue_toLower {base : Nat} (hbase : base ≤ 16) {c : Char} (hc : isDigitOf base c) :
    digitValue c.toLower = some (digitIndex c) :=
  of_digitChars (p := fun d => digitValue d.toLower = some (digitIndex d)) (by decide) hbase hc

/-- The number that digits denote after one that was read already. -/
def numberAfter (base soFar : Nat) (digits : List Char) : Nat :=
  Nat.ofDigits base (digits.reverse.map digitIndex ++ [soFar])

/-- The first digit is the last one of what is read already. -/
theorem numberAfter_cons (base soFar : Nat) (c : Char) (digits : List Char) :
    numberAfter base soFar (c :: digits) = numberAfter base (soFar * base + digitIndex c) digits := by
  simp only [numberAfter, List.reverse_cons, List.map_append, List.map_cons, List.map_nil,
    List.append_assoc, List.cons_append, List.nil_append, Nat.ofDigits_append, Nat.ofDigits_cons,
    Nat.ofDigits_nil]
  ring

/-- Nothing is read before the first digit. -/
theorem numberAfter_zero (base : Nat) (digits : List Char) :
    numberAfter base 0 digits = numberOf base digits := by
  rw [numberAfter, Nat.ofDigits_append, numberOf]
  simp

/-- Digits are read after a number that was read already. -/
theorem foldDigits_toLower {base : Nat} (hbase : base ≤ 16) {digits : List Char}
    (hdigits : ∀ c ∈ digits, isDigitOf base c) (soFar : Nat) :
    foldDigits base soFar (digits.map Char.toLower) = some (numberAfter base soFar digits) := by
  induction digits generalizing soFar with
  | nil => simp [foldDigits, numberAfter]
  | cons c digits ih =>
    obtain ⟨hc, hdigits⟩ := List.forall_mem_cons.mp hdigits
    have hlt : digitIndex c < base := of_decide_eq_true hc
    rw [List.map_cons, foldDigits, digitValue_toLower hbase hc, numberAfter_cons]
    simp only [hlt, if_true, ih hdigits]

/-- The digits of a number in a base are read as this number. -/
theorem natOfDigits_toLower {base : Nat} (hbase : base ≤ 16) {digits : List Char} (hne : digits ≠ [])
    (hdigits : ∀ c ∈ digits, isDigitOf base c) :
    natOfDigits base (digits.map Char.toLower) = some (numberOf base digits) := by
  rw [natOfDigits, if_neg (by simpa using hne), foldDigits_toLower hbase hdigits, numberAfter_zero]

/-- The digits in lower case have their places among the digits as values. -/
theorem digitValue_eq_some_iff {c : Char} {value : Nat} :
    digitValue c = some value ↔ c ∈ digitLetters ∧ value = digitLetters.idxOf c := by
  have hall : ∀ code < 128, (digitValue (Char.ofNat code)).isSome → Char.ofNat code ∈ digitLetters := by
    decide +kernel
  have hvalue : ∀ d ∈ digitLetters, digitValue d = some (digitLetters.idxOf d) :=
    List.all_iff_forall_prop.mp (by decide)
  constructor
  · intro h
    have hle : c.toNat ≤ 'f'.toNat := by
      rw [digitValue] at h
      split at h
      · rename_i hc
        exact Nat.le_trans hc.2 (by decide)
      · split at h
        · rename_i hc
          exact hc.2
        · cases h
    have hmem := hall c.toNat (Nat.lt_of_le_of_lt hle (by decide))
    rw [Char.ofNat_toNat, h] at hmem
    refine ⟨hmem rfl, ?_⟩
    rw [hvalue c (hmem rfl)] at h
    exact (Option.some.inj h).symm
  · rintro ⟨hc, rfl⟩
    exact hvalue c hc

/-- What is read after a number that was read already is digits. -/
theorem isDigitOf_of_foldDigits {base soFar value : Nat} {digits : List Char}
    (h : foldDigits base soFar (digits.map Char.toLower) = some value) :
    ∀ c ∈ digits, isDigitOf base c := by
  induction digits generalizing soFar with
  | nil => simp
  | cons c digits ih =>
    rw [List.map_cons, foldDigits] at h
    split at h
    · rename_i digit hdigit
      split at h
      · rename_i hlt
        rw [(digitValue_eq_some_iff.mp hdigit).2] at hlt
        exact List.forall_mem_cons.mpr ⟨decide_eq_true hlt, ih h⟩
      · cases h
    · cases h

/-- What is read as a number in a base is one or more digits. -/
theorem isDigitOf_of_natOfDigits {base value : Nat} {digits : List Char}
    (h : natOfDigits base (digits.map Char.toLower) = some value) :
    digits ≠ [] ∧ ∀ c ∈ digits, isDigitOf base c := by
  rw [natOfDigits] at h
  split at h
  · cases h
  · rename_i hne
    exact ⟨by simpa using hne, isDigitOf_of_foldDigits h⟩

/-- The hexadecimal digits are those of base sixteen. -/
theorem hexValue_eq_some_iff {c : Char} {value : Nat} :
    hexValue c = some value ↔ isDigitOf 16 c ∧ value = digitIndex c := by
  have hall : ∀ code < 128, (hexValue (Char.ofNat code)).isSome → isDigitOf 16 (Char.ofNat code) := by
    decide +kernel
  have hvalue {d : Char} (hd : isDigitOf 16 d) : hexValue d = some (digitIndex d) :=
    of_digitChars (p := fun d => hexValue d = some (digitIndex d)) (by decide) (Nat.le_refl 16) hd
  constructor
  · intro h
    have hle : c.toNat ≤ 'f'.toNat := by
      rw [hexValue] at h
      split at h
      · rename_i hc
        exact Nat.le_trans hc.2 (by decide)
      · split at h
        · rename_i hc
          exact hc.2
        · split at h
          · rename_i hc
            exact Nat.le_trans hc.2 (by decide)
          · cases h
    have hdigit := hall c.toNat (Nat.lt_of_le_of_lt hle (by decide))
    rw [Char.ofNat_toNat, h] at hdigit
    refine ⟨hdigit rfl, ?_⟩
    rw [hvalue (hdigit rfl)] at h
    exact (Option.some.inj h).symm
  · rintro ⟨hc, rfl⟩
    exact hvalue hc

/-- Hexadecimal digits are read after a number that was read already. -/
theorem hexPrefix_after_eq_some_iff {digits : List Char} {soFar code : Nat} :
    hexPrefix digits.length soFar digits = some code ↔
      (∀ c ∈ digits, isDigitOf 16 c) ∧ code = numberAfter 16 soFar digits := by
  induction digits generalizing soFar with
  | nil => simpa [hexPrefix, numberAfter] using eq_comm
  | cons c digits ih =>
    rw [List.length_cons, hexPrefix, Option.bind_eq_some_iff, List.forall_mem_cons, numberAfter_cons]
    constructor
    · rintro ⟨digit, hdigit, hrest⟩
      obtain ⟨hc, rfl⟩ := hexValue_eq_some_iff.mp hdigit
      obtain ⟨hdigits, hcode⟩ := ih.mp hrest
      exact ⟨⟨hc, hdigits⟩, hcode⟩
    · rintro ⟨⟨hc, hdigits⟩, hcode⟩
      exact ⟨digitIndex c, hexValue_eq_some_iff.mpr ⟨hc, rfl⟩, ih.mpr ⟨hdigits, hcode⟩⟩

/-- As many hexadecimal digits as are wanted are read as the number that they denote. -/
theorem hexPrefix_eq_some_iff {digits : List Char} {code : Nat} :
    hexPrefix digits.length 0 digits = some code ↔
      (∀ c ∈ digits, isDigitOf 16 c) ∧ code = numberOf 16 digits := by
  rw [hexPrefix_after_eq_some_iff, numberAfter_zero]

/-- An underscore is no digit. -/
theorem not_isDigitOf_underscore {base : Nat} (hbase : base ≤ 16) : isDigitOf base '_' = false := by
  have hindex : digitIndex '_' = 16 := by decide
  simpa [isDigitOf, hindex] using hbase

namespace DigitRun

variable {base : Nat} {run : List Char}

/-- Digits alone are a run. -/
theorem of_isDigitOf (hne : run ≠ []) (hrun : ∀ c ∈ run, isDigitOf base c) : DigitRun base run := by
  induction run with
  | nil => exact absurd rfl hne
  | cons c run ih =>
    obtain ⟨hc, hrun⟩ := List.forall_mem_cons.mp hrun
    cases run with
    | nil => exact .single hc
    | cons d run => exact .next hc (ih (List.cons_ne_nil d run) hrun)

/-- A run begins with a digit. -/
theorem exists_head (h : DigitRun base run) : ∃ c rest, run = c :: rest ∧ isDigitOf base c := by
  cases h <;> exact ⟨_, _, rfl, ‹_›⟩

/-- A run ends with a digit. -/
theorem exists_getLast (h : DigitRun base run) : ∃ c ∈ run.getLast?, isDigitOf base c := by
  induction h with
  | @single c hc => exact ⟨c, rfl, hc⟩
  | next _ hrest ih | separated _ hrest ih =>
    obtain ⟨c, hmem, hc⟩ := ih
    exact ⟨c, by simp [List.getLast?_cons, Option.mem_def.mp hmem], hc⟩

/-- A run holds digits and underscores. -/
theorem isDigitOf_or_eq (h : DigitRun base run) : ∀ c ∈ run, isDigitOf base c ∨ c = '_' := by
  induction h with
  | single hc => simp [hc]
  | next hc _ ih => exact List.forall_mem_cons.mpr ⟨.inl hc, ih⟩
  | separated hc _ ih => exact List.forall_mem_cons.mpr ⟨.inl hc, List.forall_mem_cons.mpr ⟨.inr rfl, ih⟩⟩

/-- No two underscores of a run stand side by side. -/
theorem hasDoubleUnderscore_eq (hbase : base ≤ 16) (h : DigitRun base run) :
    hasDoubleUnderscore run = false := by
  have hne {c : Char} (hc : isDigitOf base c) : c ≠ '_' := by
    rintro rfl
    simp [not_isDigitOf_underscore hbase] at hc
  induction h with
  | single => simp [hasDoubleUnderscore]
  | next hc _ ih => simpa [hasDoubleUnderscore, hne hc] using ih
  | separated hc hrest ih =>
    obtain ⟨d, more, rfl, hd⟩ := hrest.exists_head
    simpa [hasDoubleUnderscore, hne hc, hne hd] using ih

/-- The digits of a run. -/
theorem isDigitOf_of_mem_filter (h : DigitRun base run) :
    ∀ c ∈ run.filter (· != '_'), isDigitOf base c := by
  intro c hc
  obtain ⟨hmem, hne⟩ := List.mem_filter.mp hc
  exact (h.isDigitOf_or_eq c hmem).resolve_right (by simpa using hne)

/-- A run has a digit. -/
theorem filter_ne_nil (hbase : base ≤ 16) (h : DigitRun base run) : run.filter (· != '_') ≠ [] := by
  obtain ⟨c, rest, rfl, hc⟩ := h.exists_head
  have hne : c ≠ '_' := by
    rintro rfl
    simp [not_isDigitOf_underscore hbase] at hc
  simp [hne]

end DigitRun

end NotebookLint.Literal
