import NotebookLint.Proofs.Literal.Acceptance
import NotebookLint.Proofs.Literal.Digit

/-!
# Integer literals

An integer is written with a sign or without, in one of four bases, with any number of digits and
with underscores between them. It is read as exactly the integer that it denotes if that is less
than `2 ^ 63` in size, and refused otherwise. The size is bounded before the sign is applied: no sign
ever overflows, and the least integer of 64 bits has no literal.
-/

namespace NotebookLint.Literal

open NotebookLint.Text

/-- The bases of integer literals. -/
inductive Base where
  /-- Base ten, which no mark announces. -/
  | decimal
  /-- Base sixteen. -/
  | hexadecimal
  /-- Base eight. -/
  | octal
  /-- Base two. -/
  | binary
  deriving DecidableEq, Repr

/-- The number of digits of a base. -/
def Base.radix : Base → Nat
  | .decimal => 10
  | .hexadecimal => 16
  | .octal => 8
  | .binary => 2

/-- What announces a base. -/
def Base.marks : Base → List (List Char)
  | .decimal => [[]]
  | .hexadecimal => [['0', 'x'], ['0', 'X']]
  | .octal => [['0', 'o'], ['0', 'O']]
  | .binary => [['0', 'b'], ['0', 'B']]

/-- An integer as it is written. -/
structure IntegerLiteral where
  /-- The sign, if there is one. -/
  sign : Option Char
  /-- The blanks before the number. -/
  gap : List Char
  /-- The base. -/
  base : Base
  /-- What announces the base. -/
  mark : List Char
  /-- The digits with the underscores between them. -/
  run : List Char
  /-- A sign is a plus or a minus. -/
  sign_eq : ∀ c ∈ sign, c = '+' ∨ c = '-'
  /-- Blanks are blank. -/
  gap_blank : isBlankText gap
  /-- The mark is one of the base. -/
  mark_mem : mark ∈ base.marks
  /-- The digits are digits of the base. -/
  run_digits : DigitRun base.radix run
  /-- Decimal digits begin with a zero only if there is no other digit. -/
  run_zeros : base = .decimal → run.head? = some '0' → ∀ c ∈ run, c = '0' ∨ c = '_'

/-- There is no base above sixteen. -/
theorem Base.radix_le (base : Base) : base.radix ≤ 16 := by
  cases base <;> decide

namespace IntegerLiteral

variable (written : IntegerLiteral)

/-- The number token. -/
def token : List Char :=
  written.mark ++ written.run

/-- What stands before the number token. -/
def lead : List Char :=
  written.sign.toList ++ written.gap

/-- The whole literal. -/
def text : String :=
  String.ofList (written.lead ++ written.token)

/-- Whether there is a minus sign. -/
def negative : Bool :=
  written.sign == some '-'

/-- The digits alone. -/
def digits : List Char :=
  written.run.filter (· != '_')

/-- The number that the digits denote. -/
def size : Nat :=
  numberOf written.base.radix written.digits

/-- The integer that the literal denotes. -/
def value : Int :=
  if written.negative then -(written.size : Int) else written.size

/-- The underscores taken out, the mark and the digits are left. -/
theorem filter_token : written.token.filter (· != '_') = written.mark ++ written.digits := by
  have hmark : written.mark.filter (· != '_') = written.mark := by
    have hall (base : Base) : ∀ mark ∈ base.marks, mark.filter (· != '_') = mark := by
      cases base <;> decide
    exact hall _ _ written.mark_mem
  rw [token, List.filter_append, hmark]
  rfl

/-- The digits are digits of the base. -/
theorem isDigitOf_of_mem_digits : ∀ c ∈ written.digits, isDigitOf written.base.radix c :=
  written.run_digits.isDigitOf_of_mem_filter

/-- There is a digit. -/
theorem digits_ne_nil : written.digits ≠ [] :=
  written.run_digits.filter_ne_nil written.base.radix_le

/-- The digits are read as the number that they denote. -/
theorem natOfDigits_digits :
    natOfDigits written.base.radix (written.digits.map Char.toLower) = some written.size :=
  natOfDigits_toLower written.base.radix_le written.digits_ne_nil written.isDigitOf_of_mem_digits

/-- Behind the mark of a base the digits are read in this base. -/
theorem numberValue_of_mark (hbase : written.base ≠ .decimal) (negative : Bool) :
    numberValue negative ((written.token.filter (· != '_')).map Char.toLower) =
      signedInt negative written.size := by
  have hall (base : Base) (hbase : base ≠ .decimal) (rest : List Char) : ∀ mark ∈ base.marks,
      baseOfMark (mark.map Char.toLower ++ rest) = some base.radix ∧
        (mark.map Char.toLower ++ rest).drop 2 = rest := by
    cases base with
    | decimal => exact absurd rfl hbase
    | hexadecimal | octal | binary =>
      intro mark hmark
      simp only [Base.marks, List.mem_cons, List.not_mem_nil, or_false] at hmark
      rcases hmark with rfl | rfl <;> exact ⟨rfl, rfl⟩
  obtain ⟨hmark, hrest⟩ := hall _ hbase (written.digits.map Char.toLower) _ written.mark_mem
  rw [filter_token, List.map_append, numberValue, hmark]
  simp only [hrest, natOfDigits_digits, Option.bind_some]

/-- Without a mark the digits are read in base ten. -/
theorem numberValue_of_decimal (hbase : written.base = .decimal) (negative : Bool) :
    numberValue negative ((written.token.filter (· != '_')).map Char.toLower) =
      signedInt negative written.size := by
  have hmark : written.mark = [] := by
    have hmem := written.mark_mem
    rw [hbase] at hmem
    exact List.mem_singleton.mp hmem
  have hvalue := written.natOfDigits_digits
  have hten := written.isDigitOf_of_mem_digits
  rw [hbase] at hvalue hten
  have hdigits : ∀ c ∈ written.digits, c.isDigit := fun c hc => isDigit_of_isDigitOf (hten c hc)
  have hlower : written.digits.map Char.toLower = written.digits :=
    (List.map_congr_left fun c hc => (of_isDigit (hdigits c hc)).2.2.1).trans (List.map_id _)
  have hzeros : written.digits.head? = some '0' → ∀ c ∈ written.digits, c = '0' := by
    intro hhead c hc
    obtain ⟨hmem, hne⟩ := List.mem_filter.mp hc
    refine (written.run_zeros hbase ?_ c hmem).resolve_right (by simpa using hne)
    obtain ⟨d, rest, hrun, hd⟩ := written.run_digits.exists_head
    have hkept : d ≠ '_' := by
      rintro rfl
      simp [not_isDigitOf_underscore written.base.radix_le] at hd
    rw [digits, hrun] at hhead
    rw [hrun]
    simpa [hkept] using hhead
  rw [filter_token, hmark, List.nil_append, hlower, numberValue_of_isDigit negative hdigits hzeros,
    ← hlower, show (10 : Nat) = Base.decimal.radix from rfl, hvalue, Option.bind_some]

/-- A number token begins as numbers do. -/
theorem token_begins : written.token.head?.any beginsNumber := by
  obtain ⟨c, rest, hrun, hc⟩ := written.run_digits.exists_head
  cases hmark : written.mark with
  | nil =>
    have hten : written.base = .decimal := by
      have hmem := written.mark_mem
      rw [hmark] at hmem
      cases hbase : written.base <;> simp [hbase, Base.marks] at hmem
      rfl
    rw [hten] at hc
    simp [token, hmark, hrun, beginsNumber, isDigit_of_isDigitOf hc]
  | cons d mark =>
    have hall (base : Base) : ∀ mark ∈ base.marks, mark.head?.all beginsNumber := by
      cases base <;> decide
    have hd := hall _ _ written.mark_mem
    rw [hmark, List.head?_cons, Option.all_some] at hd
    simp [token, hmark, hd]

/-- A number token is one of its shape. -/
theorem token_shape : NumberShape written.token := by
  refine .run fun c hc => ?_
  rcases List.mem_append.mp hc with hmark | hrun
  · have hall (base : Base) : ∀ mark ∈ base.marks, mark.all isNumberChar := by
      cases base <;> decide
    exact List.all_eq_true.mp (hall _ _ written.mark_mem) c hmark
  · rcases written.run_digits.isDigitOf_or_eq c hrun with hdigit | rfl
    · exact isNumberChar_of_isDigitOf written.base.radix_le hdigit
    · rfl

/-- The underscores of a number token stand one by one, and none at the end. -/
theorem token_underscores :
    hasDoubleUnderscore written.token = false ∧ written.token.getLast? ≠ some '_' := by
  have hmark (base : Base) (run : List Char) : ∀ mark ∈ base.marks,
      hasDoubleUnderscore (mark ++ run) = hasDoubleUnderscore run := by
    cases base <;> simp [Base.marks, hasDoubleUnderscore]
  obtain ⟨c, hlast, hc⟩ := written.run_digits.exists_getLast
  refine ⟨?_, fun h => ?_⟩
  · rw [token, hmark _ _ _ written.mark_mem]
    exact written.run_digits.hasDoubleUnderscore_eq written.base.radix_le
  · rw [token, List.getLast?_append, hlast] at h
    obtain rfl : c = '_' := by simpa using h
    simp [not_isDigitOf_underscore written.base.radix_le] at hc

/-- A number token is read as the size that its digits denote, with the sign, unless this is out of
range. -/
theorem readNumber_token (negative : Bool) :
    readNumber negative written.token =
      match signedInt negative written.size with
      | some value => .ok (value, [])
      | none => .error ⟨written.token, .badNumber (String.ofList written.token)⟩ := by
  have hvalue : numberValue negative ((written.token.filter (· != '_')).map Char.toLower) =
      signedInt negative written.size := by
    by_cases hbase : written.base = .decimal
    · exact written.numberValue_of_decimal hbase negative
    · exact written.numberValue_of_mark hbase negative
  obtain ⟨hdouble, hlast⟩ := written.token_underscores
  rw [readNumber, splitNumber_of_shape_nil written.token_shape]
  cases hsigned : signedInt negative written.size with
  | none => simp only [hdouble, Bool.false_or, beq_iff_eq, hlast, if_false, hvalue, hsigned]
  | some value => simp only [hdouble, Bool.false_or, beq_iff_eq, hlast, if_false, hvalue, hsigned]

end IntegerLiteral

/-- A text that is a number after a sign or none and blanks is read as this number is. -/
theorem readWhole_number {sign : Option Char} (hsign : ∀ c ∈ sign, c = '+' ∨ c = '-') {gap : List Char}
    (hgap : isBlankText gap) {token : List Char} (hbegins : token.head?.any beginsNumber) :
    readWhole (sign.toList ++ gap ++ token) =
      match readNumber (sign == some '-') token with
      | .error fault => .error fault
      | .ok (value, rest) =>
        match skipBlanks rest with
        | [] => .ok value
        | rest => .error ⟨rest, .trailingInput⟩ := by
  cases token with
  | nil => simp at hbegins
  | cons c token =>
    rw [List.head?_cons, Option.any_some] at hbegins
    have hskip : skipBlanks (c :: token) = c :: token :=
      skipBlanks_of_beginsValue (by simp [beginsValue, hbegins]) token
    have hblank : isBlankText (sign.toList ++ gap ++ c :: token) = false := by
      rw [Bool.eq_false_iff, Ne, ← skipBlanks_eq_nil_iff]
      cases sign with
      | none =>
        rw [Option.toList_none, List.nil_append, skipBlanks_append hgap, hskip]
        exact List.cons_ne_nil _ _
      | some d =>
        have hd : isBlank d = false := by rcases hsign d rfl with rfl | rfl <;> rfl
        rw [Option.toList_some, List.append_assoc, List.singleton_append,
          skipBlanks_cons_of_not_isBlank hd]
        exact List.cons_ne_nil _ _
    have hread : readValue maxNesting (sign.toList ++ gap ++ c :: token) =
        readNumber (sign == some '-') (c :: token) := by
      rw [show maxNesting = 127 + 1 from rfl, readValue]
      cases sign with
      | none =>
        rw [Option.toList_none, List.nil_append, ← readWith_skipBlanks, skipBlanks_append hgap, hskip,
          readWith_number _ _ hbegins]
        rfl
      | some d =>
        rw [Option.toList_some, List.append_assoc, List.singleton_append,
          readWith_sign _ _ (hsign d rfl), readSigned, skipBlanks_append hgap, hskip]
        simp only [List.head?_cons, Option.any_some, hbegins, if_true]
        rfl
    cases hnumber : readNumber (sign == some '-') (c :: token) with
    | error fault => simp only [readWhole, hread, hnumber, hblank, Bool.false_eq_true, if_false]
    | ok result =>
      cases hrest : skipBlanks result.2 <;>
        simp only [readWhole, hread, hnumber, hrest, hblank, Bool.false_eq_true, if_false]

/-- An integer is read as what it denotes if that is less than `2 ^ 63` in size, and so is the same
number of 64 bits after the sign; all others are refused as invalid numbers, with the place of the
number token. -/
theorem read_integer (written : IntegerLiteral) :
    (-2 ^ 63 < written.value ∧ written.value < 2 ^ 63 →
      read written.text = .ok (.int written.value) ∧
        (if written.negative then -Int64.ofNat written.size else Int64.ofNat written.size).toInt =
          written.value) ∧
    (¬(-2 ^ 63 < written.value ∧ written.value < 2 ^ 63) →
      ∃ error, read written.text = .error error ∧ error.offset = byteLength written.lead ∧
        error.cause.message = "invalid number `" ++ String.ofList written.token ++ "`") := by
  have hmax : maxInt = 2 ^ 63 - 1 := rfl
  have hsize : -2 ^ 63 < written.value ∧ written.value < 2 ^ 63 ↔ written.size ≤ maxInt := by
    rw [IntegerLiteral.value, hmax]
    split <;> omega
  rw [hsize, IntegerLiteral.text, read, String.toList_ofList, IntegerLiteral.lead,
    readWhole_number written.sign_eq written.gap_blank written.token_begins,
    written.readNumber_token, signedInt]
  constructor
  · intro hrange
    rw [if_pos hrange]
    refine ⟨rfl, ?_⟩
    rw [IntegerLiteral.value]
    split
    · exact Int64.toInt_neg_ofNat_of_le (by omega)
    · exact Int64.toInt_ofNat_of_lt (by omega)
  · intro hrange
    rw [if_neg hrange]
    exact ⟨_, rfl, congrArg Error.offset (Fault.located_append _ ⟨_, _⟩), rfl⟩

/-- The least integer of 64 bits, written in base ten. -/
def leastInteger : IntegerLiteral where
  sign := some '-'
  gap := []
  base := .decimal
  mark := []
  run := ['9', '2', '2', '3', '3', '7', '2', '0', '3', '6', '8', '5', '4', '7', '7', '5', '8', '0', '8']
  sign_eq := by simp
  gap_blank := rfl
  mark_mem := by decide
  run_digits := .of_isDigitOf (by decide) (List.all_eq_true.mp (by decide))
  run_zeros := fun _ hhead => absurd hhead (by decide)

/-- The least integer of 64 bits is refused: its size without the sign is out of range. -/
theorem read_leastInteger :
    leastInteger.value = -2 ^ 63 ∧ leastInteger.text = "-9223372036854775808" ∧
      read leastInteger.text = .error ⟨1, .badNumber "9223372036854775808"⟩ :=
  ⟨by decide +kernel, rfl, rfl⟩

end NotebookLint.Literal
