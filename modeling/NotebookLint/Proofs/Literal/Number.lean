import NotebookLint.Proofs.Literal.Grammar

/-!
# Reading number tokens

What a number token looks like, and that the reader of numbers takes exactly one: it stops at what
may come after a value, and it would take the same token if nothing came after it. The decimal
digits of a number in range are a token that denotes it.
-/

namespace NotebookLint.Literal

open NotebookLint.Text

/-- The texts that can be number tokens: runs of the characters of numbers, and runs that end in an
exponent mark with a signed exponent after them. -/
inductive NumberShape : List Char → Prop where
  /-- A run. -/
  | run {run : List Char} (hrun : ∀ c ∈ run, isNumberChar c) : NumberShape run
  /-- A run, a sign, and the digits of an exponent. -/
  | exponent {run exponent : List Char} {sign : Char} (hrun : ∀ c ∈ run, isNumberChar c)
      (hmark : endsInExponentMark run) (hsign : sign = '+' ∨ sign = '-')
      (hexponent : ∀ c ∈ exponent, isExponentChar c) : NumberShape (run ++ sign :: exponent)

/-- The longest run of a class in a text that goes on with something else. -/
theorem span_append {p : Char → Bool} {run rest : List Char} (hrun : ∀ c ∈ run, p c)
    (hrest : ∀ c ∈ rest.head?, p c = false) :
    (run ++ rest).takeWhile p = run ∧ (run ++ rest).dropWhile p = rest := by
  rw [List.takeWhile_append_of_pos hrun, List.dropWhile_append_of_pos hrun]
  cases rest with
  | nil => exact ⟨List.append_nil run, rfl⟩
  | cons c rest => simp [hrest c rfl]

/-- The characters of exponents are characters of numbers. -/
theorem isNumberChar_of_isExponentChar {c : Char} (hc : isExponentChar c) : isNumberChar c := by
  simp only [isExponentChar, isNumberChar, Char.isAlphanum, Bool.or_eq_true] at hc ⊢
  rcases hc with hdigit | hunderscore
  · exact .inl (.inl (.inr hdigit))
  · exact .inl (.inr hunderscore)

/-- A number token is split off to its end. -/
theorem splitNumber_of_shape {token rest : List Char} (h : NumberShape token)
    (hrest : ∀ c ∈ rest.head?, isNumberChar c = false ∧ c ≠ '+' ∧ c ≠ '-') :
    splitNumber (token ++ rest) = (token, rest) := by
  cases h with
  | run hrun =>
    obtain ⟨htake, hdrop⟩ := span_append hrun fun c hc => (hrest c hc).1
    rw [splitNumber, htake, hdrop]
    cases rest with
    | nil => rfl
    | cons c rest => simp [(hrest c rfl).2]
  | @exponent run exponent sign hrun hmark hsign hexponent =>
    have hsignNumber : isNumberChar sign = false := by rcases hsign with rfl | rfl <;> rfl
    have hstop : ∀ c ∈ (sign :: (exponent ++ rest)).head?, isNumberChar c = false :=
      fun c hc => Option.some.inj hc ▸ hsignNumber
    obtain ⟨htake, hdrop⟩ := span_append hrun hstop
    obtain ⟨htake', hdrop'⟩ := span_append hexponent fun c hc =>
      Bool.eq_false_iff.mpr fun h => by
        simpa [(hrest c hc).1] using isNumberChar_of_isExponentChar h
    rw [List.append_assoc, List.cons_append, splitNumber, htake, hdrop]
    dsimp only
    rw [if_pos (by simpa [hmark] using hsign), htake', hdrop']

/-- A number token alone is split off whole. -/
theorem splitNumber_of_shape_nil {token : List Char} (h : NumberShape token) :
    splitNumber token = (token, []) := by
  have hnil : ∀ c ∈ ([] : List Char).head?, isNumberChar c = false ∧ c ≠ '+' ∧ c ≠ '-' := nofun
  simpa using splitNumber_of_shape h hnil

/-- What is split off is a number token, and nothing is lost. -/
theorem shape_of_splitNumber {text token rest : List Char} (h : splitNumber text = (token, rest)) :
    NumberShape token ∧ token ++ rest = text := by
  have hrun : ∀ c ∈ text.takeWhile isNumberChar, isNumberChar c :=
    List.all_eq_true.mp List.all_takeWhile
  rw [splitNumber] at h
  split at h
  · rename_i sign tail hrest
    split at h
    · rename_i hsign
      obtain ⟨rfl, rfl⟩ := Prod.mk.inj h
      rw [Bool.and_eq_true] at hsign
      refine ⟨.exponent hrun hsign.1 (by simpa using hsign.2)
        (List.all_eq_true.mp List.all_takeWhile), ?_⟩
      rw [List.append_assoc, List.cons_append, List.takeWhile_append_dropWhile, ← hrest,
        List.takeWhile_append_dropWhile]
    · obtain ⟨rfl, rfl⟩ := Prod.mk.inj h
      exact ⟨.run hrun, List.takeWhile_append_dropWhile⟩
  · obtain ⟨rfl, rfl⟩ := Prod.mk.inj h
    exact ⟨.run hrun, List.takeWhile_append_dropWhile⟩

/-- When a number is read, and what it denotes. -/
theorem readNumber_eq_ok_iff {negative : Bool} {text rest : List Char} {value : Value} :
    readNumber negative text = .ok (value, rest) ↔
      ∃ token, splitNumber text = (token, rest) ∧ hasDoubleUnderscore token = false ∧
        token.getLast? ≠ some '_' ∧
        numberValue negative ((token.filter (· != '_')).map Char.toLower) = some value := by
  rw [readNumber]
  obtain ⟨token, after⟩ := splitNumber text
  constructor
  · intro h
    dsimp only at h
    split at h
    · cases h
    · rename_i hunderscores
      split at h
      · rename_i found hvalue
        obtain ⟨rfl, rfl⟩ := Prod.mk.inj (Except.ok.inj h)
        rw [Bool.or_eq_true, not_or] at hunderscores
        exact ⟨token, rfl, by simpa using hunderscores.1, by simpa using hunderscores.2, hvalue⟩
      · cases h
  · rintro ⟨found, hsplit, hdouble, hlast, hvalue⟩
    obtain ⟨rfl, rfl⟩ := Prod.mk.inj hsplit
    simp only [hdouble, Bool.false_or, beq_iff_eq, hlast, if_false, hvalue]

/-- A number token has its shape. -/
theorem NumberToken.shape {negative : Bool} {token : List Char} {value : Value}
    (h : NumberToken negative token value) : NumberShape token := by
  obtain ⟨found, hsplit, -⟩ := readNumber_eq_ok_iff.mp h.denotes
  obtain ⟨hshape, hfound⟩ := shape_of_splitNumber hsplit
  rw [List.append_nil] at hfound
  exact hfound ▸ hshape

/-- A number token is read to the end of the value. -/
theorem readNumber_of_token {negative : Bool} {token : List Char} {value : Value}
    (h : NumberToken negative token value) {rest : List Char} (hrest : EndsValue rest) :
    readNumber negative (token ++ rest) = .ok (value, rest) := by
  obtain ⟨found, hsplit, hdenotes⟩ := readNumber_eq_ok_iff.mp h.denotes
  obtain ⟨-, hfound⟩ := shape_of_splitNumber hsplit
  rw [List.append_nil] at hfound
  subst hfound
  refine readNumber_eq_ok_iff.mpr ⟨found, splitNumber_of_shape h.shape fun c hc => ?_, hdenotes⟩
  have htoken := not_token_of_isDelimiter (hrest.isDelimiter_of_mem_head? hc)
  exact ⟨htoken.2.1, htoken.2.2.2.2⟩

/-- Reading where a number begins reads a number token. -/
theorem token_of_readNumber {negative : Bool} {text rest : List Char} {value : Value}
    (hbegins : text.head?.any beginsNumber) (h : readNumber negative text = .ok (value, rest)) :
    ∃ token, text = token ++ rest ∧ NumberToken negative token value := by
  obtain ⟨token, hsplit, hdenotes⟩ := readNumber_eq_ok_iff.mp h
  obtain ⟨hshape, rfl⟩ := shape_of_splitNumber hsplit
  have halone := splitNumber_of_shape_nil hshape
  refine ⟨token, rfl, ?_, readNumber_eq_ok_iff.mpr ⟨token, halone, hdenotes⟩⟩
  cases token with
  | nil => simp [numberValue, baseOfMark, natOfDigits] at hdenotes
  | cons c token => exact hbegins

/-- What makes a decimal digit a character of a decimal number token. -/
theorem of_isDigit {c : Char} (hc : c.isDigit) :
    digitValue c = some (c.toNat - '0'.toNat) ∧ c.toNat - '0'.toNat < 10 ∧ c.toLower = c ∧
      c ∉ ['_', 'x', 'o', 'b', '.', 'e'] := by
  have hall : ∀ code < 58, 48 ≤ code →
      digitValue (Char.ofNat code) = some ((Char.ofNat code).toNat - '0'.toNat) ∧
        (Char.ofNat code).toNat - '0'.toNat < 10 ∧ (Char.ofNat code).toLower = Char.ofNat code ∧
          Char.ofNat code ∉ ['_', 'x', 'o', 'b', '.', 'e'] := by decide
  obtain ⟨hlow, hhigh⟩ := Char.isDigit_iff_toNat.mp hc
  simpa only [Char.ofNat_toNat] using hall c.toNat (Nat.lt_succ_of_le hhigh) hlow

/-- Decimal digits denote the number that they are read as. -/
theorem foldDigits_ten {digits : List Char} (hdigits : ∀ c ∈ digits, c.isDigit) (soFar : Nat) :
    foldDigits 10 soFar digits = some (Nat.ofDigitChars 10 digits soFar) := by
  induction digits generalizing soFar with
  | nil => rfl
  | cons c digits ih =>
    obtain ⟨hvalue, hlt, -⟩ := of_isDigit (hdigits c List.mem_cons_self)
    rw [foldDigits, hvalue]
    simp only [hlt, if_true]
    rw [ih fun d hd => hdigits d (List.mem_cons_of_mem c hd), Nat.ofDigitChars_cons, Nat.mul_comm]

/-- The decimal digits of a number begin with a zero only if there is no other. -/
theorem head?_toDigits_ne_zero {n : Nat} (hn : 0 < n) : (Nat.toDigits 10 n).head? ≠ some '0' := by
  induction n using Nat.strongRecOn with
  | ind n ih =>
    rw [Nat.toDigits_eq_if (by decide)]
    split
    · rename_i hlt
      have hall : ∀ d < 10, 0 < d → Nat.digitChar d ≠ '0' := by decide
      simpa using hall n hlt hn
    · rename_i hge
      rw [List.head?_append_of_ne_nil _ Nat.toDigits_ne_nil]
      exact ih (n / 10) (by omega) (by omega)

/-- No base is announced by decimal digits. -/
theorem baseOfMark_of_isDigit {digits : List Char} (hdigits : ∀ c ∈ digits, c.isDigit) :
    baseOfMark digits = none := by
  unfold baseOfMark
  split <;> first
    | rfl
    | exact absurd (hdigits _ (List.mem_cons_of_mem _ List.mem_cons_self)) (by decide)

/-- Decimal digits are read in base ten, unless there is a zero too many at the beginning. -/
theorem numberValue_of_isDigit (negative : Bool) {digits : List Char}
    (hdigits : ∀ c ∈ digits, c.isDigit) (hzeros : digits.head? = some '0' → ∀ c ∈ digits, c = '0') :
    numberValue negative digits = (natOfDigits 10 digits).bind (signedInt negative) := by
  have hpoint : (digits.any fun c => c == '.' || c == 'e') = false := by
    rw [List.any_eq_false]
    intro c hc
    have := (of_isDigit (hdigits c hc)).2.2.2
    simp_all
  have hzero : (decide (1 < digits.length) && digits.head? == some '0' &&
      digits.any (· != '0')) = false := by
    by_cases hhead : digits.head? = some '0'
    · have hany : digits.any (· != '0') = false :=
        List.any_eq_false.mpr fun c hc => by simp [hzeros hhead c hc]
      rw [hany, Bool.and_false]
    · simp [hhead]
  rw [numberValue, baseOfMark_of_isDigit hdigits]
  simp only [hpoint, hzero, Bool.false_eq_true, if_false]

/-- A number in range is what its decimal digits denote. -/
theorem numberValue_toDigits (negative : Bool) {n : Nat} (hn : n ≤ maxInt) :
    numberValue negative (Nat.toDigits 10 n) = some (.int (if negative then -(n : Int) else n)) := by
  have hdigits : ∀ c ∈ Nat.toDigits 10 n, c.isDigit := fun c hc =>
    Nat.isDigit_of_mem_toDigits (by decide) (by decide) hc
  have hzeros : (Nat.toDigits 10 n).head? = some '0' → ∀ c ∈ Nat.toDigits 10 n, c = '0' := by
    rcases Nat.eq_zero_or_pos n with rfl | hpos
    · exact fun _ => List.all_iff_forall_prop.mp (by decide)
    · exact fun hhead => absurd hhead (head?_toDigits_ne_zero hpos)
  have hvalue : natOfDigits 10 (Nat.toDigits 10 n) = some n := by
    rw [natOfDigits, if_neg (by simp [Nat.toDigits_ne_nil]), foldDigits_ten hdigits,
      Nat.ofDigitChars_ten_toDigits]
  rw [numberValue_of_isDigit negative hdigits hzeros, hvalue]
  simp only [Option.bind_some, signedInt, hn, if_true]

/-- Underscores stand side by side only where there are some. -/
theorem hasDoubleUnderscore_of_not_mem {token : List Char} (h : '_' ∉ token) :
    hasDoubleUnderscore token = false := by
  fun_induction hasDoubleUnderscore token with
  | case1 => simp at h
  | case2 c rest _ ih => exact ih fun hmem => h (List.mem_cons_of_mem c hmem)
  | case3 => rfl

/-- The decimal digits of a number in range are one number token, with and without a sign. -/
theorem numberToken_toDigits (negative : Bool) {n : Nat} (hn : n ≤ maxInt) :
    NumberToken negative (Nat.toDigits 10 n) (.int (if negative then -(n : Int) else n)) := by
  have hdigits : ∀ c ∈ Nat.toDigits 10 n, c.isDigit := fun c hc =>
    Nat.isDigit_of_mem_toDigits (by decide) (by decide) hc
  have hkept : (Nat.toDigits 10 n).filter (· != '_') = Nat.toDigits 10 n :=
    List.filter_eq_self.mpr fun c hc => by
      simpa using fun h : c = '_' => Nat.underscore_not_in_toDigits (h ▸ hc)
  have hlower : (Nat.toDigits 10 n).map Char.toLower = Nat.toDigits 10 n :=
    (List.map_congr_left fun c hc => (of_isDigit (hdigits c hc)).2.2.1).trans (List.map_id _)
  constructor
  · obtain ⟨c, rest, hcons⟩ := List.exists_cons_of_ne_nil (Nat.toDigits_ne_nil (n := n) (b := 10))
    rw [hcons] at hdigits ⊢
    simp [beginsNumber, hdigits c List.mem_cons_self]
  · refine readNumber_eq_ok_iff.mpr ⟨Nat.toDigits 10 n, ?_, ?_, ?_, ?_⟩
    · have hshape : NumberShape (Nat.toDigits 10 n) := .run fun c hc => by
        simp [isNumberChar, Char.isAlphanum, hdigits c hc]
      exact splitNumber_of_shape_nil hshape
    · exact hasDoubleUnderscore_of_not_mem Nat.underscore_not_in_toDigits
    · exact fun hlast => Nat.underscore_not_in_toDigits (List.mem_of_getLast? hlast)
    · rw [hkept, hlower, numberValue_toDigits negative hn]

end NotebookLint.Literal
