import NotebookLint.Proofs.Literal.Numeral

/-!
# Which numbers are read

The reader of numbers takes the underscores out of a token before it looks for a base, a point and an
exponent. What is left is a number of Python, and the token itself is one exactly if its underscores
are well separated. So every number that is read is one that Python accepts but for the places of
single underscores inside it.
-/

namespace NotebookLint.Literal

open NotebookLint.Text

/-- The letters, digits and signs of a token in lower case, without the underscores. -/
def plainToken (token : List Char) : List Char :=
  (token.filter (· != '_')).map Char.toLower

section Plain

variable {c : Char} {text rest : List Char}

/-- Without underscores a text is that of its parts. -/
theorem plainToken_append : plainToken (text ++ rest) = plainToken text ++ plainToken rest := by
  rw [plainToken, List.filter_append, List.map_append]
  rfl

/-- Any character but an underscore is kept in lower case. -/
theorem plainToken_cons (hc : c ≠ '_') : plainToken (c :: rest) = c.toLower :: plainToken rest := by
  simp [plainToken, hc]

/-- Of what characters a token without underscores is made. -/
theorem forall_mem_plainToken {p : Char → Prop} (h : ∀ c ∈ text, p c.toLower) :
    ∀ c ∈ plainToken text, p c := by
  intro c hc
  obtain ⟨d, hd, rfl⟩ := List.mem_map.mp hc
  exact h d (List.mem_filter.mp hd).1

end Plain

/-- The characters by which the parts of a number are told apart. -/
def numberMarks : List Char :=
  ['0', 'x', 'o', 'b', '.', 'e', '+', '-']

/-- Which characters are marks of a number in lower case. -/
theorem eq_of_toLower {c d : Char} (hd : d ∈ numberMarks) (h : c.toLower = d) :
    c = d ∨ c = d.toUpper := by
  have hall : ∀ d ∈ numberMarks, ∀ code < 128, (Char.ofNat code).toLower = d →
      Char.ofNat code = d ∨ Char.ofNat code = d.toUpper :=
    List.all_iff_forall_prop.mp (by decide +kernel)
  by_cases hsmall : c.toNat < 128
  · rw [← Char.ofNat_toNat c] at h ⊢
    exact hall d hd c.toNat hsmall h
  · rw [toLower_eq_self hsmall] at h
    exact .inl h

/-- Digits that are read in a base are digits of this base but for the underscores. -/
theorem isDigitOf_or_eq_of_natOfDigits {base value : Nat} {text : List Char}
    (h : natOfDigits base (plainToken text) = some value) :
    text ≠ [] ∧ ∀ c ∈ text, isDigitOf base c ∨ c = '_' := by
  obtain ⟨hne, hdigits⟩ := isDigitOf_of_natOfDigits h
  constructor
  · rintro rfl
    exact hne rfl
  · intro c hc
    by_cases hunderscore : c = '_'
    · exact .inr hunderscore
    · exact .inl (hdigits c (List.mem_filter.mpr ⟨hc, by simpa using hunderscore⟩))

/-- Digits that are read in a base are a run if their underscores stand between them. -/
theorem DigitRun.of_natOfDigits {base value : Nat} (hbase : base ≤ 16) {text : List Char}
    (h : natOfDigits base (plainToken text) = some value) (hbetween : Between (isDigitOf base) text) :
    DigitRun base text := by
  obtain ⟨hne, hdigits⟩ := isDigitOf_or_eq_of_natOfDigits h
  exact .of_between hbase hne hdigits hbetween

/-- What is read after the mark of an exponent is digits after a sign or none. -/
theorem exists_run_of_exponentOf {text : List Char} {value : Int}
    (h : exponentOf (plainToken text) = some value) (hbetween : Between (isDigitOf 10) text) :
    ∃ sign : Option Char, ∃ run, text = sign.toList ++ run ∧ (∀ c ∈ sign, c = '+' ∨ c = '-') ∧
      DigitRun 10 run := by
  have hunsigned {text : List Char} {f : Nat → Int}
      (h : (natOfDigits 10 (plainToken text)).map f = some value)
      (hbetween : Between (isDigitOf 10) text) : DigitRun 10 text := by
    obtain ⟨size, hsize, -⟩ := Option.map_eq_some_iff.mp h
    exact .of_natOfDigits (by decide) hsize hbetween
  cases text with
  | nil => cases h
  | cons c rest =>
    have hc : c ≠ '_' := by
      rintro rfl
      simpa using (hbetween [] rest rfl).1
    have hsigned {sign : Char} (hsign : sign = '+' ∨ sign = '-') (hlower : c.toLower = sign) :
        c = sign ∧ Between (isDigitOf 10) rest := by
      have hall : ∀ d ∈ ['+', '-'], d ∈ numberMarks ∧ d.toUpper = d ∧ isDigitOf 10 d = false :=
        List.all_iff_forall_prop.mp (by decide)
      obtain ⟨hmark, hupper, hdigit⟩ := hall sign (by simpa using hsign)
      obtain rfl : c = sign := (eq_of_toLower hmark hlower).elim id fun h => h.trans hupper
      exact ⟨rfl, ((between_append_cons_iff hc hdigit).mp (show Between _ ([] ++ c :: rest) from hbetween)).2⟩
    rw [plainToken_cons hc] at h
    unfold exponentOf at h
    split at h
    case h_1 hplain =>
      obtain ⟨hlower, rfl⟩ := List.cons.inj hplain
      obtain ⟨rfl, hrest⟩ := hsigned (.inl rfl) hlower
      exact ⟨some '+', rest, rfl, by simp, hunsigned h hrest⟩
    case h_2 hplain =>
      obtain ⟨hlower, rfl⟩ := List.cons.inj hplain
      obtain ⟨rfl, hrest⟩ := hsigned (.inr rfl) hlower
      exact ⟨some '-', rest, rfl, by simp, hunsigned h hrest⟩
    case h_3 =>
      rw [← plainToken_cons hc] at h
      exact ⟨none, c :: rest, rfl, by simp, hunsigned h hbetween⟩

/-- What a number with a point or an exponent is read from: digits before and after the point, and
digits with a sign or none after the mark of the exponent. -/
theorem parts_of_decimalBits {whole fraction exponent : List Char} {bits : Nat}
    (hwhole : ∀ c ∈ whole, c ≠ 'e' ∧ c ≠ '.') (hfraction : ∀ c ∈ fraction, c ≠ 'e')
    (hpoint : ∀ c ∈ fraction.head?, c = '.') (hmark : ∀ c ∈ exponent.head?, c = 'e')
    (h : decimalBits (whole ++ fraction ++ exponent) = some bits) :
    (∃ n, natOfDigits 10 (whole ++ fraction.drop 1) = some n) ∧
      (exponent = [] ∨ ∃ n, exponentOf (exponent.drop 1) = some n) := by
  have hbeforeMark : ∀ c ∈ whole ++ fraction, c != 'e' := by
    intro c hc
    rcases List.mem_append.mp hc with hc | hc
    · simpa using (hwhole c hc).1
    · simpa using hfraction c hc
  have hbeforePoint : ∀ c ∈ whole, c != '.' := fun c hc => by simpa using (hwhole c hc).2
  have hatMark : ∀ c ∈ exponent.head?, (c != 'e') = false := fun c hc => by simpa using hmark c hc
  have hatPoint : ∀ c ∈ fraction.head?, (c != '.') = false := fun c hc => by simpa using hpoint c hc
  obtain ⟨hmantissa, hexponent⟩ := span_append hbeforeMark hatMark
  obtain ⟨hbefore, hafter⟩ := span_append hbeforePoint hatPoint
  rw [decimalBits, hmantissa, hexponent] at h
  cases exponent with
  | nil =>
    obtain ⟨power, -, h⟩ := Option.bind_eq_some_iff.mp h
    rw [hbefore, hafter] at h
    obtain ⟨n, hdigits, -⟩ := Option.bind_eq_some_iff.mp h
    exact ⟨⟨n, hdigits⟩, .inl rfl⟩
  | cons mark exponent =>
    obtain ⟨power, hpower, h⟩ := Option.bind_eq_some_iff.mp h
    rw [hbefore, hafter] at h
    obtain ⟨n, hdigits, -⟩ := Option.bind_eq_some_iff.mp h
    exact ⟨⟨n, hdigits⟩, .inr ⟨power, hpower⟩⟩

/-- A text is split before the first character outside a class. -/
theorem exists_span (p : Char → Bool) (text : List Char) :
    ∃ run rest, text = run ++ rest ∧ (∀ c ∈ run, p c) ∧ ∀ c ∈ rest.head?, p c = false := by
  refine ⟨text.takeWhile p, text.dropWhile p, List.takeWhile_append_dropWhile.symm,
    List.all_eq_true.mp List.all_takeWhile, fun c hc => ?_⟩
  have hhead := List.head?_dropWhile_not p text
  rw [Option.mem_def.mp hc] at hhead
  exact hhead

/-- Digits before and after a point, or before none, are a number with a point or a run of digits. -/
theorem mantissa_of_natOfDigits {whole fraction : List Char} {n : Nat}
    (hpoint : ∀ c ∈ fraction.head?, c = '.')
    (h : natOfDigits 10 (plainToken whole ++ (plainToken fraction).drop 1) = some n)
    (hbetween : Between (isDigitOf 10) (whole ++ fraction)) :
    DigitRun 10 (whole ++ fraction) ∨ PointFloat (whole ++ fraction) := by
  cases fraction with
  | nil =>
    rw [List.append_nil] at hbetween ⊢
    exact .inl (.of_natOfDigits (by decide) (by simpa [plainToken] using h) hbetween)
  | cons c fraction =>
    obtain rfl := hpoint c rfl
    rw [plainToken_cons (by decide), List.drop_succ_cons, List.drop_zero, ← plainToken_append] at h
    obtain ⟨hne, hdigits⟩ := isDigitOf_or_eq_of_natOfDigits h
    obtain ⟨hwhole, hfraction⟩ := (between_append_cons_iff (by decide) (by decide)).mp hbetween
    have hrun {run : List Char} (hmem : ∀ c ∈ run, c ∈ whole ++ fraction)
        (hbetween : Between (isDigitOf 10) run) : run = [] ∨ DigitRun 10 run := by
      rw [or_iff_not_imp_left]
      exact fun hne => .of_between (by decide) hne (fun c hc => hdigits c (hmem c hc)) hbetween
    have hwholeRun := hrun (fun c hc => List.mem_append_left _ hc) hwhole
    right
    rcases hrun (fun c hc => List.mem_append_right _ hc) hfraction with rfl | hfractionRun
    · exact .trailing (hwholeRun.resolve_left (by simpa using hne))
    · exact .fraction hwholeRun hfractionRun

/-- A token that is read as a number with a point or an exponent, and whose underscores stand between
digits, consists of the parts of such a number. -/
theorem parts_of_float {token : List Char} {bits : Nat}
    (h : decimalBits (plainToken token) = some bits) (hbetween : Between (isDigitOf 10) token) :
    ∃ mantissa exponent, token = mantissa ++ exponent ∧
      (DigitRun 10 mantissa ∨ PointFloat mantissa) ∧ (exponent = [] ∨ Exponent exponent) := by
  obtain ⟨mantissa, exponent, rfl, hmantissa, hexponent⟩ := exists_span (·.toLower != 'e') token
  obtain ⟨whole, fraction, rfl, hwhole, hfraction⟩ := exists_span (· != '.') mantissa
  have hpoint : ∀ c ∈ fraction.head?, c = '.' := fun c hc => by simpa using hfraction c hc
  have hplainWhole : ∀ c ∈ plainToken whole, c ≠ 'e' ∧ c ≠ '.' := by
    refine forall_mem_plainToken fun c hc => ⟨by simpa using hmantissa c (by simp [hc]), fun hlower => ?_⟩
    have hne : c ≠ '.' := by simpa using hwhole c hc
    exact (eq_of_toLower (by decide) hlower).elim hne hne
  have hplainFraction : ∀ c ∈ plainToken fraction, c ≠ 'e' :=
    forall_mem_plainToken fun c hc => by simpa using hmantissa c (by simp [hc])
  have hplainPoint : ∀ c ∈ (plainToken fraction).head?, c = '.' := by
    cases fraction with
    | nil => simp [plainToken]
    | cons c fraction =>
      obtain rfl := hpoint c rfl
      rw [plainToken_cons (by decide)]
      simp
  rw [plainToken_append, plainToken_append] at h
  cases exponent with
  | nil =>
    rw [List.append_nil] at hbetween
    obtain ⟨⟨n, hdigits⟩, -⟩ :=
      parts_of_decimalBits hplainWhole hplainFraction hplainPoint (by simp [plainToken]) h
    exact ⟨whole ++ fraction, [], rfl, mantissa_of_natOfDigits hpoint hdigits hbetween, .inl rfl⟩
  | cons mark exponent =>
    have hlower : mark.toLower = 'e' := by simpa using hexponent mark rfl
    have hmark : mark = 'e' ∨ mark = 'E' := eq_of_toLower (by decide) hlower
    have hclass : mark ≠ '_' ∧ isDigitOf 10 mark = false := by rcases hmark with rfl | rfl <;> decide
    obtain ⟨hbefore, hafter⟩ := (between_append_cons_iff hclass.1 hclass.2).mp hbetween
    rw [plainToken_cons hclass.1, hlower] at h
    obtain ⟨⟨n, hdigits⟩, hpower⟩ :=
      parts_of_decimalBits hplainWhole hplainFraction hplainPoint (by simp) h
    obtain ⟨power, hpower⟩ := hpower.resolve_left (List.cons_ne_nil _ _)
    obtain ⟨sign, run, rfl, hsign, hrun⟩ := exists_run_of_exponentOf hpower hafter
    exact ⟨whole ++ fraction, mark :: (sign.toList ++ run), rfl,
      mantissa_of_natOfDigits hpoint hdigits hbefore, .inr (.intro hmark hsign hrun)⟩

/-- The letters by which a base is recognised in lower case. -/
theorem exists_base_of_baseOfMark {text : List Char} {radix : Nat} (h : baseOfMark text = some radix) :
    ∃ base letter rest, text = '0' :: letter :: rest ∧ radix = Base.radix base ∧ base ≠ .decimal ∧
      letter ∈ numberMarks ∧ ['0', letter] ∈ base.marks ∧ ['0', letter.toUpper] ∈ base.marks ∧
        isDigitOf 10 letter = false ∧ isDigitOf 10 letter.toUpper = false := by
  unfold baseOfMark at h
  split at h
  · exact ⟨.hexadecimal, 'x', _, rfl, (Option.some.inj h).symm, by decide⟩
  · exact ⟨.octal, 'o', _, rfl, (Option.some.inj h).symm, by decide⟩
  · exact ⟨.binary, 'b', _, rfl, (Option.some.inj h).symm, by decide⟩
  · cases h

/-- If a base is recognised in a token without its underscores, and they are well separated, then the
token begins with the mark of this base. -/
theorem exists_mark_of_baseOfMark {token : List Char} {radix : Nat} (hhead : token.head? ≠ some '_')
    (hseparated : WellSeparated token) (h : baseOfMark (plainToken token) = some radix) :
    ∃ base mark rest, token = mark ++ rest ∧ radix = Base.radix base ∧ base ≠ .decimal ∧
      mark ∈ base.marks ∧ (plainToken token).drop 2 = plainToken rest := by
  obtain ⟨base, letter, after, hplain, rfl, hbase, hletter, hlower, hupper, hnot, hnotUpper⟩ :=
    exists_base_of_baseOfMark h
  have hcase {d : Char} (hd : d.toLower = letter) : ['0', d] ∈ base.marks ∧ isDigitOf 10 d = false := by
    rcases eq_of_toLower hletter hd with rfl | rfl
    · exact ⟨hlower, hnot⟩
    · exact ⟨hupper, hnotUpper⟩
  cases token with
  | nil => cases hplain
  | cons c rest =>
    have hc : c ≠ '_' := by simpa using hhead
    rw [plainToken_cons hc] at hplain ⊢
    obtain ⟨hzero, hrest⟩ := List.cons.inj hplain
    obtain rfl : c = '0' := (eq_of_toLower (by decide) hzero).elim id id
    cases rest with
    | nil => cases hrest
    | cons d rest =>
      by_cases hd : d = '_'
      · -- a letter behind an underscore does not announce a base
        subst hd
        obtain ⟨-, e, he, hdigit⟩ := hseparated ['0'] rest rfl
        change isDigitOf 10 e at hdigit
        have hne : e ≠ '_' := by
          rintro rfl
          simp [not_isDigitOf_underscore (show 10 ≤ 16 by decide)] at hdigit
        obtain ⟨more, rfl⟩ := List.head?_eq_some_iff.mp he
        have hskip : plainToken ('_' :: e :: more) = plainToken (e :: more) := rfl
        rw [hskip, plainToken_cons hne] at hrest
        rw [(hcase (List.cons.inj hrest).1).2] at hdigit
        cases hdigit
      · rw [plainToken_cons hd] at hrest ⊢
        exact ⟨base, ['0', d], rest, rfl, rfl, hbase, (hcase (List.cons.inj hrest).1).1, rfl⟩

/-- A base other than ten is recognised also without the underscores. -/
theorem baseInUse_of_baseOfMark {token : List Char} (h : baseOfMark (plainToken token) = none) :
    baseInUse token = .decimal := by
  unfold baseInUse
  split <;> first | rfl | cases h

/-- A number without underscores that does not begin with a zero too many has no other digit after a
zero at its beginning. -/
theorem zeros_of_plainToken {token : List Char}
    (h : (decide (1 < (plainToken token).length) && (plainToken token).head? == some '0' &&
      (plainToken token).any (· != '0')) = false) (hhead : token.head? = some '0') :
    ∀ c ∈ token, c = '0' ∨ c = '_' := by
  obtain ⟨rest, rfl⟩ := List.head?_eq_some_iff.mp hhead
  rw [plainToken_cons (by decide)] at h
  intro c hc
  by_contra hother
  rw [not_or] at hother
  have hmem : c ∈ rest := (List.mem_cons.mp hc).resolve_left hother.1
  have hplain : c.toLower ∈ plainToken rest :=
    List.mem_map_of_mem (List.mem_filter.mpr ⟨hmem, by simpa using hother.2⟩)
  have hne : c.toLower ≠ '0' := fun hzero =>
    hother.1 ((eq_of_toLower (by decide) hzero).elim id id)
  have hlength := List.length_pos_of_mem hplain
  have hany : ('0'.toLower :: plainToken rest).any (· != '0') = true :=
    List.any_eq_true.mpr ⟨c.toLower, List.mem_cons_of_mem _ hplain, by simpa using hne⟩
  rw [hany, List.length_cons, decide_eq_true (by omega)] at h
  cases h

section Token

variable {negative : Bool} {token : List Char} {value : Value}

/-- A token with the mark of a base that has a value is a number if it is well separated. -/
theorem numeral_of_base (hhead : token.head? ≠ some '_') (hseparated : WellSeparated token)
    {radix : Nat} (hradix : baseOfMark (plainToken token) = some radix) {size : Nat}
    (hsize : natOfDigits radix ((plainToken token).drop 2) = some size) : Numeral token := by
  obtain ⟨base, mark, rest, rfl, rfl, hbase, hmark, hrest⟩ :=
    exists_mark_of_baseOfMark hhead hseparated hradix
  obtain ⟨gap, run, rfl, hgap, hbetween⟩ := hseparated.of_append hbase hmark
  have hrun : plainToken (gap ++ run) = plainToken run := by rcases hgap with rfl | rfl <;> rfl
  rw [hrest, hrun] at hsize
  exact .based hbase hmark hgap (.of_natOfDigits base.radix_le hsize hbetween)

/-- A run of decimal digits has neither a point nor an exponent. -/
theorem DigitRun.any_plainToken (h : DigitRun 10 token) :
    ((plainToken token).any fun c => c == '.' || c == 'e') = false := by
  rw [List.any_eq_false]
  intro c hc
  obtain ⟨d, hd, rfl⟩ := List.mem_map.mp hc
  have hdigit := isDigit_of_isDigitOf (h.isDigitOf_of_mem_filter d hd)
  obtain ⟨-, -, hlower, hmarks⟩ := of_isDigit hdigit
  rw [hlower]
  simp_all

/-- A token with a value is a number if it is well separated. -/
theorem numeral_of_numberValue (hvalue : numberValue negative (plainToken token) = some value)
    (hhead : token.head? ≠ some '_') (hseparated : WellSeparated token) : Numeral token := by
  rw [numberValue] at hvalue
  split at hvalue
  · rename_i radix hradix
    obtain ⟨size, hsize, -⟩ := Option.bind_eq_some_iff.mp hvalue
    exact numeral_of_base hhead hseparated hradix hsize
  · rename_i hnone
    have hbetween := (wellSeparated_iff_between (baseInUse_of_baseOfMark hnone)).mp hseparated
    split at hvalue
    · rename_i hfloat
      obtain ⟨bits, hbits, -⟩ := Option.bind_eq_some_iff.mp hvalue
      obtain ⟨mantissa, exponent, rfl, hmantissa, rfl | hexponent⟩ := parts_of_float hbits hbetween
      · rw [List.append_nil] at hfloat ⊢
        rcases hmantissa with hrun | hpoint
        · rw [hrun.any_plainToken] at hfloat
          cases hfloat
        · exact .point hpoint
      · exact .exponent hmantissa hexponent
    · split at hvalue
      · cases hvalue
      · rename_i hzeros
        obtain ⟨size, hsize, -⟩ := Option.bind_eq_some_iff.mp hvalue
        exact .decimal (.of_natOfDigits (by decide) hsize hbetween)
          (zeros_of_plainToken (by simpa using hzeros))

/-- The underscores taken out, a token begins as before and has the same letters, digits and signs. -/
theorem plainToken_filter : plainToken (token.filter (· != '_')) = plainToken token := by
  rw [plainToken, List.filter_filter]
  simp [plainToken]

/-- There is no sign in a hexadecimal number that has a value. -/
theorem not_hexadecimal_of_sign {front rest : List Char} {sign : Char} (hsign : sign = '+' ∨ sign = '-')
    (hvalue : numberValue negative ((front ++ sign :: rest).map Char.toLower) = some value) :
    ['0', 'x'].isPrefixOf front = false ∧ ['0', 'X'].isPrefixOf front = false := by
  have hnone {letter : Char} (hletter : letter.toLower = 'x') (digits : List Char)
      (hfront : front = '0' :: letter :: digits) : False := by
    rw [hfront, List.map_append, List.map_cons, List.map_cons, hletter, numberValue] at hvalue
    obtain ⟨size, hsize, -⟩ := Option.bind_eq_some_iff.mp hvalue
    rw [List.cons_append, List.cons_append, List.drop_succ_cons, List.drop_succ_cons, List.drop_zero,
      ← List.map_append] at hsize
    have hdigit := (isDigitOf_of_natOfDigits hsize).2 sign (by simp)
    have hnot : isDigitOf 16 sign = false := by rcases hsign with rfl | rfl <;> decide
    rw [hnot] at hdigit
    cases hdigit
  constructor
  all_goals
    rw [Bool.eq_false_iff, Ne, List.isPrefixOf_iff_prefix]
    rintro ⟨digits, rfl⟩
    exact hnone rfl digits rfl

/-- The shape of a number token that has a value stays when its underscores are taken out. -/
theorem NumberShape.filter (hshape : NumberShape token)
    (hvalue : numberValue negative (plainToken token) = some value) :
    NumberShape (token.filter (· != '_')) := by
  cases hshape with
  | run hrun => exact .run fun c hc => hrun c (List.mem_filter.mp hc).1
  | @exponent run exponent sign hrun hmark hsign hexponent =>
    have hkept : sign ≠ '_' := by rcases hsign with rfl | rfl <;> decide
    rw [plainToken, List.filter_append, List.filter_cons_of_pos (by simpa using hkept)] at hvalue
    rw [List.filter_append, List.filter_cons_of_pos (by simpa using hkept)]
    refine .exponent (fun c hc => hrun c (List.mem_filter.mp hc).1) ?_ hsign
      fun c hc => hexponent c (List.mem_filter.mp hc).1
    obtain ⟨hlower, hupper⟩ := not_hexadecimal_of_sign hsign hvalue
    rw [endsInExponentMark, Bool.and_eq_true] at hmark ⊢
    refine ⟨?_, by rw [hlower, hupper]; rfl⟩
    have hlast {mark : Char} (hne : mark ≠ '_') (h : run.getLast? = some mark) :
        (run.filter (· != '_')).getLast? = some mark := by
      obtain ⟨front, rfl⟩ := List.getLast?_eq_some_iff.mp h
      rw [List.filter_append, List.filter_cons_of_pos (by simpa using hne)]
      simp
    simp only [Bool.or_eq_true, beq_iff_eq] at hmark ⊢
    exact hmark.1.imp (hlast (by decide)) (hlast (by decide))

/-- What is known of a number token that is read. -/
theorem NumberToken.reads (h : NumberToken negative token value) :
    hasDoubleUnderscore token = false ∧ token.head? ≠ some '_' ∧ token.getLast? ≠ some '_' ∧
      numberValue negative (plainToken token) = some value := by
  obtain ⟨found, hsplit, hdouble, hlast, hvalue⟩ := readNumber_eq_ok_iff.mp h.denotes
  obtain ⟨-, rfl⟩ := shape_of_splitNumber hsplit
  rw [List.append_nil]
  refine ⟨hdouble, fun hhead => ?_, hlast, hvalue⟩
  have hbegins := h.begins
  rw [List.append_nil, hhead] at hbegins
  cases hbegins

/-- A number token without its underscores denotes the same value. -/
theorem NumberToken.filter (h : NumberToken negative token value) :
    NumberToken negative (token.filter (· != '_')) value := by
  obtain ⟨-, hhead, -, hvalue⟩ := h.reads
  have hplain : '_' ∉ token.filter (· != '_') := by simp
  refine ⟨?_, readNumber_eq_ok_iff.mpr ⟨_, splitNumber_of_shape_nil (h.shape.filter hvalue),
    hasDoubleUnderscore_of_not_mem hplain, fun hlast => hplain (List.mem_of_getLast? hlast), ?_⟩⟩
  · have hbegins := h.begins
    cases token with
    | nil => cases hbegins
    | cons c rest =>
      have hc : c ≠ '_' := by simpa using hhead
      rw [List.filter_cons_of_pos (by simpa using hc)]
      exact hbegins
  · exact (congrArg (numberValue negative) plainToken_filter).trans hvalue

end Token

/-- Whether a value is a number. -/
def isNumber : Value → Bool
  | .int _ | .float _ => true
  | _ => false

/-- Where a number token stands in a text: alone, after a sign and blanks, or in round brackets with
blanks around it. -/
inductive AroundNumber (token : List Char) : List Char → Prop where
  /-- The token alone. -/
  | unsigned : AroundNumber token token
  /-- The token after a sign and blanks. -/
  | signed {sign : Char} {gap : List Char} (hsign : sign = '+' ∨ sign = '-') (hgap : isBlankText gap) :
      AroundNumber token (sign :: (gap ++ token))
  /-- Round brackets that only group. -/
  | grouped {before body after : List Char} (hbefore : isBlankText before)
      (hbody : AroundNumber token body) (hafter : isBlankText after) :
      AroundNumber token ('(' :: (before ++ (body ++ after) ++ [')']))

/-- A literal that denotes a number is a number token with a sign or none, perhaps in round brackets. -/
theorem Expr.exists_token {room : Nat} {text : List Char} {value : Value} (h : Expr room text value)
    (hnumber : isNumber value) :
    ∃ token negative, AroundNumber token text ∧ NumberToken negative token value := by
  have hscalar {text : List Char} (h : Scalar text value) :
      ∃ token negative, AroundNumber token text ∧ NumberToken negative token value := by
    cases h with
    | trueWord | falseWord | noneWord | text => cases hnumber
    | unsigned htoken => exact ⟨_, _, .unsigned, htoken⟩
    | signed hsign hgap htoken => exact ⟨_, _, .signed hsign hgap, htoken⟩
  induction room generalizing text with
  | zero => exact hscalar h
  | succ room ih =>
    obtain h | hbracketed := h
    · exact hscalar h
    · cases hbracketed with
      | list | tuple | dict => cases hnumber
      | group hitems =>
        generalize hone : [value] = items at hitems
        generalize hlast : false = trailing at hitems
        cases hitems with
        | nil => cases hone
        | last hitem =>
          obtain ⟨rfl, -⟩ := List.cons.inj hone
          obtain ⟨hbefore, hbody, hafter⟩ := hitem
          obtain ⟨token, negative, haround, htoken⟩ := ih hbody
          exact ⟨token, negative, .grouped hbefore haround hafter, htoken⟩
        | cons hitem hmore =>
          obtain ⟨-, rfl⟩ := List.cons.inj hone
          cases hlast

/-- A source that is read as a number holds a number token, perhaps after a sign and in round
brackets. Without its underscores this token is a number of Python and is read as the same value. The
underscores stand one by one inside the token, and the token as it is written is a number of Python
exactly if they are well separated. -/
theorem read_number {source : String} {value : Value} (hread : read source = .ok value)
    (hnumber : isNumber value) :
    ∃ before text after token negative, source.toList = before ++ (text ++ after) ∧
      isBlankText before ∧ isBlankText after ∧ AroundNumber token text ∧
      NumberToken negative token value ∧
      Numeral (token.filter (· != '_')) ∧ NumberToken negative (token.filter (· != '_')) value ∧
      (hasDoubleUnderscore token = false ∧ token.head? ≠ some '_' ∧ token.getLast? ≠ some '_') ∧
      (Numeral token ↔ WellSeparated token) := by
  have hspaced := (read_eq_ok_iff_denotes source value).mp hread
  generalize htext : source.toList = whole at hspaced
  obtain ⟨hbefore, hbody, hafter⟩ := hspaced
  obtain ⟨token, negative, haround, htoken⟩ := Expr.exists_token hbody hnumber
  obtain ⟨hdouble, hhead, hlast, hvalue⟩ := htoken.reads
  obtain ⟨-, hheadPlain, -, hvaluePlain⟩ := htoken.filter.reads
  have hplain : WellSeparated (token.filter (· != '_')) := by
    intro front rest hfilter
    have hmem : '_' ∈ token.filter (· != '_') := by simp [hfilter]
    simp at hmem
  exact ⟨_, _, _, token, negative, rfl, hbefore, hafter, haround, htoken,
    numeral_of_numberValue hvaluePlain hheadPlain hplain, htoken.filter, ⟨hdouble, hhead, hlast⟩,
    Numeral.wellSeparated, numeral_of_numberValue hvalue hhead⟩

/-- A grouped hexadecimal number with an underscore after its mark. -/
theorem read_grouped_hexadecimal :
    read "( - 0x_1F)" = .ok (.int (-31)) ∧ isNumber (.int (-31)) ∧
      ∃ before text after token negative, "( - 0x_1F)".toList = before ++ (text ++ after) ∧
        isBlankText before ∧ isBlankText after ∧ AroundNumber token text ∧
        NumberToken negative token (.int (-31)) ∧
        Numeral (token.filter (· != '_')) ∧
        NumberToken negative (token.filter (· != '_')) (.int (-31)) ∧
        (hasDoubleUnderscore token = false ∧ token.head? ≠ some '_' ∧ token.getLast? ≠ some '_') ∧
        (Numeral token ↔ WellSeparated token) := by
  have hread : read "( - 0x_1F)" = .ok (.int (-31)) := read_ofList_eq_ok_iff.mpr rfl
  exact ⟨hread, rfl, read_number hread rfl⟩

/-- An underscore before a point is read, although a number of Python has none there. -/
theorem read_underscore_point :
    read "1_.5" = .ok (.float ⟨false, 0x3ff8000000000000⟩) ∧
      NumberToken false ['1', '_', '.', '5'] (.float ⟨false, 0x3ff8000000000000⟩) ∧
      ¬Numeral ['1', '_', '.', '5'] := by
  have hbits : decimalBits ['1', '.', '5'] = some 0x3ff8000000000000 := by decide +kernel
  have hvalue : numberValue false ['1', '.', '5'] = some (.float ⟨false, 0x3ff8000000000000⟩) := by
    simp [numberValue, baseOfMark, hbits, Binary64.infinityBits]
  have htoken : NumberToken false ['1', '_', '.', '5'] (.float ⟨false, 0x3ff8000000000000⟩) :=
    ⟨rfl, readNumber_eq_ok_iff.mpr ⟨_, rfl, rfl, by decide, hvalue⟩⟩
  have hspaced : Denotes ([] ++ (['1', '_', '.', '5'] ++ [])) (.float ⟨false, 0x3ff8000000000000⟩) :=
    .intro rfl (.inl (.unsigned htoken)) rfl
  refine ⟨(read_eq_ok_iff_denotes _ _).mpr hspaced, htoken, fun hnumeral => ?_⟩
  obtain ⟨-, next, hnext, hdigit⟩ := hnumeral.wellSeparated ['1'] ['.', '5'] rfl
  obtain rfl : '.' = next := Option.some.inj hnext
  cases hdigit

end NotebookLint.Literal
