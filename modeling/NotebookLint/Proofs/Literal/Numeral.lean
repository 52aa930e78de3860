import NotebookLint.Proofs.Literal.Integer

/-!
# Numbers in Python

The Python grammar of integers and of numbers with a point or an exponent. The underscores in such a
number are well separated: each stands between two digits of the base in use, or between the mark of
this base and a digit. Conversely a text of digits and underscores is a run of digits if its
underscores are well separated, which is what the rules of the grammar are made of.
-/

namespace NotebookLint.Literal

/-- The exponent of a number. -/
inductive Exponent : List Char → Prop where
  /-- A mark, perhaps a sign, and digits. -/
  | intro {mark : Char} {sign : Option Char} {run : List Char} (hmark : mark = 'e' ∨ mark = 'E')
      (hsign : ∀ c ∈ sign, c = '+' ∨ c = '-') (hrun : DigitRun 10 run) :
      Exponent (mark :: (sign.toList ++ run))

/-- A number with a point. -/
inductive PointFloat : List Char → Prop where
  /-- Digits after the point, and perhaps before it. -/
  | fraction {whole fraction : List Char} (hwhole : whole = [] ∨ DigitRun 10 whole)
      (hfraction : DigitRun 10 fraction) : PointFloat (whole ++ '.' :: fraction)
  /-- Digits only before the point. -/
  | trailing {whole : List Char} (hwhole : DigitRun 10 whole) : PointFloat (whole ++ ['.'])

/-- An integer or a floating-point number of Python. -/
inductive Numeral : List Char → Prop where
  /-- An integer in base ten, which begins with a zero only if it has no other digit. -/
  | decimal {run : List Char} (hrun : DigitRun 10 run)
      (hzeros : run.head? = some '0' → ∀ c ∈ run, c = '0' ∨ c = '_') : Numeral run
  /-- An integer in another base, with its mark, perhaps an underscore, and its digits. -/
  | based {base : Base} {mark gap run : List Char} (hbase : base ≠ .decimal)
      (hmark : mark ∈ base.marks) (hgap : gap = [] ∨ gap = ['_'])
      (hrun : DigitRun base.radix run) : Numeral (mark ++ (gap ++ run))
  /-- A number with a point. -/
  | point {token : List Char} (hpoint : PointFloat token) : Numeral token
  /-- A number with an exponent. -/
  | exponent {mantissa exponent : List Char} (hmantissa : DigitRun 10 mantissa ∨ PointFloat mantissa)
      (hexponent : Exponent exponent) : Numeral (mantissa ++ exponent)

/-- The base in which a token is written. -/
def baseInUse : List Char → Base
  | '0' :: 'x' :: _ | '0' :: 'X' :: _ => .hexadecimal
  | '0' :: 'o' :: _ | '0' :: 'O' :: _ => .octal
  | '0' :: 'b' :: _ | '0' :: 'B' :: _ => .binary
  | _ => .decimal

/-- Every underscore of a token has a digit of the base in use directly after it, and another one or
the mark of the base directly before it. -/
def WellSeparated (token : List Char) : Prop :=
  ∀ before after, token = before ++ '_' :: after →
    ((∃ c ∈ before.getLast?, isDigitOf (baseInUse token).radix c) ∨
        before ≠ [] ∧ before ∈ (baseInUse token).marks) ∧
      ∃ c ∈ after.head?, isDigitOf (baseInUse token).radix c

/-- Every underscore of a text stands between two characters of a class. -/
def Between (p : Char → Bool) (text : List Char) : Prop :=
  ∀ before after, text = before ++ '_' :: after →
    (∃ c ∈ before.getLast?, p c) ∧ ∃ c ∈ after.head?, p c

section Between

variable {p : Char → Bool} {c : Char} {text front rest : List Char}

/-- Without underscores there is nothing to separate. -/
theorem between_of_not_mem (h : '_' ∉ text) : Between p text := by
  rintro before after rfl
  simp at h

/-- The end of a text whose underscores stand between characters of a class is such a text, unless
it begins with an underscore. -/
theorem Between.of_append (h : Between p (front ++ rest)) (hhead : rest.head? ≠ some '_') :
    Between p rest := by
  rintro before after rfl
  obtain ⟨hlast, hnext⟩ := h (front ++ before) after (by simp)
  refine ⟨?_, hnext⟩
  have hne : before ≠ [] := by
    rintro rfl
    exact hhead rfl
  rwa [List.getLast?_append_of_ne_nil _ hne] at hlast

/-- A character that is no underscore may stand before such a text. -/
theorem Between.cons (h : Between p rest) (hc : c ≠ '_') : Between p (c :: rest) := by
  intro before after htext
  cases before with
  | nil => exact absurd (List.cons.inj htext).1 hc
  | cons d before =>
    obtain ⟨rfl, rfl⟩ := List.cons.inj htext
    obtain ⟨⟨last, hlast, hp⟩, hnext⟩ := h before after rfl
    exact ⟨⟨last, by simp [List.getLast?_cons, Option.mem_def.mp hlast], hp⟩, hnext⟩

/-- A text around a character outside the class has its underscores between characters of the class
exactly if both sides have. -/
theorem between_append_cons_iff (hc : c ≠ '_') (hp : p c = false) :
    Between p (front ++ c :: rest) ↔ Between p front ∧ Between p rest := by
  constructor
  · intro h
    constructor
    · rintro before after rfl
      obtain ⟨hlast, hnext⟩ := h before (after ++ c :: rest) (by simp)
      refine ⟨hlast, ?_⟩
      cases after with
      | nil => simp [hp] at hnext
      | cons d after => exact hnext
    · have htail : Between p ([c] ++ rest) :=
        h.of_append (by simpa using hc)
      refine htail.of_append fun hhead => ?_
      obtain ⟨after, rfl⟩ := List.head?_eq_some_iff.mp hhead
      obtain ⟨hlast, -⟩ := htail [c] after rfl
      simp [hp] at hlast
  · rintro ⟨hfront, hrest⟩ before after htext
    obtain ⟨more, rfl, hmore⟩ | ⟨more, rfl, hmore⟩ := List.append_eq_append_iff.mp htext
    · cases more with
      | nil => exact absurd (List.cons.inj hmore).1 hc
      | cons d more =>
        obtain ⟨rfl, rfl⟩ := List.cons.inj hmore
        obtain ⟨⟨last, hlast, hpLast⟩, hnext⟩ := hrest more after rfl
        refine ⟨⟨last, ?_, hpLast⟩, hnext⟩
        simp [List.getLast?_append, List.getLast?_cons, Option.mem_def.mp hlast]
    · cases more with
      | nil => exact absurd (List.cons.inj hmore).1.symm hc
      | cons d more =>
        obtain ⟨rfl, rfl⟩ := List.cons.inj hmore
        obtain ⟨hlast, ⟨next, hnext, hpNext⟩⟩ := hfront before more rfl
        exact ⟨hlast, next, by simp [List.head?_append, Option.mem_def.mp hnext], hpNext⟩

end Between

section Runs

variable {base : Nat} {run : List Char}

/-- The underscores of a run of digits stand between digits. -/
theorem DigitRun.between (hbase : base ≤ 16) (h : DigitRun base run) :
    Between (isDigitOf base) run := by
  have hne {c : Char} (hc : isDigitOf base c) : c ≠ '_' := by
    rintro rfl
    simp [not_isDigitOf_underscore hbase] at hc
  induction h with
  | single hc => exact between_of_not_mem (by simpa using (hne hc).symm)
  | next hc _ ih => exact ih.cons (hne hc)
  | @separated c rest hc hrest ih =>
    obtain ⟨d, more, rfl, hd⟩ := hrest.exists_head
    intro before after htext
    rcases before with _ | ⟨first, _ | ⟨second, before⟩⟩
    · exact absurd (List.cons.inj htext).1 (hne hc)
    · obtain ⟨rfl, hrest⟩ := List.cons.inj htext
      obtain ⟨-, rfl⟩ := List.cons.inj hrest
      exact ⟨⟨c, rfl, hc⟩, d, rfl, hd⟩
    · obtain ⟨rfl, hbehind⟩ := List.cons.inj htext
      obtain ⟨rfl, hinside⟩ := List.cons.inj hbehind
      obtain ⟨⟨last, hlast, hp⟩, hnext⟩ := ih before after hinside
      exact ⟨⟨last, by simp [List.getLast?_cons, Option.mem_def.mp hlast], hp⟩, hnext⟩

/-- Digits with underscores between them are a run. -/
theorem DigitRun.of_between (hbase : base ≤ 16) (hne : run ≠ [])
    (hrun : ∀ c ∈ run, isDigitOf base c ∨ c = '_') (hbetween : Between (isDigitOf base) run) :
    DigitRun base run := by
  induction hlength : run.length using Nat.strong_induction_on generalizing run with
  | _ length ih =>
  subst hlength
  match run with
  | [] => exact absurd rfl hne
  | c :: rest =>
    obtain ⟨hc, hrest⟩ := List.forall_mem_cons.mp hrun
    have hdigit : isDigitOf base c := by
      refine hc.resolve_right ?_
      rintro rfl
      simpa using (hbetween [] rest rfl).1
    match rest with
    | [] => exact .single hdigit
    | d :: rest =>
      by_cases hd : d = '_'
      · subst hd
        obtain ⟨-, next, hnext, hnextDigit⟩ := hbetween [c] rest rfl
        have hhead : rest.head? ≠ some '_' := by
          rintro hhead
          obtain rfl := Option.some.inj (hhead.symm.trans hnext)
          simp [not_isDigitOf_underscore hbase] at hnextDigit
        have hbehind : Between (isDigitOf base) ([c, '_'] ++ rest) := hbetween
        have hrestNe : rest ≠ [] := by
          rintro rfl
          cases hnext
        exact .separated hdigit (ih rest.length (by simp only [List.length_cons]; omega) hrestNe
          (fun e he => hrest e (List.mem_cons_of_mem _ he)) (hbehind.of_append hhead) rfl)
      · have hbehind : Between (isDigitOf base) ([c] ++ d :: rest) := hbetween
        exact .next hdigit (ih (d :: rest).length (by simp) (List.cons_ne_nil d rest) hrest
          (hbehind.of_append (by simpa using hd)) rfl)

end Runs

/-- The letters that announce bases. -/
def baseLetters : List Char :=
  ['x', 'X', 'o', 'O', 'b', 'B']

/-- Without the letter of another base a token is written in base ten. -/
theorem baseInUse_eq_decimal {token : List Char} (h : ∀ c ∈ token, c ∉ baseLetters) :
    baseInUse token = .decimal := by
  unfold baseInUse
  split <;> first
    | rfl
    | exact absurd (h _ (List.mem_cons_of_mem _ List.mem_cons_self)) (by decide)

/-- What the mark of a base other than ten is made of. -/
theorem Base.marks_ne_decimal {base : Base} (hbase : base ≠ .decimal) :
    ∀ mark ∈ base.marks, mark.length = 2 ∧ '_' ∉ mark ∧ ∀ rest, baseInUse (mark ++ rest) = base := by
  cases base with
  | decimal => exact absurd rfl hbase
  | hexadecimal | octal | binary =>
    intro mark hmark
    simp only [Base.marks, List.mem_cons, List.not_mem_nil, or_false] at hmark
    rcases hmark with rfl | rfl <;> exact ⟨rfl, by decide, fun _ => rfl⟩

/-- A token of base ten is well separated if its underscores stand between digits. -/
theorem wellSeparated_iff_between {token : List Char} (hdecimal : baseInUse token = .decimal) :
    WellSeparated token ↔ Between (isDigitOf 10) token := by
  have hmarks (before : List Char) : ¬(before ≠ [] ∧ before ∈ Base.decimal.marks) := by
    simp [Base.marks]
  simp only [WellSeparated, hdecimal, hmarks, or_false]
  rfl

section Marks

variable {base : Base} (hbase : base ≠ .decimal) {mark : List Char} (hmark : mark ∈ base.marks)

include hbase hmark

/-- A token that is the mark of a base, perhaps an underscore, and a run of digits is well separated. -/
theorem wellSeparated_append {gap run : List Char} (hgap : gap = [] ∨ gap = ['_'])
    (hrun : DigitRun base.radix run) : WellSeparated (mark ++ (gap ++ run)) := by
  obtain ⟨hlength, hplain, hinUse⟩ := base.marks_ne_decimal hbase mark hmark
  have hmarkNe : mark ≠ [] := by
    rintro rfl
    cases hlength
  have hbetween := hrun.between base.radix_le
  obtain ⟨first, others, hfirst, hdigit⟩ := hrun.exists_head
  intro before after htext
  rw [hinUse]
  -- the underscore does not belong to the mark
  obtain ⟨more, rfl, hmore⟩ : ∃ more, before = mark ++ more ∧ gap ++ run = more ++ '_' :: after := by
    obtain ⟨more, rfl, hmore⟩ | ⟨more, rfl, hmore⟩ := List.append_eq_append_iff.mp htext
    · exact ⟨more, rfl, hmore⟩
    · cases more with
      | nil => exact ⟨[], by simp, hmore.symm⟩
      | cons d more =>
        obtain ⟨rfl, -⟩ := List.cons.inj hmore
        simp at hplain
  cases more with
  | nil =>
    refine ⟨.inr ⟨by simpa using hmarkNe, by simpa using hmark⟩, ?_⟩
    rcases hgap with rfl | rfl
    · simpa using (hbetween [] after hmore).1
    · obtain ⟨-, rfl⟩ := List.cons.inj hmore
      exact ⟨first, by rw [hfirst]; rfl, hdigit⟩
  | cons d more =>
    have hinside : (∃ c ∈ (d :: more).getLast?, isDigitOf base.radix c) ∧
        ∃ c ∈ after.head?, isDigitOf base.radix c := by
      rcases hgap with rfl | rfl
      · exact hbetween (d :: more) after hmore
      · obtain ⟨⟨last, hlast, hp⟩, hnext⟩ := hbetween more after (List.cons.inj hmore).2
        exact ⟨⟨last, by simp [List.getLast?_cons, Option.mem_def.mp hlast], hp⟩, hnext⟩
    rw [List.getLast?_append_of_ne_nil _ (List.cons_ne_nil d more)]
    exact hinside.imp_left .inl

/-- In a token that has the mark of a base and is well separated, there is perhaps an underscore
directly after the mark, and every other one stands between digits. -/
theorem WellSeparated.of_append {rest : List Char} (h : WellSeparated (mark ++ rest)) :
    ∃ gap run, rest = gap ++ run ∧ (gap = [] ∨ gap = ['_']) ∧
      Between (isDigitOf base.radix) run := by
  obtain ⟨hlength, hplain, hinUse⟩ := base.marks_ne_decimal hbase mark hmark
  have hinside {before after : List Char} (hne : before ≠ []) (hrest : rest = before ++ '_' :: after) :
      (∃ c ∈ before.getLast?, isDigitOf base.radix c) ∧
        ∃ c ∈ after.head?, isDigitOf base.radix c := by
    obtain ⟨hlast, hnext⟩ := h (mark ++ before) after (by rw [hrest, List.append_assoc])
    rw [hinUse] at hlast hnext
    refine ⟨?_, hnext⟩
    obtain hlast | ⟨-, hmem⟩ := hlast
    · rwa [List.getLast?_append_of_ne_nil _ hne] at hlast
    · have hlonger := (base.marks_ne_decimal hbase _ hmem).1
      rw [List.length_append, hlength] at hlonger
      exact absurd (List.eq_nil_of_length_eq_zero (by omega)) hne
  by_cases hhead : rest.head? = some '_'
  · obtain ⟨run, rfl⟩ := List.head?_eq_some_iff.mp hhead
    refine ⟨['_'], run, rfl, .inr rfl, ?_⟩
    rintro before after rfl
    obtain ⟨hlast, hnext⟩ := hinside (List.cons_ne_nil '_' before) rfl
    refine ⟨?_, hnext⟩
    cases before with
    | nil => simp [not_isDigitOf_underscore base.radix_le] at hlast
    | cons d before => simpa [List.getLast?_cons] using hlast
  · refine ⟨[], rest, rfl, .inl rfl, fun before after hrest => hinside ?_ hrest⟩
    rintro rfl
    rw [hrest] at hhead
    exact hhead rfl

end Marks

/-- A text without the letters of other bases, whose underscores stand between decimal digits. -/
structure InBaseTen (text : List Char) : Prop where
  /-- There is no letter of another base. -/
  letters : ∀ c ∈ text, c ∉ baseLetters
  /-- The underscores stand between digits. -/
  between : Between (isDigitOf 10) text

namespace InBaseTen

/-- Nothing has no letters and no underscores. -/
theorem nil : InBaseTen [] :=
  ⟨by simp, between_of_not_mem (by simp)⟩

/-- A run of digits is in base ten. -/
theorem of_run {run : List Char} (h : DigitRun 10 run) : InBaseTen run where
  letters := by
    intro c hc
    rcases h.isDigitOf_or_eq c hc with hdigit | rfl
    · exact of_digitChars (p := fun d => isDigitOf 10 d → d ∉ baseLetters) (by decide) (by decide)
        hdigit hdigit
    · decide
  between := h.between (by decide)

/-- Two texts in base ten with a point, a mark or a sign between them are one. -/
theorem append_cons {front rest : List Char} (hfront : InBaseTen front) {c : Char}
    (hc : c ∈ ['.', 'e', 'E', '+', '-']) (hrest : InBaseTen rest) : InBaseTen (front ++ c :: rest) := by
  have hall : ∀ d ∈ ['.', 'e', 'E', '+', '-'], d ∉ baseLetters ∧ d ≠ '_' ∧ isDigitOf 10 d = false :=
    List.all_iff_forall_prop.mp (by decide)
  obtain ⟨hletters, hunderscore, hdigit⟩ := hall c hc
  refine ⟨fun d hd => ?_,
    (between_append_cons_iff hunderscore hdigit).mpr ⟨hfront.between, hrest.between⟩⟩
  rw [List.mem_append, List.mem_cons] at hd
  rcases hd with hd | rfl | hd
  · exact hfront.letters d hd
  · exact hletters
  · exact hrest.letters d hd

/-- A number with a point is in base ten. -/
theorem of_pointFloat {token : List Char} (h : PointFloat token) : InBaseTen token := by
  cases h with
  | fraction hwhole hfraction =>
    refine append_cons ?_ (by decide) (of_run hfraction)
    rcases hwhole with rfl | hwhole
    · exact nil
    · exact of_run hwhole
  | trailing hwhole => exact (of_run hwhole).append_cons (by decide) nil

/-- A number with an exponent is in base ten if what stands before the exponent is. -/
theorem append_exponent {mantissa exponent : List Char} (hmantissa : InBaseTen mantissa)
    (h : Exponent exponent) : InBaseTen (mantissa ++ exponent) := by
  obtain ⟨hmark, hsign, hrun⟩ := h
  rename_i mark sign run
  refine hmantissa.append_cons (by rcases hmark with rfl | rfl <;> decide) ?_
  cases sign with
  | none => exact of_run hrun
  | some c =>
    refine nil.append_cons ?_ (of_run hrun)
    rcases hsign c rfl with rfl | rfl <;> decide

/-- A token in base ten is well separated. -/
theorem wellSeparated {token : List Char} (h : InBaseTen token) : WellSeparated token :=
  (wellSeparated_iff_between (baseInUse_eq_decimal h.letters)).mpr h.between

end InBaseTen

/-- The underscores of a number are well separated. -/
theorem Numeral.wellSeparated {token : List Char} (h : Numeral token) : WellSeparated token := by
  cases h with
  | decimal hrun => exact (InBaseTen.of_run hrun).wellSeparated
  | based hbase hmark hgap hrun => exact wellSeparated_append hbase hmark hgap hrun
  | point hpoint => exact (InBaseTen.of_pointFloat hpoint).wellSeparated
  | exponent hmantissa hexponent =>
    refine (InBaseTen.append_exponent ?_ hexponent).wellSeparated
    rcases hmantissa with hrun | hpoint
    · exact .of_run hrun
    · exact .of_pointFloat hpoint

end NotebookLint.Literal
