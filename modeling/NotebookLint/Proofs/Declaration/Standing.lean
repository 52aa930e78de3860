import NotebookLint.Proofs.Declaration.LineEnd

/-!
# Where the name of a declaration stands

A logical line is not a part of the text: comments are missing in it, and a backslash with its line
feed has become a space. What it begins with is one nevertheless. As long as a line holds nothing but
blanks and a part of a name, no string and no bracket is open, so that the name was read character by
character and stands in the text as a whole: outside strings, comments and brackets, with nothing but
blanks of its line before it.
-/

namespace NotebookLint.Declaration

open NotebookLint.Text NotebookLint.Literal

/-- Whether the scanner is outside strings, perhaps in a comment or behind a backslash. -/
def Mode.isCalm : Mode → Bool
  | .code | .backslash | .comment => true
  | _ => false

/-- Whether a name stands in a text outside strings, comments and brackets, with nothing but blanks
before it in its logical line. -/
def StandsIn (name text : List Char) : Prop :=
  ∃ before after, text = before ++ (name ++ after) ∧
    let s := Scanner.start.run before
    s.mode = .code ∧ s.depth = 0 ∧ isBlankText s.current = true

/-- Whether a line has only begun: it holds blanks and perhaps a part of a name. -/
def Opening (line : List Char) : Prop :=
  ∃ gap name, line = gap ++ name ∧ isBlankText gap = true ∧ ∀ c ∈ name, continuesName c = true

/-- A mark that is no blank belongs to no line that has only begun. -/
theorem Opening.not_mem {line : List Char} (h : Opening line) {c : Char} (hc : c ∈ marks)
    (hline : c ≠ '\n') : c ∉ line := by
  obtain ⟨gap, name, rfl, hgap, hname⟩ := h
  have hall : marks.all (fun d => d == '\n' || (!isBlank d && !continuesName d)) = true := by rfl
  have hmark := List.all_eq_true.mp hall c hc
  simp only [beq_false_of_ne hline, Bool.false_or, Bool.and_eq_true, Bool.not_eq_true'] at hmark
  obtain ⟨hblank, hcontinues⟩ := hmark
  intro hmem
  rcases List.mem_append.mp hmem with hmem | hmem
  · rw [List.all_eq_true.mp hgap c hmem] at hblank
    cases hblank
  · rw [hname c hmem] at hcontinues
    cases hcontinues

/-- What comes before it in a line that has only begun is one as well. -/
theorem Opening.of_prefix {line before : List Char} (h : Opening line) (hbefore : before <+: line) :
    Opening before := by
  obtain ⟨gap, name, rfl, hgap, hname⟩ := h
  rcases List.prefix_or_prefix_of_prefix hbefore (List.prefix_append gap name) with hin | hover
  · refine ⟨before, [], (List.append_nil before).symm, ?_, by simp⟩
    exact List.all_eq_true.mpr fun c hc => List.all_eq_true.mp hgap c (hin.subset hc)
  · obtain ⟨part, rfl⟩ := hover
    have hpart : part <+: name := (List.prefix_append_right_inj gap).mp hbefore
    exact ⟨gap, part, rfl, hgap, fun c hc => hname c (hpart.subset hc)⟩

namespace Scanner

/-- What a character does to a line outside strings and brackets. -/
inductive Adds (done : List (List Char)) (current : List Char) (mode : Mode) (c : Char) :
    Scanner → Prop where
  /-- It is dropped, or kept back until the next one is known. -/
  | nothing {next : Mode} (hnext : next.isCalm = true) (hcode : next ≠ .code) :
      Adds done current mode c ⟨done, current, 0, next⟩
  /-- It ends the line. -/
  | lineEnd : Adds done current mode c ⟨current.reverse :: done, [], 0, .code⟩
  /-- It stays in the line. -/
  | itself (hmode : mode = .code) : Adds done current mode c ⟨done, c :: current, 0, .code⟩
  /-- A backslash and a line feed become a space. -/
  | space : Adds done current mode c ⟨done, ' ' :: current, 0, .code⟩
  /-- A mark that is no line feed comes into the line, perhaps with more behind it. -/
  | mark {d : Char} {kept : List Char} {depth : Nat} {next : Mode} (hd : d ∈ marks)
      (hline : d ≠ '\n') : Adds done current mode c ⟨done, kept ++ d :: current, depth, next⟩

section Step

variable (done : List (List Char)) (current : List Char) {mode : Mode} (c : Char)

/-- In code. -/
theorem adds_stepCode : Adds done current .code c (stepCode ⟨done, current, 0, .code⟩ c) := by
  by_cases hc : c ∈ marks
  · simp only [marks, List.mem_cons, List.not_mem_nil, or_false] at hc
    rcases hc with rfl | rfl | rfl | rfl | rfl | rfl | rfl | rfl | rfl | rfl | rfl
    -- a hash, a backslash, a line feed, two quotes, and the brackets
    · exact .nothing rfl (by decide)
    · exact .nothing rfl (by decide)
    · exact .lineEnd
    all_goals exact @Adds.mark _ _ _ _ _ [] _ _ (by decide) (by decide)
  · have hstep : stepCode ⟨done, current, 0, .code⟩ c = ⟨done, c :: current, 0, .code⟩ := by
      unfold stepCode
      split <;> first
        | rfl
        | exact absurd hc (by decide)
    rw [hstep]
    exact .itself rfl

/-- Outside strings and brackets, also in comments and behind backslashes. -/
theorem adds_step (hmode : mode.isCalm = true) :
    Adds done current mode c (step ⟨done, current, 0, mode⟩ c) := by
  cases mode with
  | code => exact adds_stepCode done current c
  | comment =>
    by_cases hline : c = '\n'
    · subst hline
      exact .lineEnd
    · have hstep : step ⟨done, current, 0, .comment⟩ c = ⟨done, current, 0, .comment⟩ :=
        if_neg hline
      rw [hstep]
      exact .nothing rfl (by decide)
  | backslash =>
    by_cases hline : c = '\n'
    · subst hline
      exact .space
    · have hstep : step ⟨done, current, 0, .backslash⟩ c =
          stepCode ⟨done, '\\' :: current, 0, .code⟩ c := if_neg hline
      rw [hstep]
      cases moves_stepCode 0 .code c with
      | goesOn kept deeper next hmove _ _ =>
        rw [hmove]
        exact .mark (by decide) (by decide)
      | ends hc _ => exact absurd hc hline
  | opened | openedTwice | quoted | escaped | closing | closingTwice => cases hmode

end Step

/-- A text with one more character is read one step further. -/
theorem run_concat (s : Scanner) (text : List Char) (c : Char) :
    s.run (text ++ [c]) = (s.run text).step c := by
  rw [run_append]
  rfl

/-- In code only a line feed outside brackets empties the line. -/
theorem closed_of_stepCode {s : Scanner} {c : Char} (hbefore : s.current ≠ [])
    (hafter : (s.stepCode c).current = []) :
    (s.stepCode c).depth = 0 ∧ (s.stepCode c).mode = .code := by
  unfold stepCode at hafter ⊢
  split at hafter
  -- The first case is a comment, the tenth a backslash, and the eleventh a line feed.
  case h_11 =>
    split at hafter
    · rename_i hdepth
      simp only [if_pos hdepth]
      exact ⟨hdepth, rfl⟩
    · cases hafter
  case h_1 | h_10 => exact absurd hafter hbefore
  all_goals cases hafter

/-- Inside a string no character empties the line. -/
theorem current_stepQuoted_ne_nil (s : Scanner) (quote : Char) (triple : Bool) (c : Char) :
    (s.stepQuoted quote triple c).current ≠ [] := by
  unfold stepQuoted
  split
  · exact List.cons_ne_nil _ _
  · split
    · exact List.cons_ne_nil _ _
    · split <;> exact List.cons_ne_nil _ _

/-- In every mode only a line feed outside brackets empties the line. -/
theorem closed_of_step {s : Scanner} {c : Char} (hbefore : s.current ≠ [])
    (hafter : (s.step c).current = []) : (s.step c).depth = 0 ∧ (s.step c).mode = .code := by
  obtain ⟨done, current, depth, mode⟩ := s
  cases mode with
  | code => exact closed_of_stepCode hbefore hafter
  | comment =>
    simp only [step] at hafter ⊢
    split at hafter
    · rename_i hline
      rw [if_pos hline]
      exact closed_of_stepCode hbefore hafter
    · exact absurd hafter hbefore
  | backslash =>
    simp only [step] at hafter ⊢
    split at hafter
    · cases hafter
    · rename_i hline
      rw [if_neg hline]
      exact closed_of_stepCode (List.cons_ne_nil _ _) hafter
  | openedTwice quote =>
    simp only [step] at hafter ⊢
    split at hafter
    · cases hafter
    · rename_i hquote
      rw [if_neg hquote]
      exact closed_of_stepCode hbefore hafter
  | opened quote =>
    simp only [step] at hafter
    split at hafter
    · cases hafter
    · exact absurd hafter (current_stepQuoted_ne_nil _ _ _ _)
  | quoted quote triple => exact absurd hafter (current_stepQuoted_ne_nil _ _ _ _)
  | escaped quote triple => cases hafter
  | closing quote =>
    simp only [step] at hafter
    split at hafter
    · cases hafter
    · exact absurd hafter (current_stepQuoted_ne_nil _ _ _ _)
  | closingTwice quote =>
    simp only [step] at hafter
    split at hafter
    · cases hafter
    · exact absurd hafter (current_stepQuoted_ne_nil _ _ _ _)

/-- While a line has only begun, no string and no bracket is open. -/
theorem calm_of_opening (text : List Char) (h : Opening (start.run text).current.reverse) :
    (start.run text).depth = 0 ∧ (start.run text).mode.isCalm = true := by
  induction text using List.reverseRecOn with
  | nil => exact ⟨rfl, rfl⟩
  | append_singleton text c ih =>
    rw [run_concat] at h ⊢
    generalize start.run text = s at ih h ⊢
    by_cases hopening : Opening s.current.reverse
    · obtain ⟨hdepth, hmode⟩ := ih hopening
      obtain ⟨done, current, depth, mode⟩ := s
      obtain rfl : depth = 0 := hdepth
      cases hstep : step ⟨done, current, 0, mode⟩ c
      have hadds := adds_step done current c hmode
      rw [hstep] at h hadds
      cases hadds with
      | nothing hnext _ => exact ⟨rfl, hnext⟩
      | lineEnd | itself | space => exact ⟨rfl, rfl⟩
      | mark hd hline => exact absurd (by simp) (h.not_mem hd hline)
    · have hbefore : s.current ≠ [] := fun hnil => hopening ⟨[], [], by simp [hnil], rfl, by simp⟩
      have hafter : (s.step c).current = [] := by
        obtain ⟨done, current, depth, mode⟩ := s
        cases moves_step depth mode c with
        | goesOn kept deeper next hmove _ _ =>
          rw [hmove] at h
          exact absurd (h.of_prefix (by simp)) hopening
        | ends _ hmove => rw [hmove]
      obtain ⟨hdepth, hmode⟩ := closed_of_step hbefore hafter
      exact ⟨hdepth, by rw [hmode]; rfl⟩

/-- What stands in the line stays there until the line ends. -/
theorem prefix_current_step (s : Scanner) (c : Char) (hgoes : (s.step c).current ≠ []) :
    s.current.reverse <+: (s.step c).current.reverse := by
  obtain ⟨done, current, depth, mode⟩ := s
  cases moves_step depth mode c with
  | goesOn kept deeper next hmove _ _ =>
    rw [hmove]
    simp
  | ends _ hmove =>
    rw [hmove] at hgoes
    exact absurd rfl hgoes

/-- A text that ends with a name does not end with a space. -/
theorem concat_space_ne {gap name : List Char} (hname : ∀ c ∈ name, continuesName c = true)
    (hne : name ≠ []) (line : List Char) : line ++ [' '] ≠ gap ++ name := by
  intro h
  obtain ⟨part, last, rfl⟩ : ∃ part last, name = part ++ [last] :=
    (List.eq_nil_or_concat' name).resolve_left hne
  rw [← List.append_assoc] at h
  have hlast := List.singleton_inj.mp (List.append_inj' h rfl).2
  exact absurd (hname last (by simp)) (hlast ▸ by decide)

/-- A name that has just been read in a line that has only begun stands at the end of the text. -/
theorem exists_of_opening {text gap name : List Char} (hgap : isBlankText gap = true)
    (hname : ∀ c ∈ name, continuesName c = true) (hne : name ≠ [])
    (hcurrent : (start.run text).current.reverse = gap ++ name)
    (hmode : (start.run text).mode = .code) :
    ∃ before, text = before ++ name ∧ (start.run before).mode = .code ∧
      (start.run before).depth = 0 ∧ isBlankText (start.run before).current = true := by
  induction text using List.reverseRecOn generalizing name with
  | nil => exact absurd (List.append_eq_nil_iff.mp hcurrent.symm).2 hne
  | append_singleton text c ih =>
    rw [run_concat] at hcurrent hmode
    obtain ⟨part, last, rfl⟩ : ∃ part last, name = part ++ [last] :=
      (List.eq_nil_or_concat' name).resolve_left hne
    have hopening : Opening ((start.run text).step c).current.reverse :=
      ⟨gap, part ++ [last], hcurrent, hgap, hname⟩
    have hgoes : ((start.run text).step c).current ≠ [] := fun hnil => by
      rw [hnil] at hcurrent
      simp at hcurrent
    obtain ⟨hdepth, hcalm⟩ := calm_of_opening _ (hopening.of_prefix (prefix_current_step _ c hgoes))
    generalize hs : start.run text = s at *
    obtain ⟨done, current, depth, mode⟩ := s
    obtain rfl : depth = 0 := hdepth
    cases hstep : step ⟨done, current, 0, mode⟩ c
    have hadds := adds_step done current c hcalm
    rw [hstep] at hadds hcurrent hmode hopening
    cases hadds with
    | nothing _ hcode => exact absurd hmode hcode
    | lineEnd => simp at hcurrent
    | space =>
      rw [List.reverse_cons] at hcurrent
      exact absurd hcurrent (concat_space_ne hname hne _)
    | mark hd hline => exact absurd (by simp) (hopening.not_mem hd hline)
    | itself hbefore =>
      rw [List.reverse_cons, ← List.append_assoc] at hcurrent
      obtain ⟨hline, hlast⟩ := List.append_inj' hcurrent rfl
      obtain rfl := List.singleton_inj.mp hlast
      by_cases hpart : part = []
      · subst hpart
        refine ⟨text, rfl, ?_⟩
        rw [hs]
        refine ⟨hbefore, rfl, ?_⟩
        rw [List.append_nil] at hline
        rw [← hline, isBlankText, List.all_reverse] at hgap
        exact hgap
      · obtain ⟨before, rfl, hstands⟩ :=
          ih (fun d hd => hname d (List.mem_append_left _ hd)) hpart hline hbefore
        exact ⟨before, (List.append_assoc _ _ _), hstands⟩

/-- A name that stands in a text stands in a longer one. -/
theorem StandsIn.append {name text : List Char} (h : StandsIn name text) (more : List Char) :
    StandsIn name (text ++ more) := by
  obtain ⟨before, after, rfl, hstands⟩ := h
  exact ⟨before, after ++ more, by simp, hstands⟩

/-- A line that has only begun and holds a name after a character, but not before it, holds nothing
else, and the scanner is outside strings. -/
theorem holds_of_step {gap name : List Char} (hgap : isBlankText gap = true)
    (hname : ∀ c ∈ name, continuesName c = true) (hne : name ≠ []) {s : Scanner} {c : Char}
    (hdepth : s.depth = 0) (hcalm : s.mode.isCalm = true)
    (hheld : s.current.reverse <+: gap ++ name) (hbefore : ¬gap ++ name <+: s.current.reverse)
    (hbegins : gap ++ name <+: (s.step c).current.reverse) :
    (s.step c).current.reverse = gap ++ name ∧ (s.step c).mode = .code := by
  obtain ⟨done, current, depth, mode⟩ := s
  obtain rfl : depth = 0 := hdepth
  have hadds := adds_step done current c hcalm
  cases hstep : step ⟨done, current, 0, mode⟩ c
  rw [hstep] at hadds hbegins
  cases hadds with
  | nothing => exact absurd hbegins hbefore
  | lineEnd => exact absurd (List.append_eq_nil_iff.mp (List.prefix_nil.mp hbegins)).2 hne
  | itself =>
    rw [List.reverse_cons] at hbegins ⊢
    exact ⟨((List.prefix_concat_iff.mp hbegins).resolve_right hbefore).symm, rfl⟩
  | space =>
    rw [List.reverse_cons] at hbegins
    have hread := (List.prefix_concat_iff.mp hbegins).resolve_right hbefore
    exact absurd hread.symm (concat_space_ne hname hne _)
  | @mark d kept _ _ hd hfeed =>
    have hopening : Opening (gap ++ name) := ⟨gap, name, rfl, hgap, hname⟩
    obtain ⟨part, hpart⟩ := hheld
    rw [List.reverse_append, List.reverse_cons, List.append_assoc, ← hpart,
      List.prefix_append_right_inj] at hbegins
    cases part with
    | nil =>
      rw [List.append_nil] at hpart
      exact absurd (hpart ▸ List.prefix_refl _) hbefore
    | cons e part =>
      obtain rfl : e = d := (List.cons_prefix_cons.mp hbegins).1
      exact absurd (hpart ▸ by simp) (hopening.not_mem hd hfeed)

/-- The name that a line begins with, behind blanks, stands in the text. -/
theorem standsIn_of_mem {text gap name : List Char} (hgap : isBlankText gap = true)
    (hname : ∀ c ∈ name, continuesName c = true) (hne : name ≠ []) {line : List Char}
    (hline : line = (start.run text).current.reverse ∨ line ∈ (start.run text).done)
    (hbegins : gap ++ name <+: line) : StandsIn name text := by
  have hempty : ¬gap ++ name <+: [] := fun h =>
    hne (List.append_eq_nil_iff.mp (List.prefix_nil.mp h)).2
  induction text using List.reverseRecOn generalizing line with
  | nil =>
    rcases hline with rfl | hline
    · exact absurd hbegins hempty
    · cases hline
  | append_singleton text c ih =>
    -- The line may be an earlier one, or have its name already before the last character.
    have hearlier {line : List Char}
        (hline : line = (start.run text).current.reverse ∨ line ∈ (start.run text).done)
        (hbegins : gap ++ name <+: line) : StandsIn name (text ++ [c]) :=
      StandsIn.append (ih hline hbegins) [c]
    rw [run_concat] at hline
    rcases hline with rfl | hline
    case inr =>
      have hdone : line = (start.run text).current.reverse ∨ line ∈ (start.run text).done := by
        generalize start.run text = s at hline
        obtain ⟨done, current, depth, mode⟩ := s
        cases moves_step depth mode c with
        | ends _ hmove =>
          rw [hmove] at hline
          exact List.mem_cons.mp hline
        | goesOn kept deeper next hmove _ _ =>
          rw [hmove] at hline
          exact .inr hline
      exact hearlier hdone hbegins
    by_cases hbefore : gap ++ name <+: (start.run text).current.reverse
    · exact hearlier (.inl rfl) hbefore
    have hgoes : ((start.run text).step c).current ≠ [] := fun hnil => by
      rw [hnil] at hbegins
      exact hempty hbegins
    have hheld : (start.run text).current.reverse <+: gap ++ name :=
      (List.prefix_or_prefix_of_prefix (prefix_current_step _ c hgoes) hbegins).resolve_right
        hbefore
    have hopening : Opening (gap ++ name) := ⟨gap, name, rfl, hgap, hname⟩
    obtain ⟨hdepth, hcalm⟩ := calm_of_opening text (hopening.of_prefix hheld)
    obtain ⟨hread, hmode⟩ := holds_of_step hgap hname hne hdepth hcalm hheld hbefore hbegins
    rw [← run_concat] at hread hmode
    obtain ⟨before, htext, hstands⟩ := exists_of_opening hgap hname hne hread hmode
    exact ⟨before, [], by rw [htext, List.append_nil], hstands⟩

end Scanner

/-- The name that a logical line begins with stands in the text. -/
theorem standsIn_of_logicalLine {text line name : List Char} (hline : line ∈ logicalLines text)
    (hname : ∀ c ∈ name, continuesName c = true) (hne : name ≠ []) (hbegins : name <+: trim line) :
    StandsIn name text := by
  obtain ⟨gap, hgap, hsplit⟩ := exists_gap line
  have hwhole : gap ++ name <+: line := by
    conv_rhs => rw [hsplit]
    exact (List.prefix_append_right_inj gap).mpr (hbegins.trans (trim_prefix_skipBlanks line))
  obtain ⟨hmem, -⟩ := List.mem_filter.mp hline
  by_cases hbackslash : (Scanner.start.run text).mode = .backslash
  · -- A backslash at the end of the text belongs to the last line, but to no name.
    simp only [Scanner.allLines, if_pos hbackslash, Scanner.keep, List.mem_reverse,
      List.mem_cons] at hmem
    rcases hmem with rfl | hmem
    · rw [List.reverse_cons] at hwhole
      rcases List.prefix_concat_iff.mp hwhole with hread | hwhole
      · have hopening : Opening (gap ++ name) := ⟨gap, name, rfl, hgap, hname⟩
        exact absurd (hread ▸ by simp) (hopening.not_mem (c := '\\') (by decide) (by decide))
      · exact Scanner.standsIn_of_mem hgap hname hne (.inl rfl) hwhole
    · exact Scanner.standsIn_of_mem hgap hname hne (.inr hmem) hwhole
  · simp only [Scanner.allLines, if_neg hbackslash, List.mem_reverse, List.mem_cons] at hmem
    exact Scanner.standsIn_of_mem hgap hname hne hmem hwhole

end NotebookLint.Declaration
