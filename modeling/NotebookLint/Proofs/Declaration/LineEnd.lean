import NotebookLint.Declaration
import NotebookLint.Proofs.Declaration.Scanner

/-!
# Where a logical line ends

A line feed ends the logical line unless a bracket or a string is open or a backslash stands before
it. So a cell that is cut at such a line feed declares what its two parts declare, one after the
other. An open string counts even if its quotes are not tripled: the string ends at the line feed,
but the line feed stays in the line, and the next line becomes a part of the line with the quote.
What the next line would declare by itself is lost then.

The scanner only ever adds to what it has read. Hence the lines of a text from any state are those
from the empty state of the same depth and mode, behind what was read before.
-/

namespace NotebookLint.Declaration

open NotebookLint.Text NotebookLint.Literal

namespace Mode

/-- Whether a string is open, and if so whether its quotes are tripled. -/
def string? : Mode → Option Bool
  | .opened _ => some false
  | .quoted _ triple => some triple
  | .escaped _ triple => some triple
  | .closing _ => some true
  | .closingTwice _ => some true
  | .code | .backslash | .comment | .openedTwice _ => none

/-- The quote that was read last if it may still matter. -/
def quote? : Mode → Option Char
  | .opened quote => some quote
  | .openedTwice quote => some quote
  | .quoted quote _ => some quote
  | .escaped quote _ => some quote
  | .closing quote => some quote
  | .closingTwice quote => some quote
  | .code | .backslash | .comment => none

/-- Whether a backslash was read last that may still matter. -/
def isAfterBackslash : Mode → Bool
  | .backslash => true
  | .escaped _ _ => true
  | _ => false

/-- A string that is open has a quote. -/
theorem exists_quote {mode : Mode} {triple : Bool} (h : mode.string? = some triple) :
    ∃ quote, mode.quote? = some quote := by
  cases mode with
  | code | backslash | comment | openedTwice => cases h
  | opened quote | quoted quote | escaped quote | closing quote | closingTwice quote =>
    exact ⟨quote, rfl⟩

end Mode

/-- The declarations that lines make. -/
def declared (lines : List (List Char)) : List Declaration :=
  lines.filterMap fun line => ofLine (trim line)

namespace Scanner

section Step

/-- What a character that is read in a mode does to any lines: it adds to the current one, or it is
a line feed that ends it. A quote that matters is one that mattered before or one that is added, and
only a backslash has the effect of one. -/
inductive Moves (depth : Nat) (mode : Mode) (c : Char)
    (move : List (List Char) → List Char → Scanner) : Prop where
  /-- The line goes on. -/
  | goesOn (kept : List Char) (deeper : Nat) (next : Mode)
      (hmove : ∀ done current, move done current = ⟨done, kept ++ current, deeper, next⟩)
      (hquote : ∀ quote ∈ next.quote?, quote ∈ mode.quote? ∨ isQuote quote = true ∧ quote ∈ kept)
      (hbackslash : next.isAfterBackslash = true → c = '\\') : Moves depth mode c move
  /-- The line ends. -/
  | ends (hc : c = '\n')
      (hmove : ∀ done current, move done current = ⟨current.reverse :: done, [], depth, .code⟩) :
      Moves depth mode c move

/-- A character that leads to a mode without a backslash that matters. -/
theorem Moves.quiet {depth : Nat} {mode : Mode} {c : Char}
    {move : List (List Char) → List Char → Scanner} (kept : List Char) (deeper : Nat) (next : Mode)
    (hmove : ∀ done current, move done current = ⟨done, kept ++ current, deeper, next⟩)
    (hquote : ∀ quote ∈ next.quote?, quote ∈ mode.quote? ∨ isQuote quote = true ∧ quote ∈ kept)
    (hnext : next.isAfterBackslash = false) : Moves depth mode c move :=
  .goesOn kept deeper next hmove hquote fun h => absurd (hnext.symm.trans h) Bool.false_ne_true

/-- A character that only adds itself to a line, without a quote or a backslash that matters. -/
theorem Moves.plain {depth : Nat} {mode : Mode} {c : Char}
    {move : List (List Char) → List Char → Scanner} (deeper : Nat)
    (hmove : ∀ done current, move done current = ⟨done, c :: current, deeper, .code⟩) :
    Moves depth mode c move :=
  .quiet [c] deeper .code hmove (by simp [Mode.quote?]) rfl

/-- Outside strings and comments. -/
theorem moves_stepCode (depth : Nat) (mode : Mode) (c : Char) :
    Moves depth mode c fun done current => stepCode ⟨done, current, depth, mode⟩ c := by
  by_cases hc : c ∈ marks
  · simp only [marks, List.mem_cons, List.not_mem_nil, or_false] at hc
    rcases hc with rfl | rfl | rfl | rfl | rfl | rfl | rfl | rfl | rfl | rfl | rfl
    -- a hash, a backslash, a line feed, two quotes, and the brackets
    · exact .quiet [] depth .comment (fun _ _ => rfl) (by simp [Mode.quote?]) rfl
    · exact .goesOn [] depth .backslash (fun _ _ => rfl) (by simp [Mode.quote?]) fun _ => rfl
    · cases depth with
      | zero => exact .ends rfl fun _ _ => rfl
      | succ depth => exact .plain (depth + 1) fun _ _ => rfl
    · exact .quiet ['\''] depth (.opened '\'') (fun _ _ => rfl) (by simp [Mode.quote?, isQuote]) rfl
    · exact .quiet ['"'] depth (.opened '"') (fun _ _ => rfl) (by simp [Mode.quote?, isQuote]) rfl
    · exact .plain (depth + 1) fun _ _ => rfl
    · exact .plain (depth + 1) fun _ _ => rfl
    · exact .plain (depth + 1) fun _ _ => rfl
    · exact .plain (depth - 1) fun _ _ => rfl
    · exact .plain (depth - 1) fun _ _ => rfl
    · exact .plain (depth - 1) fun _ _ => rfl
  · refine .plain depth fun done current => ?_
    unfold stepCode
    split <;> first
      | rfl
      | exact absurd hc (by decide)

/-- Inside a string. -/
theorem moves_stepQuoted (depth : Nat) {mode : Mode} {quote : Char}
    (hmode : mode.quote? = some quote) (triple : Bool) (c : Char) :
    Moves depth mode c fun done current =>
      stepQuoted ⟨done, current, depth, mode⟩ quote triple c := by
  unfold stepQuoted
  by_cases hbackslash : c = '\\'
  · simp only [if_pos hbackslash]
    refine .goesOn [c] depth (.escaped quote triple) (fun _ _ => rfl) ?_ fun _ => hbackslash
    exact fun other hother => .inl (hmode ▸ hother)
  · simp only [if_neg hbackslash]
    by_cases hquote : c = quote
    · simp only [if_pos hquote]
      cases triple with
      | true =>
        refine .quiet [c] depth (.closing quote) (fun _ _ => rfl) ?_ rfl
        exact fun other hother => .inl (hmode ▸ hother)
      | false => exact .plain depth fun _ _ => rfl
    · simp only [if_neg hquote]
      by_cases hfeed : (c = '\n' && !triple) = true
      · simp only [hfeed, if_true]
        exact .plain depth fun _ _ => rfl
      · simp only [if_neg hfeed]
        refine .quiet [c] depth (.quoted quote triple) (fun _ _ => rfl) ?_ rfl
        exact fun other hother => .inl (hmode ▸ hother)

/-- A character after a backslash in code: a line feed joins two lines, and any other character is
read as if the backslash had not been one. -/
theorem moves_backslash (depth : Nat) (c : Char) :
    Moves depth .backslash c fun done current => step ⟨done, current, depth, .backslash⟩ c := by
  by_cases hfeed : c = '\n'
  · subst hfeed
    exact .quiet [' '] depth .code (fun _ _ => rfl) (by simp [Mode.quote?]) rfl
  · have hstep (done : List (List Char)) (current : List Char) :
        step ⟨done, current, depth, .backslash⟩ c =
          stepCode ⟨done, '\\' :: current, depth, .code⟩ c :=
      if_neg hfeed
    simp only [hstep]
    cases moves_stepCode depth .code c with
    | goesOn kept deeper next hmove hquote hbackslash =>
      refine .goesOn (kept ++ ['\\']) deeper next (fun done current => ?_)
        (fun quote hnext => ?_) hbackslash
      · simp [hmove]
      · rcases hquote quote hnext with hnone | ⟨his, hkept⟩
        · cases hnone
        · exact .inr ⟨his, List.mem_append_left _ hkept⟩
    | ends hc _ => exact absurd hc hfeed

/-- In every mode a character adds to the line or ends it. -/
theorem moves_step (depth : Nat) (mode : Mode) (c : Char) :
    Moves depth mode c fun done current => step ⟨done, current, depth, mode⟩ c := by
  cases mode with
  | code => exact moves_stepCode depth .code c
  | backslash => exact moves_backslash depth c
  | comment =>
    by_cases hfeed : c = '\n'
    · simp only [step, if_pos hfeed]
      exact moves_stepCode depth .comment c
    · simp only [step, if_neg hfeed]
      exact .quiet [] depth .comment (fun _ _ => rfl) (by simp [Mode.quote?]) rfl
  | opened quote =>
    by_cases hquote : c = quote
    · simp only [step, if_pos hquote]
      exact .quiet [c] depth (.openedTwice quote) (fun _ _ => rfl) (fun _ => .inl) rfl
    · simp only [step, if_neg hquote]
      exact moves_stepQuoted depth rfl false c
  | openedTwice quote =>
    by_cases hquote : c = quote
    · simp only [step, if_pos hquote]
      exact .quiet [c] depth (.quoted quote true) (fun _ _ => rfl) (fun _ => .inl) rfl
    · simp only [step, if_neg hquote]
      exact moves_stepCode depth (.openedTwice quote) c
  | quoted quote triple => exact moves_stepQuoted depth rfl triple c
  | escaped quote triple =>
    exact .quiet [c] depth (.quoted quote triple) (fun _ _ => rfl) (fun _ => .inl) rfl
  | closing quote =>
    by_cases hquote : c = quote
    · simp only [step, if_pos hquote]
      exact .quiet [c] depth (.closingTwice quote) (fun _ _ => rfl) (fun _ => .inl) rfl
    · simp only [step, if_neg hquote]
      exact moves_stepQuoted depth rfl true c
  | closingTwice quote =>
    by_cases hquote : c = quote
    · simp only [step, if_pos hquote]
      exact .plain depth fun _ _ => rfl
    · simp only [step, if_neg hquote]
      exact moves_stepQuoted depth rfl true c

end Step

section Run

/-- At the end of a text the lines are those from the empty state, behind what was read before. -/
theorem linesOf_behind (done : List (List Char)) (current : List Char) (depth : Nat) (mode : Mode)
    (text : List Char) :
    linesOf ⟨done, current, depth, mode⟩ text =
      done.reverse ++ (linesOf ⟨[], [], depth, mode⟩ text).modifyHead (current.reverse ++ ·) := by
  induction text generalizing done current depth mode with
  | nil => cases mode <;> simp [linesOf, run, allLines, keep]
  | cons c text ih =>
    rw [linesOf_cons, linesOf_cons]
    cases moves_step depth mode c with
    | goesOn kept deeper next hmove _ _ =>
      rw [hmove, hmove, ih, ih [] (kept ++ [])]
      simp [List.modifyHead_modifyHead, Function.comp_def]
    | ends _ hmove =>
      rw [hmove, hmove, ih, ih [[].reverse]]
      simp

/-- Outside strings and brackets these are the lines that a text has by itself. -/
theorem linesOf_outside (done : List (List Char)) (current text : List Char) :
    linesOf ⟨done, current, 0, .code⟩ text =
      done.reverse ++ (start.linesOf text).modifyHead (current.reverse ++ ·) :=
  linesOf_behind done current 0 .code text

/-- The lines of a text are not none. -/
theorem linesOf_ne_nil (s : Scanner) (text : List Char) : s.linesOf text ≠ [] := by
  simp [linesOf, allLines]

/-- A quote that may matter stands in the line that is being read. -/
def Quoting (s : Scanner) : Prop :=
  ∀ quote ∈ s.mode.quote?, isQuote quote = true ∧ quote ∈ s.current

/-- A character keeps the quote that may matter in the line. -/
theorem quoting_step {s : Scanner} (h : s.Quoting) (c : Char) : (s.step c).Quoting := by
  obtain ⟨done, current, depth, mode⟩ := s
  cases moves_step depth mode c with
  | goesOn kept deeper next hmove hquote _ =>
    rw [hmove]
    intro quote hnext
    rcases hquote quote hnext with hbefore | ⟨his, hkept⟩
    · obtain ⟨his, hcurrent⟩ := h quote hbefore
      exact ⟨his, List.mem_append_right _ hcurrent⟩
    · exact ⟨his, List.mem_append_left _ hkept⟩
  | ends _ hmove =>
    rw [hmove]
    intro quote hquote
    cases hquote

/-- So does a text. -/
theorem quoting_run (text : List Char) : (start.run text).Quoting := by
  induction text using List.reverseRecOn with
  | nil =>
    intro quote hquote
    cases hquote
  | append_singleton text c ih =>
    rw [run_append]
    exact quoting_step ih c

/-- Only a text that ends with a backslash leaves one that may matter. -/
theorem getLast?_of_isAfterBackslash {text : List Char}
    (h : (start.run text).mode.isAfterBackslash = true) : text.getLast? = some '\\' := by
  induction text using List.reverseRecOn with
  | nil => cases h
  | append_singleton text c _ =>
    rw [run_append] at h
    generalize start.run text = s at h
    obtain ⟨done, current, depth, mode⟩ := s
    have hstep : run ⟨done, current, depth, mode⟩ [c] = step ⟨done, current, depth, mode⟩ c := rfl
    rw [hstep] at h
    cases moves_step depth mode c with
    | goesOn kept deeper next hmove _ hbackslash =>
      rw [hmove] at h
      rw [hbackslash h, List.getLast?_concat]
    | ends _ hmove =>
      rw [hmove] at h
      cases h

/-- Two texts with a line feed between them are read like the second one from where the line feed
leads. -/
theorem linesOf_append_lineFeed (first second : List Char) :
    start.linesOf (first ++ '\n' :: second) = ((start.run first).step '\n').linesOf second := by
  rw [linesOf, run_append]
  rfl

end Run

section LineFeed

variable {s : Scanner}

/-- A line feed ends the line if nothing is open before it. -/
theorem step_lineFeed_of_closed (hquoting : s.Quoting) (hdepth : s.depth = 0)
    (hstring : s.mode.string? = none) (hbackslash : s.mode.isAfterBackslash = false) :
    s.step '\n' = ⟨s.current.reverse :: s.done, [], 0, .code⟩ := by
  obtain ⟨done, current, depth, mode⟩ := s
  obtain rfl : depth = 0 := hdepth
  cases mode with
  | code => rfl
  | comment => rfl
  | openedTwice quote =>
    have hquote : '\n' ≠ quote := fun h => absurd (h ▸ (hquoting quote rfl).1) (by decide)
    simp only [step, if_neg hquote]
    rfl
  | backslash => cases hbackslash
  | opened | quoted | escaped | closing | closingTwice => cases hstring

/-- In a string without tripled quotes a line feed ends the string and stays in the line. -/
theorem step_lineFeed_of_open (hquoting : s.Quoting) (hstring : s.mode.string? = some false)
    (hbackslash : s.mode.isAfterBackslash = false) :
    s.step '\n' = ⟨s.done, '\n' :: s.current, s.depth, .code⟩ := by
  obtain ⟨done, current, depth, mode⟩ := s
  have hquote (quote : Char) (hmode : mode.quote? = some quote) : '\n' ≠ quote :=
    fun h => absurd (h ▸ (hquoting quote hmode).1) (by decide)
  cases mode with
  | opened quote => simp [step, stepQuoted, keep, hquote quote rfl]
  | quoted quote triple =>
    obtain rfl : triple = false := Option.some.inj hstring
    simp [step, stepQuoted, keep, hquote quote rfl]
  | escaped => cases hbackslash
  | code | backslash | comment | openedTwice | closing | closingTwice => cases hstring

/-- The lines so far if no backslash may still matter. -/
theorem allLines_eq (hbackslash : s.mode.isAfterBackslash = false) :
    s.allLines = s.done.reverse ++ [s.current.reverse] := by
  have hmode : s.mode ≠ .backslash := fun h => by
    rw [h] at hbackslash
    cases hbackslash
  simp [allLines, hmode]

end LineFeed

section Append

variable {first : List Char}

/-- A line feed with nothing open before it separates the lines of two texts. -/
theorem linesOf_append_of_closed (second : List Char) (hdepth : (start.run first).depth = 0)
    (hstring : (start.run first).mode.string? = none)
    (hbackslash : (start.run first).mode.isAfterBackslash = false) :
    start.linesOf (first ++ '\n' :: second) = start.linesOf first ++ start.linesOf second := by
  have hfirst : start.linesOf first = _ := allLines_eq hbackslash
  rw [linesOf_append_lineFeed,
    step_lineFeed_of_closed (quoting_run first) hdepth hstring hbackslash, linesOf_outside, hfirst]
  have hkept : (start.linesOf second).modifyHead (([] : List Char).reverse ++ ·) =
      start.linesOf second := congrFun List.modifyHead_id _
  rw [hkept, List.reverse_cons]

/-- A line feed in a string without tripled quotes makes one line of the last line of a text, in
which the quote stands, and the first line of the other. -/
theorem linesOf_append_of_open (second : List Char) (hdepth : (start.run first).depth = 0)
    (hstring : (start.run first).mode.string? = some false)
    (hbackslash : (start.run first).mode.isAfterBackslash = false) :
    ∃ before last next after, start.linesOf first = before ++ [last] ∧
      start.linesOf second = next :: after ∧
      start.linesOf (first ++ '\n' :: second) = before ++ (last ++ '\n' :: next) :: after ∧
      ∃ quote ∈ last, isQuote quote = true := by
  have hfirst : start.linesOf first = _ := allLines_eq hbackslash
  obtain ⟨next, after, hsecond⟩ := List.exists_cons_of_ne_nil (linesOf_ne_nil start second)
  refine ⟨_, _, next, after, hfirst, hsecond, ?_, ?_⟩
  · rw [linesOf_append_lineFeed, step_lineFeed_of_open (quoting_run first) hstring hbackslash,
      hdepth, linesOf_outside, hsecond]
    simp
  · obtain ⟨quote, hquote⟩ := Mode.exists_quote hstring
    obtain ⟨his, hcurrent⟩ := quoting_run first quote hquote
    exact ⟨quote, List.mem_reverse.mpr hcurrent, his⟩

end Append

end Scanner

section Declared

/-- Blank lines declare nothing, so that it does not matter whether they are kept. -/
theorem declared_filter (lines : List (List Char)) :
    declared (lines.filter fun line => !isBlankText line) = declared lines := by
  induction lines with
  | nil => rfl
  | cons line lines ih =>
    by_cases hblank : isBlankText line = true
    · have htrim : trim line = [] := by
        rw [trim, (skipBlanks_eq_nil_iff line).mpr hblank]
        rfl
      rw [List.filter_cons_of_neg (by simp [hblank]), ih, declared, declared,
        List.filterMap_cons_none (by rw [htrim]; rfl)]
    · rw [List.filter_cons_of_pos (by simpa using hblank)]
      simp only [declared, List.filterMap_cons] at ih ⊢
      rw [ih]

/-- A cell declares what its lines declare. -/
theorem ofCell_eq_declared (source : String) :
    ofCell source = declared (Scanner.start.linesOf source.toList) :=
  declared_filter _

/-- What lines in a row declare. -/
theorem declared_append (lines more : List (List Char)) :
    declared (lines ++ more) = declared lines ++ declared more :=
  List.filterMap_append

/-- A line declares at most one name. -/
theorem declared_cons (line : List Char) (lines : List (List Char)) :
    declared (line :: lines) = (ofLine (trim line)).toList ++ declared lines := by
  rw [declared, List.filterMap_cons]
  cases ofLine (trim line) <;> rfl

/-- A quote ends a name. -/
theorem not_continuesName_of_isQuote {c : Char} (hc : isQuote c = true) :
    continuesName c = false := by
  rcases (isQuote_iff c).mp hc with rfl | rfl <;> rfl

/-- A text with something else than blanks in it keeps it when blanks before it are skipped. -/
theorem mem_skipBlanks_append {c : Char} {text : List Char} (hc : c ∈ text)
    (hblank : isBlank c = false) (rest : List Char) :
    c ∈ skipBlanks text ∧ skipBlanks (text ++ rest) = skipBlanks text ++ rest := by
  obtain ⟨gap, hgap, htext⟩ := exists_gap text
  have hleft : c ∈ skipBlanks text := by
    rw [htext] at hc
    rcases List.mem_append.mp hc with hgapped | hleft
    · have hblanks := List.all_eq_true.mp hgap c hgapped
      rw [hblank] at hblanks
      cases hblanks
    · exact hleft
  refine ⟨hleft, ?_⟩
  obtain ⟨first, more, hfirst⟩ := List.exists_cons_of_ne_nil (List.ne_nil_of_mem hleft)
  have hsolid : isBlank first = false := not_isBlank_of_skipBlanks_eq_cons hfirst
  conv_lhs => rw [htext, List.append_assoc, skipBlanks_append hgap, hfirst, List.cons_append]
  rw [skipBlanks_cons_of_not_isBlank hsolid, hfirst, List.cons_append]

/-- The name of a declaration is what its line begins with. -/
theorem name_of_ofLine {line : List Char} {declaration : Declaration}
    (h : ofLine line = some declaration) :
    declaration.name.toList = line.takeWhile continuesName := by
  simp only [ofLine] at h
  split at h
  · split at h
    · cases h
    · split at h
      · cases h
      · cases h
      · obtain rfl := Option.some.inj h
        exact String.toList_ofList
  · cases h

/-- A line with a quote in it declares at most a name from before the quote. -/
theorem name_prefix_of_ofLine {line rest : List Char} {declaration : Declaration}
    (hquote : ∃ quote ∈ line, isQuote quote = true)
    (h : ofLine (trim (line ++ rest)) = some declaration) :
    declaration.name.toList <+: skipBlanks line := by
  obtain ⟨quote, hmem, his⟩ := hquote
  have hsolid : isBlank quote = false := by
    rcases (isQuote_iff quote).mp his with rfl | rfl <;> rfl
  obtain ⟨hleft, hskip⟩ := mem_skipBlanks_append hmem hsolid rest
  rw [name_of_ofLine h]
  have hname : (trim (line ++ rest)).takeWhile continuesName <+: skipBlanks line ++ rest :=
    hskip ▸ (List.takeWhile_prefix _).trans (trim_prefix_skipBlanks (line ++ rest))
  rcases List.prefix_or_prefix_of_prefix hname (List.prefix_append _ _) with hbefore | hbeyond
  · exact hbefore
  · -- the name would reach over the quote
    have hcontinues := List.all_eq_true.mp List.all_takeWhile quote (hbeyond.subset hleft)
    rw [not_continuesName_of_isQuote his] at hcontinues
    cases hcontinues

end Declared

/-- A cell that is cut at a line feed outside brackets and tripled quotes, and not behind a
backslash, declares what its parts declare one after the other if no other string is open there
either. If one is, the line with its quote and the next line are one line, which declares at most a
name with which the line with the quote begins; what the next line declares by itself is lost, and
nothing else. -/
theorem ofCell_append (first second : String)
    (hbrackets : (Scanner.start.run first.toList).depth = 0)
    (htripled : (Scanner.start.run first.toList).mode.string? ≠ some true)
    (hbackslash : first.toList.getLast? ≠ some '\\') :
    (Scanner.start.run first.toList).mode.string? = none ∧
        ofCell (first ++ "\n" ++ second) = ofCell first ++ ofCell second ∨
      (Scanner.start.run first.toList).mode.string? = some false ∧
        ∃ before last next after,
          Scanner.start.linesOf first.toList = before ++ [last] ∧
          Scanner.start.linesOf second.toList = next :: after ∧
          ofCell (first ++ "\n" ++ second) =
            declared before ++ (ofLine (trim (last ++ '\n' :: next))).toList ++ declared after ∧
          ∀ declaration, ofLine (trim (last ++ '\n' :: next)) = some declaration →
            declaration.name.toList <+: skipBlanks last := by
  have hnone : (Scanner.start.run first.toList).mode.isAfterBackslash = false := by
    rw [Bool.eq_false_iff]
    exact fun h => hbackslash (Scanner.getLast?_of_isAfterBackslash h)
  have hboth : (first ++ "\n" ++ second).toList = first.toList ++ '\n' :: second.toList := by
    simp
  cases hstring : (Scanner.start.run first.toList).mode.string? with
  | none =>
    refine .inl ⟨rfl, ?_⟩
    rw [ofCell_eq_declared, ofCell_eq_declared, ofCell_eq_declared, hboth,
      Scanner.linesOf_append_of_closed second.toList hbrackets hstring hnone, declared_append]
  | some triple =>
    obtain rfl : triple = false := Bool.eq_false_iff.mpr fun h => htripled (h ▸ hstring)
    obtain ⟨before, last, next, after, hfirst, hsecond, hlines, hquote⟩ :=
      Scanner.linesOf_append_of_open second.toList hbrackets hstring hnone
    refine .inr ⟨rfl, before, last, next, after, hfirst, hsecond, ?_,
      fun _ h => name_prefix_of_ofLine hquote h⟩
    rw [ofCell_eq_declared, hboth, hlines, declared_append, declared_cons, List.append_assoc]

/-- After a comment with an apostrophe the next line counts, and after a string that is not closed
it is lost together with its name. -/
theorem ofCell_append_quotes :
    ofCell ("x = 'a' # don't" ++ "\n" ++ "y = 1") = ofCell "x = 'a' # don't" ++ ofCell "y = 1" ∧
      ofCell ("x = 'a" ++ "\n" ++ "y = 1\nz = 2") = [⟨"x", "'a\ny = 1"⟩] ++ ofCell "z = 2" := by
  constructor
  · rcases ofCell_append "x = 'a' # don't" "y = 1" (by decide +kernel) (by decide +kernel)
      (by decide +kernel) with ⟨-, hcell⟩ | ⟨hstring, -⟩
    · exact hcell
    · exact absurd hstring (by decide +kernel)
  · rcases ofCell_append "x = 'a" "y = 1\nz = 2" (by decide +kernel) (by decide +kernel)
      (by decide +kernel) with
      ⟨hstring, -⟩ | ⟨-, before, last, next, after, hfirst, hsecond, hcell, -⟩
    · exact absurd hstring (by decide +kernel)
    have hlast : Scanner.start.linesOf "x = 'a".toList = [] ++ ["x = 'a".toList] := by
      decide +kernel
    have hnext : Scanner.start.linesOf "y = 1\nz = 2".toList =
        "y = 1".toList :: ["z = 2".toList] := by decide +kernel
    obtain ⟨rfl, hsame⟩ := List.append_inj' (hfirst.symm.trans hlast) rfl
    obtain rfl := List.singleton_inj.mp hsame
    obtain ⟨rfl, rfl⟩ := List.cons.inj (hsecond.symm.trans hnext)
    rw [hcell]
    decide +kernel

/-- An apostrophe that opens no string of its language swallows the next line, though no bracket and
no tripled quote is open and no backslash stands before the line feed. -/
theorem ofCell_append_apostrophe :
    let before := Scanner.start.run "!echo don't".toList
    (before.depth = 0 ∧ before.mode.string? ≠ some true ∧
        "!echo don't".toList.getLast? ≠ some '\\') ∧
      ofCell ("!echo don't" ++ "\n" ++ "x = 1") = [] ∧
      ofCell "!echo don't" ++ ofCell "x = 1" = [⟨"x", "1"⟩] := by
  decide +kernel

end NotebookLint.Declaration
