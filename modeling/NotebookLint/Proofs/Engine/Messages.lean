import Mathlib.Data.List.Infix
import NotebookLint.Engine.Failure

/-!
# What is read from messages

The messages of an engine are looked at in two ways: line by line, without the lines that say
nothing, and as a whole, in search of certain words. The words never go across the end of a line,
begin and end with something else than a blank, and do not begin with a dash. So a search of the
whole finds what a search of the informative lines finds, one after the other, and these lines alone
decide what the messages mean.
-/

namespace NotebookLint.Engine

open NotebookLint.Text

section Lines

/-- Texts are gone through line by line: the last line has no line feed, every other one is followed
by its line feed and the rest of the text. -/
theorem line_induction {motive : List Char → Prop} (last : ∀ line, '\n' ∉ line → motive line)
    (next : ∀ line rest, '\n' ∉ line → motive rest → motive (line ++ '\n' :: rest))
    (text : List Char) : motive text := by
  by_cases hfeed : '\n' ∈ text
  · obtain ⟨line, rest, htext, hline⟩ := List.eq_append_cons_of_mem hfeed
    rw [htext]
    exact next line rest hline (line_induction last next rest)
  · exact last text hfeed
termination_by text.length
decreasing_by
  rw [htext, List.length_append, List.length_cons]
  omega

/-- A line with its line feed is the first of the lines with their ends. -/
theorem linesWithEnds_append {line : List Char} (hline : '\n' ∉ line) (rest : List Char) :
    linesWithEnds (line ++ '\n' :: rest) = (line ++ ['\n']) :: linesWithEnds rest := by
  induction line with
  | nil => rfl
  | cons c line ih =>
    rw [List.mem_cons, not_or] at hline
    rw [List.cons_append, linesWithEnds, if_neg (Ne.symm hline.1), ih hline.2]
    rfl

/-- A text without line feeds is a line, unless it is empty. -/
theorem linesWithEnds_of_not_mem {line : List Char} (hline : '\n' ∉ line) (hne : line ≠ []) :
    linesWithEnds line = [line] := by
  induction line with
  | nil => exact absurd rfl hne
  | cons c line ih =>
    rw [List.mem_cons, not_or] at hline
    rw [linesWithEnds, if_neg (Ne.symm hline.1)]
    cases line with
    | nil => rfl
    | cons d line => rw [ih hline.2 (List.cons_ne_nil d line)]

/-- Line ends are blanks, so a trimmed line is the same with its end and without it. -/
theorem trim_dropLineEnd (line : List Char) : trim (dropLineEnd line) = trim line := by
  have hreverse := line.reverse_reverse
  unfold dropLineEnd
  split
  · rename_i kept hends
    rw [hends, List.reverse_cons, List.reverse_cons, List.append_assoc] at hreverse
    rw [← hreverse, trim_append_gap kept.reverse (by decide)]
  · rename_i kept _ hends
    rw [hends, List.reverse_cons] at hreverse
    rw [← hreverse, trim_append_gap kept.reverse (by decide)]
  · rfl

/-- What a single line says: itself without the blanks around it, unless that is only dashes. -/
def saying (line : List Char) : List (List Char) :=
  if (trim line).all (· == '-') then [] else [trim line]

/-- Blanks in front of a line change nothing about what it says. -/
theorem saying_gap_append {gap : List Char} (hgap : isBlankText gap) (line : List Char) :
    saying (gap ++ line) = saying line := by
  rw [saying, saying, trim_gap_append hgap]

/-- Nor do blanks behind it. -/
theorem saying_append_gap (line : List Char) {gap : List Char} (hgap : isBlankText gap) :
    saying (line ++ gap) = saying line := by
  rw [saying, saying, trim_append_gap line hgap]

/-- The informative lines are what the lines say, one after the other. -/
theorem informativeLines_eq_flatMap (messages : List Char) :
    informativeLines messages = (linesWithEnds messages).flatMap saying := by
  have hlines (all : List (List Char)) :
      ((all.map dropLineEnd).map trim).filter (fun line => !line.all (· == '-')) =
        all.flatMap saying := by
    induction all with
    | nil => rfl
    | cons line all ih =>
      rw [List.flatMap_cons, ← ih, saying, List.map_cons, List.map_cons, trim_dropLineEnd,
        List.filter_cons]
      cases (trim line).all (· == '-') <;> rfl
  exact hlines (linesWithEnds messages)

/-- A text without line feeds says what it says as a line. -/
theorem informativeLines_of_not_mem {line : List Char} (hline : '\n' ∉ line) :
    informativeLines line = saying line := by
  rw [informativeLines_eq_flatMap]
  by_cases hne : line = []
  · rw [hne]
    rfl
  · rw [linesWithEnds_of_not_mem hline hne, List.flatMap_singleton]

/-- What is said before a line feed comes first, and what is said behind it follows. -/
theorem informativeLines_append (messages rest : List Char) :
    informativeLines (messages ++ '\n' :: rest) =
      informativeLines messages ++ informativeLines rest := by
  have hfirst {line : List Char} (hline : '\n' ∉ line) (rest : List Char) :
      informativeLines (line ++ '\n' :: rest) = informativeLines line ++ informativeLines rest := by
    rw [informativeLines_of_not_mem hline, informativeLines_eq_flatMap,
      linesWithEnds_append hline, List.flatMap_cons, saying_append_gap line (by decide),
      ← informativeLines_eq_flatMap]
  induction messages using line_induction with
  | last line hline => exact hfirst hline rest
  | next line more hline ih =>
    rw [List.append_assoc, List.cons_append, hfirst hline, ih, hfirst hline, List.append_assoc]

end Lines

section Search

variable {α : Type}

/-- What is found first in a text, given what can be found at the beginning of one. -/
def firstFound (found : List Char → Option α) : List Char → Option α
  | [] => none
  | c :: rest => (found (c :: rest)).or (firstFound found rest)

/-- Whether a text is the end of a line, with whatever follows, or nothing but blanks. -/
def IsLineEnd (text : List Char) : Prop :=
  text.head? = some '\n' ∨ isBlankText text

/-- A word ends at the latest where the end of the line begins. -/
theorem IsLineEnd.takeWhile_append {ending : List Char} (hending : IsLineEnd ending)
    (word : List Char) :
    (word ++ ending).takeWhile (!isBlank ·) = word.takeWhile (!isBlank ·) := by
  have hstop : ending.takeWhile (!isBlank ·) = [] := by
    rcases hending with hfeed | hblank
    · obtain ⟨more, rfl⟩ := List.head?_eq_some_iff.mp hfeed
      rfl
    · cases ending with
      | nil => rfl
      | cons c more =>
        rw [isBlankText, List.all_cons, Bool.and_eq_true] at hblank
        rw [List.takeWhile_cons, hblank.1]
        rfl
  rw [List.takeWhile_append, hstop]
  split
  · rename_i hall
    rw [List.append_nil, (List.takeWhile_prefix _).eq_of_length hall]
  · rfl

/-- Whether nothing is found across the end of a line, at a blank or at a dash. -/
structure StaysInLine (found : List Char → Option α) : Prop where
  /-- What follows the end of a line makes no difference before it. -/
  append_end : ∀ text ending, IsLineEnd ending → found (text ++ ending) = found text
  /-- Nothing is found where a blank or a dash comes first. -/
  at_gap : ∀ c rest, isBlank c ∨ c = '-' → found (c :: rest) = none

variable {found : List Char → Option α}

/-- Nothing is found in blanks and dashes before a text. -/
theorem StaysInLine.firstFound_gap_append (h : StaysInLine found) {gap : List Char}
    (hgap : ∀ c ∈ gap, isBlank c ∨ c = '-') (text : List Char) :
    firstFound found (gap ++ text) = firstFound found text := by
  induction gap with
  | nil => rfl
  | cons c gap ih =>
    obtain ⟨hc, hgap⟩ := List.forall_mem_cons.mp hgap
    rw [List.cons_append, firstFound, h.at_gap c _ hc, Option.none_or, ih hgap]

/-- What is found first stands before the end of a line, or else behind it. -/
theorem StaysInLine.firstFound_append (h : StaysInLine found) (text : List Char)
    {ending : List Char} (hending : IsLineEnd ending) :
    firstFound found (text ++ ending) =
      (firstFound found text).or (firstFound found ending) := by
  induction text with
  | nil => rfl
  | cons c text ih =>
    rw [List.cons_append, firstFound, firstFound, ih, ← List.cons_append,
      h.append_end (c :: text) ending hending, Option.or_assoc]

/-- Nothing is found in blanks and dashes alone. -/
theorem StaysInLine.firstFound_gap (h : StaysInLine found) {gap : List Char}
    (hgap : ∀ c ∈ gap, isBlank c ∨ c = '-') : firstFound found gap = none := by
  have happend := h.firstFound_gap_append hgap []
  rwa [List.append_nil] at happend

/-- Blanks around a text do not matter for what is found first in it. -/
theorem StaysInLine.firstFound_trim (h : StaysInLine found) (text : List Char) :
    firstFound found text = firstFound found (trim text) := by
  obtain ⟨before, after, hbefore, hafter, htext⟩ := exists_gaps text
  have hblank {gap : List Char} (hgap : isBlankText gap) : ∀ c ∈ gap, isBlank c ∨ c = '-' :=
    fun c hc => .inl (List.all_eq_true.mp hgap c hc)
  conv_lhs => rw [htext]
  rw [h.firstFound_gap_append (hblank hbefore), h.firstFound_append _ (.inr hafter),
    h.firstFound_gap (hblank hafter), Option.or_none]

/-- What is found first in a line is found in what it says. -/
theorem StaysInLine.firstFound_saying (h : StaysInLine found) (line : List Char) :
    firstFound found line = (saying line).findSome? (firstFound found) := by
  rw [h.firstFound_trim, saying]
  split
  · rename_i hdashes
    refine h.firstFound_gap fun c hc => .inr ?_
    simpa using List.all_eq_true.mp hdashes c hc
  · rw [List.findSome?_cons]
    cases firstFound found (trim line) <;> rfl

/-- A search that stays in a line finds in messages what it finds first in the informative lines. -/
theorem StaysInLine.firstFound_eq_findSome? (h : StaysInLine found) (messages : List Char) :
    firstFound found messages = (informativeLines messages).findSome? (firstFound found) := by
  induction messages using line_induction with
  | last line hline =>
    rw [informativeLines_of_not_mem hline]
    exact h.firstFound_saying line
  | next line rest hline ih =>
    have hblank : ∀ c ∈ ['\n'], isBlank c ∨ c = '-' := List.forall_mem_singleton.mpr (.inl rfl)
    have hfeed : firstFound found ('\n' :: rest) = firstFound found rest :=
      h.firstFound_gap_append hblank rest
    rw [informativeLines_append, List.findSome?_append, informativeLines_of_not_mem hline,
      ← h.firstFound_saying, ← ih, h.firstFound_append line (.inl rfl), hfeed]

end Search

section Words

/-- Whether words stand in a line: they have no line feed inside and no blank at their ends, and do
not begin with a dash. -/
structure IsPhrase (words : List Char) : Prop where
  /-- There are words. -/
  ne_nil : words ≠ []
  /-- They stand in one line. -/
  one_line : '\n' ∉ words
  /-- They do not begin with a blank or a dash. -/
  head : ∀ c ∈ words.head?, isBlank c = false ∧ c ≠ '-'
  /-- They do not end with a blank. -/
  last : ∀ c ∈ words.getLast?, isBlank c = false

instance (words : List Char) : Decidable (IsPhrase words) :=
  decidable_of_iff (words ≠ [] ∧ '\n' ∉ words ∧ words.head?.all (fun c => !isBlank c && c != '-') ∧
      words.getLast?.all fun c => !isBlank c) <| by
    simp only [Option.all_eq_true, Bool.and_eq_true, Bool.not_eq_true', bne_iff_ne]
    exact ⟨fun ⟨hne, hline, hhead, hlast⟩ => ⟨hne, hline, hhead, hlast⟩,
      fun h => ⟨h.ne_nil, h.one_line, h.head, h.last⟩⟩

/-- Words at the beginning of a text stand before the end of a line. -/
theorem IsPhrase.prefix_append_iff {words : List Char} (h : IsPhrase words) (text : List Char)
    {ending : List Char} (hending : IsLineEnd ending) :
    words <+: text ++ ending ↔ words <+: text := by
  refine ⟨fun hwords => ?_, fun hwords => hwords.trans (List.prefix_append text ending)⟩
  rcases List.prefix_or_prefix_of_prefix hwords (List.prefix_append text ending) with
    hshort | ⟨more, hlong⟩
  · exact hshort
  -- Words that went on behind the text would hold the line feed or end in a blank.
  · subst hlong
    have hmore : more <+: ending := (List.prefix_append_right_inj text).mp hwords
    cases more with
    | nil => rw [List.append_nil]
    | cons c more =>
      exfalso
      rcases hending with hfeed | hblank
      · obtain ⟨rest, rfl⟩ := List.head?_eq_some_iff.mp hfeed
        obtain rfl := (List.cons_prefix_cons.mp hmore).1
        exact h.one_line (by simp)
      · have hlast := List.getLast?_eq_some_getLast (List.cons_ne_nil c more)
        have hmem := hmore.mem (List.getLast_mem (List.cons_ne_nil c more))
        have hends := h.last _ (by rw [List.getLast?_append, hlast]; rfl)
        rw [List.all_eq_true.mp hblank _ hmem] at hends
        cases hends

/-- Where a blank or a dash comes first there are no words. -/
theorem IsPhrase.not_prefix_cons {words : List Char} (h : IsPhrase words) {c : Char}
    (hc : isBlank c ∨ c = '-') (rest : List Char) : ¬words <+: c :: rest := by
  obtain ⟨d, more, rfl⟩ := List.exists_cons_of_ne_nil h.ne_nil
  intro hwords
  obtain rfl := (List.cons_prefix_cons.mp hwords).1
  obtain ⟨hblank, hdash⟩ := h.head d rfl
  rcases hc with hc | hc
  · rw [hblank] at hc
    cases hc
  · exact hdash hc

/-- Words are mentioned in a text exactly if they stand in it. -/
theorem mentions_iff (words : String) (text : List Char) :
    mentions words text ↔ words.toList <:+: text := by
  induction text with
  | nil => rw [mentions, List.isEmpty_iff, List.infix_nil]
  | cons c rest ih =>
    rw [mentions, Bool.or_eq_true, ih, beginsWith, List.isPrefixOf_iff_prefix, List.infix_cons_iff]

/-- Words at the beginning of a text, as something to be found. -/
def wordsAt (words : String) (text : List Char) : Option Unit :=
  if beginsWith words text then some () else none

/-- Words are mentioned in a text if a search for them finds something. -/
theorem mentions_eq_firstFound {words : String} (hne : words.toList ≠ []) (text : List Char) :
    mentions words text = (firstFound (wordsAt words) text).isSome := by
  induction text with
  | nil =>
    rw [mentions, firstFound]
    simpa using hne
  | cons c rest ih =>
    rw [mentions, firstFound, ih, wordsAt]
    cases beginsWith words (c :: rest) <;> rfl

/-- A search for words that stand in a line stays in a line. -/
theorem staysInLine_wordsAt {words : String} (h : IsPhrase words.toList) :
    StaysInLine (wordsAt words) where
  append_end text ending hending := by
    have hsame : beginsWith words (text ++ ending) = beginsWith words text := by
      rw [Bool.eq_iff_iff, beginsWith, beginsWith, List.isPrefixOf_iff_prefix,
        List.isPrefixOf_iff_prefix, h.prefix_append_iff text hending]
    rw [wordsAt, wordsAt, hsame]
  at_gap c rest hc := by
    have hnone : ¬beginsWith words (c :: rest) := by
      rw [beginsWith, List.isPrefixOf_iff_prefix]
      exact h.not_prefix_cons hc rest
    rw [wordsAt, if_neg hnone]

/-- Words that stand in a line are mentioned in messages exactly if an informative line mentions
them. -/
theorem mentions_eq_any {words : String} (h : IsPhrase words.toList) (messages : List Char) :
    mentions words messages = (informativeLines messages).any (mentions words) := by
  rw [mentions_eq_firstFound h.ne_nil, (staysInLine_wordsAt h).firstFound_eq_findSome?,
    Bool.eq_iff_iff, List.findSome?_isSome_iff, List.any_eq_true]
  simp only [mentions_eq_firstFound h.ne_nil]

end Words

section Kernel

/-- The word that is announced at the beginning of a text as the name of an unknown kernel. -/
def announcedWord (text : List Char) : Option (List Char) :=
  let after := text.drop unknownKernelWords.length
  if beginsWith unknownKernelWords text && after.head?.any (!isBlank ·) then
    some (after.takeWhile (!isBlank ·))
  else none

/-- The name of an unknown kernel is the first one that is announced. -/
theorem unknownKernelWord_eq_firstFound (text : List Char) :
    unknownKernelWord text = firstFound announcedWord text := by
  induction text with
  | nil => rfl
  | cons c rest ih =>
    rw [unknownKernelWord, firstFound, ← ih, announcedWord]
    split <;> rfl

/-- The announcement of an unknown kernel together with the first character of its name. -/
def announcement (c : Char) : List Char :=
  unknownKernelWords.toList ++ [c]

/-- An announcement with the beginning of a name stands in a line. -/
theorem isPhrase_announcement {c : Char} (hc : isBlank c = false) : IsPhrase (announcement c) where
  ne_nil := by simp [announcement]
  one_line := by
    have hfeed : '\n' ≠ c := by
      rintro rfl
      cases hc
    rw [announcement, List.mem_append, List.mem_singleton, not_or]
    exact ⟨by decide, hfeed⟩
  head d hd := by
    obtain rfl : 'N' = d := Option.some.inj hd
    decide
  last d hd := by
    rw [announcement, List.getLast?_concat] at hd
    obtain rfl := Option.some.inj hd
    exact hc

/-- Behind an announcement stands the name. -/
theorem drop_announcement (c : Char) (rest : List Char) :
    (announcement c ++ rest).drop unknownKernelWords.length = c :: rest := by
  rw [announcement, List.append_assoc, ← String.length_toList, List.drop_left]
  rfl

/-- A word is announced exactly if the text goes on with something else than a blank behind the
announcement. -/
theorem announces_iff (text : List Char) :
    (beginsWith unknownKernelWords text &&
        (text.drop unknownKernelWords.length).head?.any (!isBlank ·)) ↔
      ∃ c, isBlank c = false ∧ announcement c <+: text := by
  rw [Bool.and_eq_true, beginsWith, List.isPrefixOf_iff_prefix]
  constructor
  · rintro ⟨⟨after, rfl⟩, hafter⟩
    rw [← String.length_toList, List.drop_left, Option.any_eq_true] at hafter
    obtain ⟨c, hc, hblank⟩ := hafter
    obtain ⟨rest, rfl⟩ := List.head?_eq_some_iff.mp hc
    exact ⟨c, by simpa using hblank, rest, by simp [announcement]⟩
  · rintro ⟨c, hc, rest, rfl⟩
    rw [drop_announcement, announcement, List.append_assoc]
    exact ⟨List.prefix_append _ _, by simp [hc]⟩

/-- A search for the name of an unknown kernel stays in a line. -/
theorem staysInLine_announcedWord : StaysInLine announcedWord where
  append_end text ending hending := by
    have hsame : (beginsWith unknownKernelWords (text ++ ending) &&
          ((text ++ ending).drop unknownKernelWords.length).head?.any (!isBlank ·)) =
        (beginsWith unknownKernelWords text &&
          (text.drop unknownKernelWords.length).head?.any (!isBlank ·)) := by
      rw [Bool.eq_iff_iff, announces_iff, announces_iff]
      refine exists_congr fun c => and_congr_right fun hc => ?_
      exact (isPhrase_announcement hc).prefix_append_iff text hending
    rw [announcedWord, announcedWord, hsame]
    split
    · rename_i hannounces
      obtain ⟨c, -, rest, rfl⟩ := (announces_iff text).mp hannounces
      rw [List.append_assoc, drop_announcement, drop_announcement, ← List.cons_append,
        hending.takeWhile_append]
    · rfl
  at_gap c rest hc := by
    have hnone : ¬(beginsWith unknownKernelWords (c :: rest) &&
        ((c :: rest).drop unknownKernelWords.length).head?.any (!isBlank ·)) := by
      rw [announces_iff]
      rintro ⟨d, hd, hprefix⟩
      exact (isPhrase_announcement hd).not_prefix_cons hc rest hprefix
    rw [announcedWord]
    exact if_neg hnone

/-- The name of an unknown kernel is announced in messages exactly as it is in the informative
lines. -/
theorem unknownKernelWord_eq_findSome? (messages : List Char) :
    unknownKernelWord messages = (informativeLines messages).findSome? unknownKernelWord := by
  have hsame : unknownKernelWord = firstFound announcedWord :=
    funext unknownKernelWord_eq_firstFound
  rw [hsame, staysInLine_announcedWord.firstFound_eq_findSome?]

/-- No kernel is unknown exactly if nothing but blanks follows an announcement. -/
theorem unknownKernelWord_eq_none_iff (text : List Char) :
    unknownKernelWord text = none ↔ ∀ c, isBlank c = false → ¬announcement c <:+: text := by
  induction text with
  | nil => simp [unknownKernelWord, announcement]
  | cons c rest ih =>
    have hhere : announcedWord (c :: rest) = none ↔
        ∀ d, isBlank d = false → ¬announcement d <+: c :: rest := by
      rw [announcedWord, ite_eq_right_iff, announces_iff]
      simp
    rw [unknownKernelWord_eq_firstFound, firstFound, Option.or_eq_none_iff,
      ← unknownKernelWord_eq_firstFound, ih, hhere, ← forall_and]
    refine forall_congr' fun d => ?_
    rw [← forall_and]
    exact forall_congr' fun _ => by rw [List.infix_cons_iff, not_or]

end Kernel

end NotebookLint.Engine
