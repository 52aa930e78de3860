/-!
# Blank characters

The property White_Space, and cutting blanks off the two ends of a text. Every place of this
library that trims a text or skips space means this class, which is wider than the six ASCII
blanks.
-/

namespace NotebookLint.Text

/-- The 25 characters with the property White_Space. -/
def isBlank (c : Char) : Bool :=
  let n := c.toNat
  (9 ≤ n && n ≤ 13) || n == 0x20 || n == 0x85 || n == 0xA0 || n == 0x1680 ||
    (0x2000 ≤ n && n ≤ 0x200A) || n == 0x2028 || n == 0x2029 || n == 0x202F || n == 0x205F ||
    n == 0x3000

/-- The blanks one by one. -/
def blanks : List Char :=
  ['\t', '\n', '\x0b', '\x0c', '\r', ' ', '\u0085', '\u00a0', '\u1680', '\u2000', '\u2001', '\u2002',
    '\u2003', '\u2004', '\u2005', '\u2006', '\u2007', '\u2008', '\u2009', '\u200a', '\u2028', '\u2029',
    '\u202f', '\u205f', '\u3000']

/-- The text without its leading blanks. -/
def skipBlanks : List Char → List Char
  | [] => []
  | c :: rest => if isBlank c then skipBlanks rest else c :: rest

/-- The text without its trailing blanks. -/
def dropTrailingBlanks (text : List Char) : List Char :=
  (skipBlanks text.reverse).reverse

/-- The text without the blanks at its two ends. -/
def trim (text : List Char) : List Char :=
  dropTrailingBlanks (skipBlanks text)

/-- The string without the blanks at its two ends. -/
def trimmed (text : String) : String :=
  String.ofList (trim text.toList)

/-- Whether a text holds nothing but blanks. -/
def isBlankText (text : List Char) : Bool :=
  text.all isBlank

/-- A text without characters is blank. -/
theorem isBlankText_nil : isBlankText [] :=
  rfl

/-- A space is blank. -/
theorem isBlankText_space : isBlankText [' '] :=
  rfl

/-- A blank is one of the 25. -/
theorem mem_blanks_of_isBlank {c : Char} (hc : isBlank c) : c ∈ blanks := by
  have hcode : c.toNat ∈ blanks.map Char.toNat := by
    have hcodes : blanks.map Char.toNat = [9, 10, 11, 12, 13, 0x20, 0x85, 0xA0, 0x1680, 0x2000, 0x2001,
        0x2002, 0x2003, 0x2004, 0x2005, 0x2006, 0x2007, 0x2008, 0x2009, 0x200A, 0x2028, 0x2029, 0x202F,
        0x205F, 0x3000] := by decide
    simp only [isBlank, Bool.or_eq_true, Bool.and_eq_true, decide_eq_true_eq, beq_iff_eq] at hc
    rw [hcodes]
    simp only [List.mem_cons, List.not_mem_nil, or_false]
    omega
  obtain ⟨d, hd, heq⟩ := List.mem_map.mp hcode
  exact Char.toNat_inj.mp heq ▸ hd

/-- Skipping blanks cuts a suffix. -/
theorem skipBlanks_suffix (text : List Char) : skipBlanks text <:+ text := by
  induction text with
  | nil => exact List.suffix_refl _
  | cons c rest ih =>
    rw [skipBlanks]
    split
    · exact ih.trans (List.suffix_cons c rest)
    · exact List.suffix_refl _

/-- Skipping blanks never lengthens a text. -/
theorem skipBlanks_length_le (text : List Char) : (skipBlanks text).length ≤ text.length :=
  (skipBlanks_suffix text).length_le

/-- What is left after skipping blanks does not begin with one. -/
theorem not_isBlank_of_skipBlanks_eq_cons {text rest : List Char} {c : Char}
    (h : skipBlanks text = c :: rest) : isBlank c = false := by
  induction text with
  | nil => simp [skipBlanks] at h
  | cons d tail ih =>
    rw [skipBlanks] at h
    split at h
    · exact ih h
    · rename_i hd
      obtain ⟨rfl, rfl⟩ := List.cons.inj h
      simpa using hd

/-- Nothing is left exactly of a blank text. -/
theorem skipBlanks_eq_nil_iff (text : List Char) :
    skipBlanks text = [] ↔ isBlankText text := by
  induction text with
  | nil => simp [skipBlanks, isBlankText]
  | cons c rest ih =>
    rw [skipBlanks]
    by_cases h : isBlank c <;> simp_all [isBlankText]

/-- Trimming leaves nothing exactly of a blank text. -/
theorem trim_eq_nil_iff (text : List Char) : trim text = [] ↔ isBlankText text := by
  rw [← skipBlanks_eq_nil_iff, trim, dropTrailingBlanks, List.reverse_eq_nil_iff,
    skipBlanks_eq_nil_iff, isBlankText, List.all_reverse, ← isBlankText]
  constructor
  · intro hblank
    cases hskip : skipBlanks text with
    | nil => rfl
    | cons c rest =>
      rw [hskip, isBlankText, List.all_cons, not_isBlank_of_skipBlanks_eq_cons hskip] at hblank
      cases hblank
  · intro hnil
    rw [hnil, isBlankText_nil]

/-- Skipping blanks is dropping the longest run of them. -/
theorem skipBlanks_eq_dropWhile (text : List Char) : skipBlanks text = text.dropWhile isBlank := by
  induction text with
  | nil => rfl
  | cons c rest ih => simp only [skipBlanks, List.dropWhile_cons, ih]

/-- Blanks in front are skipped. -/
theorem skipBlanks_append {gap : List Char} (hgap : isBlankText gap) (text : List Char) :
    skipBlanks (gap ++ text) = skipBlanks text := by
  induction gap with
  | nil => rfl
  | cons c gap ih =>
    rw [isBlankText, List.all_cons, Bool.and_eq_true] at hgap
    rw [List.cons_append, skipBlanks, if_pos hgap.1, ih hgap.2]

/-- A text that begins with something else than a blank is left as it is. -/
theorem skipBlanks_cons_of_not_isBlank {c : Char} (hc : isBlank c = false) (rest : List Char) :
    skipBlanks (c :: rest) = c :: rest := by
  rw [skipBlanks, hc]
  rfl

/-- A text that does not begin with a blank is left as it is. -/
theorem skipBlanks_of_head? {text : List Char} (h : ∀ c ∈ text.head?, isBlank c = false) :
    skipBlanks text = text := by
  cases text with
  | nil => rfl
  | cons c rest => exact skipBlanks_cons_of_not_isBlank (h c rfl) rest

/-- Skipping blanks a second time changes nothing. -/
theorem skipBlanks_skipBlanks (text : List Char) : skipBlanks (skipBlanks text) = skipBlanks text := by
  cases h : skipBlanks text with
  | nil => rfl
  | cons c rest => exact skipBlanks_cons_of_not_isBlank (not_isBlank_of_skipBlanks_eq_cons h) rest

/-- A text is a run of blanks and what is left after skipping them. -/
theorem exists_gap (text : List Char) :
    ∃ gap, isBlankText gap ∧ text = gap ++ skipBlanks text := by
  refine ⟨text.takeWhile isBlank, List.all_takeWhile, ?_⟩
  rw [skipBlanks_eq_dropWhile, List.takeWhile_append_dropWhile]

/-- A text without blanks at its ends is what trimming leaves of it between blanks. -/
theorem trim_append {before core after : List Char} (hbefore : isBlankText before)
    (hafter : isBlankText after) (hhead : ∀ c ∈ core.head?, isBlank c = false)
    (hlast : ∀ c ∈ core.getLast?, isBlank c = false) : trim (before ++ (core ++ after)) = core := by
  have hreverse : isBlankText after.reverse := by simpa [isBlankText] using hafter
  rw [trim, skipBlanks_append hbefore, dropTrailingBlanks]
  cases core with
  | nil => simp [(skipBlanks_eq_nil_iff after).mpr hafter, skipBlanks]
  | cons c core =>
    rw [List.cons_append, skipBlanks_cons_of_not_isBlank (hhead c rfl), ← List.cons_append,
      List.reverse_append, skipBlanks_append hreverse,
      skipBlanks_of_head? (by rwa [List.head?_reverse]), List.reverse_reverse]

/-- A trimmed text begins like the text without its leading blanks. -/
theorem trim_prefix_skipBlanks (text : List Char) : trim text <+: skipBlanks text := by
  have hsuffix := skipBlanks_suffix (skipBlanks text).reverse
  rw [trim, dropTrailingBlanks]
  simpa using List.reverse_prefix.mpr hsuffix

/-- Trimming leaves no blank at the beginning. -/
theorem head?_trim (text : List Char) : ∀ c ∈ (trim text).head?, isBlank c = false := by
  intro c hc
  obtain ⟨rest, hrest⟩ := List.head?_eq_some_iff.mp hc
  obtain ⟨more, hmore⟩ := trim_prefix_skipBlanks text
  rw [hrest, List.cons_append] at hmore
  exact not_isBlank_of_skipBlanks_eq_cons hmore.symm

/-- Nor does it leave one at the end. -/
theorem getLast?_trim (text : List Char) : ∀ c ∈ (trim text).getLast?, isBlank c = false := by
  intro c hc
  rw [trim, dropTrailingBlanks, List.getLast?_reverse] at hc
  obtain ⟨rest, hrest⟩ := List.head?_eq_some_iff.mp hc
  exact not_isBlank_of_skipBlanks_eq_cons hrest

/-- Trimming a second time changes nothing. -/
theorem trim_trim (text : List Char) : trim (trim text) = trim text := by
  simpa using trim_append isBlankText_nil isBlankText_nil (head?_trim text) (getLast?_trim text)

/-- A text is what trimming leaves of it between two runs of blanks. -/
theorem exists_gaps (text : List Char) :
    ∃ before after, isBlankText before ∧ isBlankText after ∧ text = before ++ (trim text ++ after) := by
  obtain ⟨before, hbefore, htext⟩ := exists_gap text
  obtain ⟨after, hafter, hreverse⟩ := exists_gap (skipBlanks text).reverse
  refine ⟨before, after.reverse, hbefore, by simpa [isBlankText] using hafter, ?_⟩
  have hskip : skipBlanks text = trim text ++ after.reverse := by
    rw [trim, dropTrailingBlanks, ← List.reverse_append, ← hreverse, List.reverse_reverse]
  rw [← hskip]
  exact htext

/-- Blanks in front of a text are trimmed. -/
theorem trim_gap_append {gap : List Char} (hgap : isBlankText gap) (text : List Char) :
    trim (gap ++ text) = trim text := by
  rw [trim, trim, skipBlanks_append hgap]

/-- Blanks behind a text are trimmed. -/
theorem trim_append_gap (text : List Char) {gap : List Char} (hgap : isBlankText gap) :
    trim (text ++ gap) = trim text := by
  obtain ⟨before, after, hbefore, hafter, htext⟩ := exists_gaps text
  have hbehind : isBlankText (after ++ gap) := by
    rw [isBlankText, List.all_append, Bool.and_eq_true]
    exact ⟨hafter, hgap⟩
  calc trim (text ++ gap) = trim (before ++ (trim text ++ (after ++ gap))) := by
        rw [htext, trim_append hbefore hafter (head?_trim text) (getLast?_trim text)]
        simp only [List.append_assoc]
    _ = trim text := trim_append hbefore hbehind (head?_trim text) (getLast?_trim text)

end NotebookLint.Text
