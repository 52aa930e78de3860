import Mathlib.Data.List.Forall2
import Mathlib.Data.List.Infix
import Mathlib.Data.List.Perm.Basic
import Mathlib.Logic.Relation
import NotebookLint.Proofs.Glob
import NotebookLint.Proofs.Path.Pieces
import NotebookLint.Settings.Fault

/-!
# What exclude patterns exclude

The text of a pattern is cut at its separators, of either kind, and what is left of each part when
its doubled stars are merged is read as a glob. A pattern excludes a path if its globs match the last
names of the path in order, and all names if the pattern starts with a separator. The first text that
has no parts, or a part with a bracket that nothing closes, is refused.
-/

namespace NotebookLint

section Stars

/-- Whether a text comes from another by writing one star for two that stand side by side. -/
inductive MergesStars : List Char → List Char → Prop where
  /-- The stars stand between two texts. -/
  | intro (before after : List Char) :
      MergesStars (before ++ '*' :: '*' :: after) (before ++ '*' :: after)

/-- Whether a text is left of another when stars are merged until no two stand side by side. -/
structure SingleStars (text single : List Char) : Prop where
  /-- It is reached by merging stars. -/
  merged : Relation.ReflTransGen MergesStars text single
  /-- No more stars can be merged. -/
  not_infix : ¬['*', '*'] <:+: single

namespace ExcludePattern

/-- A star before a star is left out, and everything else is kept. -/
theorem collapseStars_cons (c : Char) (text : List Char) :
    collapseStars (c :: text) =
      if c = '*' ∧ text.head? = some '*' then collapseStars text else c :: collapseStars text := by
  split
  · rename_i hstars
    obtain ⟨rest, rfl⟩ := List.head?_eq_some_iff.mp hstars.2
    rw [hstars.1, collapseStars]
  · rename_i hother
    rw [collapseStars]
    rintro rest rfl rfl
    exact hother ⟨rfl, rfl⟩

/-- Merging two stars makes no difference to what is left. -/
theorem collapseStars_of_merges {text other : List Char} (h : MergesStars text other) :
    collapseStars text = collapseStars other := by
  obtain ⟨before, after⟩ := h
  induction before with
  | nil => rw [List.nil_append, List.nil_append, collapseStars]
  | cons c before ih =>
    have hhead : (before ++ '*' :: '*' :: after).head? = (before ++ '*' :: after).head? := by
      cases before <;> rfl
    rw [List.cons_append, List.cons_append, collapseStars_cons, collapseStars_cons, hhead, ih]

/-- The first character stays. -/
theorem head?_collapseStars (text : List Char) : (collapseStars text).head? = text.head? := by
  induction text with
  | nil => rfl
  | cons c text ih =>
    rw [collapseStars_cons]
    split
    · rename_i hstars
      rw [ih, hstars.1, hstars.2]
      rfl
    · rfl

/-- What is left is reached by merging stars. -/
theorem merges_collapseStars (text : List Char) :
    Relation.ReflTransGen MergesStars text (collapseStars text) := by
  have hcons {text other : List Char} (c : Char) (h : MergesStars text other) :
      MergesStars (c :: text) (c :: other) := by
    obtain ⟨before, after⟩ := h
    exact .intro (c :: before) after
  induction text with
  | nil => exact .refl
  | cons c text ih =>
    rw [collapseStars_cons]
    split
    · rename_i hstars
      obtain ⟨rest, rfl⟩ := List.head?_eq_some_iff.mp hstars.2
      rw [hstars.1]
      exact .head (.intro [] rest) ih
    · exact ih.lift (c :: ·) fun _ _ => hcons c

/-- No two stars are left side by side. -/
theorem not_infix_collapseStars (text : List Char) : ¬['*', '*'] <:+: collapseStars text := by
  induction text with
  | nil => simp [collapseStars]
  | cons c text ih =>
    rw [collapseStars_cons]
    split
    · exact ih
    · rename_i hother
      rw [List.infix_cons_iff, not_or]
      refine ⟨?_, ih⟩
      rintro ⟨rest, hrest⟩
      obtain ⟨hc, htext⟩ := List.cons.inj hrest
      refine hother ⟨hc.symm, ?_⟩
      rw [← head?_collapseStars, ← htext]
      rfl

/-- A text without two stars side by side is left as it is. -/
theorem collapseStars_of_not_infix {text : List Char} (h : ¬['*', '*'] <:+: text) :
    collapseStars text = text := by
  induction text with
  | nil => rfl
  | cons c text ih =>
    rw [List.infix_cons_iff, not_or] at h
    rw [collapseStars_cons, if_neg, ih h.2]
    rintro ⟨rfl, hhead⟩
    obtain ⟨rest, rfl⟩ := List.head?_eq_some_iff.mp hhead
    exact h.1 ⟨rest, rfl⟩

/-- However stars are merged, the same text is left when no more can be. -/
theorem singleStars_iff {text single : List Char} :
    SingleStars text single ↔ single = collapseStars text := by
  constructor
  · rintro ⟨hmerged, hsingle⟩
    rw [← collapseStars_of_not_infix hsingle]
    clear hsingle
    induction hmerged with
    | refl => rfl
    | tail _ hmerges ih => rw [← collapseStars_of_merges hmerges, ih]
  · rintro rfl
    exact ⟨merges_collapseStars text, not_infix_collapseStars text⟩

end ExcludePattern

end Stars

section InOrder

variable {α β ε : Type} {read : α → Except ε β}

/-- An item that can be read is the first of the results. -/
theorem mapM_cons_of_ok {item : α} {result : β} (hitem : read item = .ok result) (items : List α) :
    (item :: items).mapM read = (items.mapM read).map (result :: ·) := by
  rw [List.mapM_cons, hitem]
  cases items.mapM read <;> rfl

/-- An item that cannot be read ends the reading. -/
theorem mapM_cons_of_error {item : α} {fault : ε} (hitem : read item = .error fault)
    (items : List α) : (item :: items).mapM read = .error fault := by
  rw [List.mapM_cons, hitem]
  rfl

/-- Items are read in order if each of them can be read. -/
theorem mapM_eq_ok_iff {items : List α} {results : List β} :
    items.mapM read = .ok results ↔
      List.Forall₂ (fun item result => read item = .ok result) items results := by
  induction items generalizing results with
  | nil =>
    rw [List.forall₂_nil_left_iff]
    constructor
    · rintro ⟨⟩
      rfl
    · rintro rfl
      rfl
  | cons item items ih =>
    rw [List.forall₂_cons_left_iff]
    cases hitem : read item with
    | error fault =>
      rw [mapM_cons_of_error hitem]
      constructor
      · rintro ⟨⟩
      · rintro ⟨_, _, ⟨⟩, -⟩
    | ok result =>
      rw [mapM_cons_of_ok hitem]
      constructor
      · intro h
        cases hitems : items.mapM read with
        | error fault =>
          rw [hitems] at h
          cases h
        | ok rest =>
          rw [hitems] at h
          exact ⟨result, rest, rfl, ih.mp hitems, (Except.ok.inj h).symm⟩
      · rintro ⟨_, rest, ⟨⟩, hrest, rfl⟩
        rw [ih.mpr hrest]
        rfl

/-- Otherwise the first item that cannot be read tells why. -/
theorem mapM_eq_error_iff {items : List α} {fault : ε} :
    items.mapM read = .error fault ↔ ∃ before item after, items = before ++ item :: after ∧
      (∀ other ∈ before, ∃ result, read other = .ok result) ∧ read item = .error fault := by
  constructor
  · intro h
    induction items with
    | nil => cases h
    | cons item items ih =>
      cases hitem : read item with
      | error reason =>
        rw [mapM_cons_of_error hitem] at h
        exact ⟨[], item, items, rfl, nofun, hitem.trans (congrArg Except.error (Except.error.inj h))⟩
      | ok result =>
        rw [mapM_cons_of_ok hitem] at h
        cases hitems : items.mapM read with
        | ok rest =>
          rw [hitems] at h
          cases h
        | error reason =>
          rw [hitems] at h
          obtain ⟨before, refused, after, rfl, hbefore, hrefused⟩ :=
            ih (hitems.trans (congrArg Except.error (Except.error.inj h)))
          refine ⟨item :: before, refused, after, rfl, ?_, hrefused⟩
          exact List.forall_mem_cons.mpr ⟨⟨result, hitem⟩, hbefore⟩
  · rintro ⟨before, item, after, rfl, hbefore, hitem⟩
    induction before with
    | nil => exact mapM_cons_of_error hitem after
    | cons other before ih =>
      obtain ⟨⟨result, hother⟩, hbefore⟩ := List.forall_mem_cons.mp hbefore
      rw [List.cons_append, mapM_cons_of_ok hother, ih hbefore]
      rfl

end InOrder

namespace ExcludePattern

section Parts

/-- The parts of the text of a pattern that count: what stands between separators of either kind,
unless it is empty or a point. -/
def parts (text : String) : List (List Char) :=
  (text.toList.splitOnP fun c => c = '/' ∨ c = '\\').filter fun part => part ≠ [] ∧ part ≠ ['.']

/-- Whether a part is read as a glob, each run of stars as one star. -/
def PartReads (part : List Char) (glob : Glob) : Prop :=
  ∃ single, SingleStars part single ∧ Glob.Reads single glob

/-- Whether a text is that of a pattern. -/
structure Describes (text : String) (pattern : ExcludePattern) : Prop where
  /-- It has parts. -/
  parts_ne_nil : parts text ≠ []
  /-- The parts are read as the globs of the pattern. -/
  globs : List.Forall₂ PartReads (parts text) pattern.globs
  /-- A separator in front anchors the pattern. -/
  anchored : pattern.anchored ↔ ∃ separator ∈ ['/', '\\'], text.toList.head? = some separator

/-- Why a text is not that of a pattern. -/
inductive Faulty (text : String) : PatternFault → Prop where
  /-- It has no parts. -/
  | empty (hparts : parts text = []) : Faulty text .empty
  /-- The first part that is not read as a glob has a bracket that nothing closes. -/
  | invalidRange {before after : List (List Char)} {part single : List Char} {place : Nat}
      (hparts : parts text = before ++ part :: after)
      (hbefore : ∀ other ∈ before, ∃ glob, PartReads other glob)
      (hsingle : SingleStars part single) (hunclosed : Glob.UnclosedAt single place) :
      Faulty text (.invalidRange place)

/-- The pieces of a text with its backslashes read as separators stand between separators of either
kind. -/
theorem pieces_map_slash (text : List Char) :
    Path.pieces (text.map fun c => if c = '\\' then '/' else c) =
      text.splitOnP fun c => c = '/' ∨ c = '\\' := by
  induction text with
  | nil => rfl
  | cons c text ih =>
    rw [List.map_cons, Path.pieces, ih, List.splitOnP_cons_eq_if_modifyHead]
    by_cases hslash : c = '/'
    · simp [hslash]
    · by_cases hback : c = '\\'
      · simp [hback]
      · rw [if_neg hback, if_neg hslash, if_neg (by simp [hslash, hback])]
        obtain ⟨part, parts, hparts⟩ := List.exists_cons_of_ne_nil
          (List.splitOnP_ne_nil (fun c => decide (c = '/' ∨ c = '\\')) text)
        rw [hparts]
        rfl

/-- A part of the text of a pattern, read as a glob. -/
def readPart (part : List Char) : Except PatternFault Glob :=
  (Glob.parse (collapseStars part)).mapError .invalidRange

/-- A part is read once its stars are merged. -/
theorem readPart_eq_ok_iff {part : List Char} {glob : Glob} :
    readPart part = .ok glob ↔ PartReads part glob := by
  simp only [PartReads, singleStars_iff, exists_eq_left, ← Glob.parse_eq_ok_iff, readPart]
  cases Glob.parse (collapseStars part) <;> simp [Except.mapError]

/-- It is refused for a bracket that nothing closes. -/
theorem readPart_eq_error_iff {part : List Char} {fault : PatternFault} :
    readPart part = .error fault ↔ ∃ single place, SingleStars part single ∧
      Glob.UnclosedAt single place ∧ fault = .invalidRange place := by
  simp only [singleStars_iff, exists_and_left, exists_eq_left, ← Glob.parse_eq_error_iff, readPart]
  cases Glob.parse (collapseStars part) <;> simp [Except.mapError, eq_comm]

/-- The parts are read in order. -/
theorem parseGlobs_eq_mapM (parts : List (List Char)) : parseGlobs parts = parts.mapM readPart := by
  induction parts with
  | nil => rfl
  | cons part parts ih =>
    rw [parseGlobs, ih]
    cases hpart : Glob.parse (collapseStars part) with
    | error place => exact (mapM_cons_of_error (by rw [readPart, hpart]; rfl) parts).symm
    | ok glob => exact (mapM_cons_of_ok (by rw [readPart, hpart]; rfl) parts).symm

/-- The text of a pattern is read part by part. -/
theorem parse_eq (text : String) :
    parse text = match (parts text).mapM readPart with
      | .error fault => .error fault
      | .ok [] => .error .empty
      | .ok globs => .ok ⟨(text.toList.map fun c => if c = '\\' then '/' else c).head? = some '/',
        globs⟩ := by
  rw [← parseGlobs_eq_mapM, parts, ← pieces_map_slash]
  rfl

/-- Parts are read as globs. -/
theorem readParts_eq_ok_iff {parts : List (List Char)} {globs : List Glob} :
    parts.mapM readPart = .ok globs ↔ List.Forall₂ PartReads parts globs := by
  simp only [mapM_eq_ok_iff, readPart_eq_ok_iff]

/-- A text is read as the pattern that it describes. -/
theorem parse_eq_ok_iff {text : String} {pattern : ExcludePattern} :
    parse text = .ok pattern ↔ Describes text pattern := by
  have hanchored : (text.toList.map fun c => if c = '\\' then '/' else c).head? = some '/' ↔
      ∃ separator ∈ ['/', '\\'], text.toList.head? = some separator := by
    cases text.toList with
    | nil => simp
    | cons c rest => by_cases hback : c = '\\' <;> simp [hback]
  rw [parse_eq]
  constructor
  · intro h
    split at h
    · cases h
    · cases h
    · rename_i globs hempty hglobs
      obtain rfl := Except.ok.inj h
      rw [readParts_eq_ok_iff] at hglobs
      refine ⟨?_, hglobs, decide_eq_true_iff.trans hanchored⟩
      intro hparts
      rw [hparts, List.forall₂_nil_left_iff] at hglobs
      exact hempty hglobs
  · rintro ⟨hparts, hglobs, hfront⟩
    rw [readParts_eq_ok_iff.mpr hglobs]
    obtain ⟨anchored, globs⟩ := pattern
    cases globs with
    | nil =>
      rw [List.forall₂_nil_right_iff] at hglobs
      exact absurd hglobs hparts
    | cons glob globs =>
      have hsame : decide ((text.toList.map fun c => if c = '\\' then '/' else c).head? =
          some '/') = anchored :=
        Bool.eq_iff_iff.mpr (decide_eq_true_iff.trans (hanchored.trans hfront.symm))
      dsimp only
      rw [hsame]

/-- A text is refused for the fault that it has. -/
theorem parse_eq_error_iff {text : String} {fault : PatternFault} :
    parse text = .error fault ↔ Faulty text fault := by
  rw [parse_eq]
  constructor
  · intro h
    split at h
    · rename_i reason hreason
      obtain rfl := Except.error.inj h
      obtain ⟨before, part, after, hparts, hbefore, hpart⟩ := mapM_eq_error_iff.mp hreason
      obtain ⟨single, place, hsingle, hunclosed, rfl⟩ := readPart_eq_error_iff.mp hpart
      simp only [readPart_eq_ok_iff] at hbefore
      exact .invalidRange hparts hbefore hsingle hunclosed
    · rename_i hglobs
      obtain rfl := Except.error.inj h
      rw [readParts_eq_ok_iff, List.forall₂_nil_right_iff] at hglobs
      exact .empty hglobs
    · cases h
  · intro h
    cases h with
    | empty hparts =>
      rw [hparts]
      rfl
    | @invalidRange _ _ _ _ place hparts hbefore hsingle hunclosed =>
      have hread : (parts text).mapM readPart = .error (.invalidRange place) := by
        refine mapM_eq_error_iff.mpr ⟨_, _, _, hparts, ?_, ?_⟩
        · simpa only [readPart_eq_ok_iff] using hbefore
        · exact readPart_eq_error_iff.mpr ⟨_, _, hsingle, hunclosed, rfl⟩
      rw [hread]

/-- Merging two stars inside a text merges them inside the part that they stand in. -/
theorem splitOnP_of_merges {text other : List Char} (h : MergesStars text other) :
    List.Forall₂ (fun part single => part = single ∨ MergesStars part single)
      (text.splitOnP fun c => c = '/' ∨ c = '\\') (other.splitOnP fun c => c = '/' ∨ c = '\\') := by
  obtain ⟨before, after⟩ := h
  have hrefl (parts : List (List Char)) :
      List.Forall₂ (fun part single => part = single ∨ MergesStars part single) parts parts :=
    List.forall₂_same.mpr fun _ _ => .inl rfl
  induction before with
  | nil =>
    -- A star is no separator, so that both stars are in the first part.
    obtain ⟨part, parts, hparts⟩ := List.exists_cons_of_ne_nil
      (List.splitOnP_ne_nil (fun c => decide (c = '/' ∨ c = '\\')) after)
    have hstar (rest : List Char) : List.splitOnP (fun c => decide (c = '/' ∨ c = '\\'))
        ('*' :: rest) = (rest.splitOnP fun c => c = '/' ∨ c = '\\').modifyHead ('*' :: ·) := by
      rw [List.splitOnP_cons_eq_if_modifyHead, if_neg (by decide)]
    rw [List.nil_append, List.nil_append, hstar, hstar, hparts]
    exact .cons (.inr (.intro [] part)) (hrefl parts)
  | cons c before ih =>
    rw [List.cons_append, List.cons_append, List.splitOnP_cons_eq_if_modifyHead,
      List.splitOnP_cons_eq_if_modifyHead]
    split
    · exact .cons (.inl rfl) ih
    · generalize List.splitOnP _ _ = parts at ih ⊢
      generalize List.splitOnP _ _ = singles at ih ⊢
      cases ih with
      | nil => exact .nil
      | cons hhead htail =>
        refine .cons ?_ htail
        rcases hhead with rfl | ⟨front, back⟩
        · exact .inl rfl
        · exact .inr (.intro (c :: front) back)

/-- So the part that they stand in counts as before. -/
theorem parts_of_merges {text other : String} (h : MergesStars text.toList other.toList) :
    List.Forall₂ (fun part single => part = single ∨ MergesStars part single) (parts text)
      (parts other) := by
  refine List.rel_filter ?_ (splitOnP_of_merges h)
  rintro part single (rfl | ⟨front, back⟩)
  · exact Iff.rfl
  · cases front <;> simp

/-- A part is read as before. -/
theorem partReads_iff_of_merges {part single : List Char} {glob : Glob}
    (h : part = single ∨ MergesStars part single) : PartReads part glob ↔ PartReads single glob := by
  rcases h with rfl | hmerges
  · rfl
  · simp only [PartReads, singleStars_iff, collapseStars_of_merges hmerges]

/-- Merging two stars inside the text of a pattern makes no difference. -/
theorem describes_iff_of_merges {text other : String}
    (h : MergesStars text.toList other.toList) (pattern : ExcludePattern) :
    Describes text pattern ↔ Describes other pattern := by
  have hparts := parts_of_merges h
  have hnil : parts text = [] ↔ parts other = [] := by
    rw [← List.length_eq_zero_iff, ← List.length_eq_zero_iff, hparts.length_eq]
  have hglobs (globs : List Glob) :
      List.Forall₂ PartReads (parts text) globs ↔ List.Forall₂ PartReads (parts other) globs := by
    clear hnil
    generalize parts text = texts at hparts ⊢
    generalize parts other = others at hparts ⊢
    induction hparts generalizing globs with
    | nil => rfl
    | cons hpart _ ih =>
      simp only [List.forall₂_cons_left_iff, partReads_iff_of_merges hpart, ih]
  have hhead : text.toList.head? = other.toList.head? := by
    rw [← head?_collapseStars, collapseStars_of_merges h, head?_collapseStars]
  constructor
  · rintro ⟨hne, hread, hanchored⟩
    exact ⟨fun hother => hne (hnil.mpr hother), (hglobs _).mp hread, hhead ▸ hanchored⟩
  · rintro ⟨hne, hread, hanchored⟩
    exact ⟨fun htext => hne (hnil.mp htext), (hglobs _).mpr hread, hhead ▸ hanchored⟩

end Parts

section Matching

/-- Whether a pattern matches the last of some names in order, and all of them if it is anchored. -/
def Trails (pattern : ExcludePattern) (names : List (List Char)) : Prop :=
  ∃ before last, names = before ++ last ∧ List.Forall₂ Glob.Matches pattern.globs last ∧
    (pattern.anchored → before = [])

/-- Globs match names one by one. -/
theorem matchesNames_iff (globs : List Glob) (names : List (List Char)) :
    matchesNames globs names ↔ List.Forall₂ Glob.Matches globs names := by
  fun_induction matchesNames globs names with
  | case1 => simp
  | case2 glob globs name names ih =>
    rw [Bool.and_eq_true, Glob.matchesText_iff, ih, List.forall₂_cons]
  | case3 globs names hnil hcons =>
    constructor
    · rintro ⟨⟩
    · intro h
      cases h with
      | nil => exact absurd rfl (hnil rfl)
      | cons _ _ => exact absurd rfl (hcons _ _ _ _ rfl)

/-- A pattern excludes the names that it matches at their end. -/
theorem excludes_iff (pattern : ExcludePattern) (names : List (List Char)) :
    pattern.excludes names ↔ pattern.Trails names := by
  rw [excludes, Bool.and_eq_true, matchesNames_iff]
  constructor
  · rintro ⟨hcount, hmatches⟩
    refine ⟨_, _, (List.take_append_drop _ names).symm, hmatches, fun hanchored => ?_⟩
    rw [if_pos hanchored, beq_iff_eq] at hcount
    rw [hcount, Nat.sub_self, List.take_zero]
  · rintro ⟨before, last, rfl, hmatches, hbefore⟩
    have hlength := hmatches.length_eq
    rw [List.length_append, hlength, Nat.add_sub_cancel, List.drop_left]
    refine ⟨?_, hmatches⟩
    split
    · rename_i hanchored
      simp [hbefore hanchored]
    · simp

end Matching

end ExcludePattern

namespace Exclusion

open ExcludePattern

section Names

/-- The name that a piece of a path stands for, if it is one. -/
def nameOf (piece : List Char) : Option (List Char) :=
  (Path.componentOf piece).bind fun
    | .normal name => some name.toList
    | _ => none

/-- The names of a path are those among its pieces. -/
theorem names_eq_filterMap (path : String) :
    names path = (Path.pieces path.toList).filterMap nameOf := by
  obtain ⟨first, rest, hpieces⟩ := List.exists_cons_of_ne_nil (Path.pieces_ne_nil path.toList)
  have hcons : (first :: rest).filterMap nameOf =
      (nameOf first).toList ++ rest.filterMap nameOf := by
    rw [List.filterMap_cons]
    cases nameOf first <;> rfl
  rw [names, Path.components, hpieces, hcons]
  dsimp only
  rw [List.filterMap_append, List.filterMap_filterMap]
  refine congrArg (· ++ _) ?_
  -- The first piece of an absolute path is empty, and a point in front is no name.
  split
  · rename_i habsolute
    rw [Path.isAbsolute, decide_eq_true_eq] at habsolute
    obtain ⟨behind, hbehind⟩ := List.head?_eq_some_iff.mp habsolute
    rw [hbehind, Path.pieces, if_pos rfl] at hpieces
    rw [← (List.cons.inj hpieces).1]
    rfl
  · split
    · rename_i hpoint
      rw [hpoint]
      rfl
    · rw [nameOf]
      cases hcomponent : Path.componentOf first with
      | none => rfl
      | some part => cases part <;> rfl

/-- The names of a path below a directory are behind those of the directory. -/
theorem names_below (directory path : String) :
    names (directory ++ "/" ++ path) = names directory ++ names path := by
  have htoList : (directory ++ "/" ++ path).toList =
      directory.toList ++ '/' :: path.toList := by simp
  rw [names_eq_filterMap, htoList, Path.pieces_append, List.filterMap_append, ← names_eq_filterMap,
    ← names_eq_filterMap]

end Names

/-- What exclude patterns are to do. -/
structure ExcludesTrailing (compile : List String → Except SettingsError (List ExcludePattern))
    (excludes : List ExcludePattern → String → Bool)
    (keep : List ExcludePattern → List String → List String) : Prop where
  /-- The first text that is not that of a pattern is refused, for the fault that it has. -/
  refuses_iff (texts : List String) (error : SettingsError) :
    compile texts = .error error ↔ ∃ before text after fault, texts = before ++ text :: after ∧
      (∀ other ∈ before, ∃ pattern, Describes other pattern) ∧ Faulty text fault ∧
      error = .invalidPattern text fault
  /-- Otherwise each text describes its pattern. -/
  compiles_iff (texts : List String) (patterns : List ExcludePattern) :
    compile texts = .ok patterns ↔ List.Forall₂ Describes texts patterns
  /-- Stars side by side are the same as one star. -/
  stars (before after : String) (patterns : List ExcludePattern) :
    compile [before ++ "**" ++ after] = .ok patterns ↔
      compile [before ++ "*" ++ after] = .ok patterns
  /-- A path is excluded if some pattern matches the last of its names. -/
  excludes_iff (patterns : List ExcludePattern) (path : String) :
    excludes patterns path ↔ ∃ pattern ∈ patterns, pattern.Trails (names path)
  /-- The texts of two lists exclude what those of either exclude. -/
  append {texts others : List String} {patterns otherPatterns : List ExcludePattern}
    (htexts : compile texts = .ok patterns) (hothers : compile others = .ok otherPatterns) :
    ∃ both, compile (texts ++ others) = .ok both ∧
      ∀ path, excludes both path ↔ excludes patterns path ∨ excludes otherPatterns path
  /-- The order of the texts does not matter. -/
  perm {texts others : List String} {patterns : List ExcludePattern} (hperm : texts.Perm others)
    (htexts : compile texts = .ok patterns) :
    ∃ otherPatterns, compile others = .ok otherPatterns ∧
      ∀ path, excludes otherPatterns path ↔ excludes patterns path
  /-- A path that a pattern without a separator in front excludes is also excluded below any
  directory. -/
  below {text : String} {patterns : List ExcludePattern} (htext : compile [text] = .ok patterns)
    (hfront : ∀ separator ∈ ['/', '\\'], text.toList.head? ≠ some separator)
    (directory path : String) :
    excludes patterns path → excludes patterns (directory ++ "/" ++ path)
  /-- A pattern with more parts than a path has names does not exclude it. -/
  short {text : String} {patterns : List ExcludePattern} (htext : compile [text] = .ok patterns)
    {path : String} (hpath : (names path).length < (parts text).length) : ¬excludes patterns path
  /-- The other paths are kept, in their order and as often as they are given. -/
  keeps (patterns : List ExcludePattern) (paths : List String) :
    (keep patterns paths).Sublist paths ∧ ∀ path, (keep patterns paths).count path =
      if excludes patterns path then 0 else paths.count path
  /-- What is kept is kept again. -/
  keeps_kept (patterns : List ExcludePattern) (paths : List String) :
    keep patterns (keep patterns paths) = keep patterns paths

section Compiling

/-- The text of a pattern, kept with the fault that it has. -/
def readText (text : String) : Except (String × PatternFault) ExcludePattern :=
  (ExcludePattern.parse text).mapError (text, ·)

/-- A text is read as the pattern that it describes. -/
theorem readText_eq_ok_iff {text : String} {pattern : ExcludePattern} :
    readText text = .ok pattern ↔ Describes text pattern := by
  rw [← parse_eq_ok_iff, readText]
  cases ExcludePattern.parse text <;> simp [Except.mapError]

/-- A text is refused for the fault that it has. -/
theorem readText_eq_error_iff {text : String} {refused : String × PatternFault} :
    readText text = .error refused ↔ ∃ fault, Faulty text fault ∧ refused = (text, fault) := by
  simp only [← parse_eq_error_iff, readText]
  cases ExcludePattern.parse text <;> simp [Except.mapError, eq_comm]

/-- The texts are read in order. -/
theorem parse_eq_mapM (texts : List String) : parse texts = texts.mapM readText := by
  induction texts with
  | nil => rfl
  | cons text texts ih =>
    rw [parse, ih]
    cases htext : ExcludePattern.parse text with
    | error fault => exact (mapM_cons_of_error (by rw [readText, htext]; rfl) texts).symm
    | ok pattern => exact (mapM_cons_of_ok (by rw [readText, htext]; rfl) texts).symm

/-- Patterns are what the texts describe. -/
theorem compile_eq_ok_iff {texts : List String} {patterns : List ExcludePattern} :
    compile texts = .ok patterns ↔ List.Forall₂ Describes texts patterns := by
  have hmapM : compile texts = .ok patterns ↔ texts.mapM readText = .ok patterns := by
    rw [compile, parse_eq_mapM]
    cases texts.mapM readText <;> simp [Except.mapError]
  simp only [hmapM, mapM_eq_ok_iff, readText_eq_ok_iff]

/-- The first text that describes no pattern is refused. -/
theorem compile_eq_error_iff {texts : List String} {error : SettingsError} :
    compile texts = .error error ↔ ∃ before text after fault, texts = before ++ text :: after ∧
      (∀ other ∈ before, ∃ pattern, Describes other pattern) ∧ Faulty text fault ∧
      error = .invalidPattern text fault := by
  have hmapM : compile texts = .error error ↔ ∃ refused, texts.mapM readText = .error refused ∧
      error = .invalidPattern refused.1 refused.2 := by
    rw [compile, parse_eq_mapM]
    cases texts.mapM readText <;> simp [Except.mapError, eq_comm]
  simp only [hmapM, mapM_eq_error_iff, readText_eq_ok_iff, readText_eq_error_iff]
  constructor
  · rintro ⟨_, ⟨before, text, after, htexts, hbefore, fault, hfault, rfl⟩, rfl⟩
    exact ⟨before, text, after, fault, htexts, hbefore, hfault, rfl⟩
  · rintro ⟨before, text, after, fault, htexts, hbefore, hfault, rfl⟩
    exact ⟨_, ⟨before, text, after, htexts, hbefore, fault, hfault, rfl⟩, rfl⟩

end Compiling

section Trailing

/-- A path is excluded if some pattern matches the last of its names. -/
theorem excludes_iff_exists_trails {patterns : List ExcludePattern} {path : String} :
    excludes patterns path ↔ ∃ pattern ∈ patterns, pattern.Trails (names path) := by
  simp only [excludes, List.any_eq_true, ExcludePattern.excludes_iff]

/-- The only text of a list describes the only pattern. -/
theorem describes_of_compile_singleton {text : String} {patterns : List ExcludePattern}
    (h : compile [text] = .ok patterns) : ∃ pattern, patterns = [pattern] ∧
      Describes text pattern := by
  obtain ⟨pattern, _, hpattern, hnil, rfl⟩ :=
    List.forall₂_cons_left_iff.mp (compile_eq_ok_iff.mp h)
  rw [List.forall₂_nil_left_iff.mp hnil]
  exact ⟨pattern, rfl, hpattern⟩

/-- What trails names also trails them behind others, unless the pattern is anchored. -/
theorem trails_append {pattern : ExcludePattern} {names : List (List Char)}
    (h : pattern.Trails names) (hanchored : ¬pattern.anchored) (others : List (List Char)) :
    pattern.Trails (others ++ names) := by
  obtain ⟨before, last, rfl, hmatches, -⟩ := h
  exact ⟨others ++ before, last, by rw [List.append_assoc], hmatches, fun h => absurd h hanchored⟩

/-- A pattern that trails names has no more globs than there are names. -/
theorem length_le_of_trails {pattern : ExcludePattern} {names : List (List Char)}
    (h : pattern.Trails names) : pattern.globs.length ≤ names.length := by
  obtain ⟨before, last, rfl, hmatches, -⟩ := h
  rw [hmatches.length_eq, List.length_append]
  exact Nat.le_add_left _ _

/-- The patterns exclude what they match at its end, whatever the order of their texts. -/
theorem compile_excludesTrailing : ExcludesTrailing compile excludes keep where
  refuses_iff _ _ := compile_eq_error_iff
  compiles_iff _ _ := compile_eq_ok_iff
  stars before after patterns := by
    have hmerges : MergesStars (before ++ "**" ++ after).toList (before ++ "*" ++ after).toList := by
      have hdouble : (before ++ "**" ++ after).toList =
          before.toList ++ '*' :: '*' :: after.toList := by simp
      have hsingle : (before ++ "*" ++ after).toList = before.toList ++ '*' :: after.toList := by
        simp
      rw [hdouble, hsingle]
      exact .intro _ _
    simp only [compile_eq_ok_iff, List.forall₂_cons_left_iff, describes_iff_of_merges hmerges]
  excludes_iff _ _ := excludes_iff_exists_trails
  append htexts hothers := by
    refine ⟨_, compile_eq_ok_iff.mpr (List.rel_append (compile_eq_ok_iff.mp htexts)
      (compile_eq_ok_iff.mp hothers)), fun path => ?_⟩
    simp only [excludes_iff_exists_trails, List.mem_append, or_and_right, exists_or]
  perm hperm htexts := by
    obtain ⟨others, hothers, hsame⟩ :=
      List.perm_comp_forall₂ hperm.symm (compile_eq_ok_iff.mp htexts)
    refine ⟨others, compile_eq_ok_iff.mpr hothers, fun path => ?_⟩
    simp only [excludes_iff_exists_trails, hsame.mem_iff]
  below htext hfront directory path hpath := by
    obtain ⟨pattern, rfl, hdescribes⟩ := describes_of_compile_singleton htext
    rw [excludes_iff_exists_trails] at hpath ⊢
    obtain ⟨_, hmem, htrails⟩ := hpath
    obtain rfl := List.mem_singleton.mp hmem
    have hanchored := mt hdescribes.anchored.mp fun ⟨separator, hseparator, hhead⟩ =>
      hfront separator hseparator hhead
    rw [names_below]
    exact ⟨_, hmem, trails_append htrails hanchored _⟩
  short htext path hpath hexcludes := by
    obtain ⟨pattern, rfl, hdescribes⟩ := describes_of_compile_singleton htext
    obtain ⟨_, hmem, htrails⟩ := excludes_iff_exists_trails.mp hexcludes
    obtain rfl := List.mem_singleton.mp hmem
    have hglobs := length_le_of_trails htrails
    rw [← hdescribes.globs.length_eq] at hglobs
    exact absurd hpath (Nat.not_lt.mpr hglobs)
  keeps patterns paths := by
    refine ⟨List.filter_sublist, fun path => ?_⟩
    rw [keep]
    split
    · rename_i hexcludes
      refine List.count_eq_zero.mpr fun hmem => ?_
      simp [List.mem_filter, hexcludes] at hmem
    · rename_i hkept
      exact List.count_filter (by simpa using hkept)
  keeps_kept patterns paths := by
    rw [keep, keep, List.filter_filter]
    simp only [Bool.and_self]

/-- An anchored pattern and another one, both with brackets and runs of stars. -/
theorem compile_excludesTrailing_both :
    ∃ patterns, Exclusion.compile ["./out\\***", "/[[]**[!b-d]"] = .ok patterns ∧
      Exclusion.excludes patterns "/a/./out/x.ipynb" ∧ Exclusion.excludes patterns "../[x]" ∧
      ¬Exclusion.excludes patterns "a/[x]" ∧ ¬Exclusion.excludes patterns "[c" := by
  have hout : Exclusion.compile ["./out\\***"] =
      .ok [⟨false, [[.char 'o', .char 'u', .char 't'], [.anySequence]]⟩] := by decide +kernel
  have hbracket : Exclusion.compile ["/[[]**[!b-d]"] =
      .ok [⟨true, [[.within [.single '['], .anySequence, .except [.range 'b' 'd']]]⟩] := by
    decide +kernel
  obtain ⟨patterns, hpatterns, hexcludes⟩ := compile_excludesTrailing.append hout hbracket
  refine ⟨patterns, hpatterns, ?_⟩
  simp only [hexcludes]
  decide +kernel

end Trailing

end Exclusion

end NotebookLint
