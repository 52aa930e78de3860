import Mathlib.Data.List.Induction
import NotebookLint.Proofs.Path.Order
import NotebookLint.Proofs.Path.Pieces

/-!
# How files are shown

A file below a base is shown by its components from the base on, and any other file as it is. What
is shown leads back to the file: the base followed by it has the components of the file. So files
with different components are never shown alike, whether they lie below the base, outside it or at
it, and also if the way to them goes through `..`.

Base and files are absolute here. An empty base, which is not, would not lead anywhere.
-/

namespace NotebookLint.Path

/-- Whether a component can stand behind others in a path, since its text is a piece that counts. -/
def Component.Follows (part : Component) : Prop :=
  '/' ∉ part.text.toList ∧ componentOf part.text.toList = some part

section Pieces

variable {text piece : List Char} {all : List (List Char)}

/-- A piece has no separator inside. -/
theorem not_mem_of_mem_pieces (h : piece ∈ pieces text) : '/' ∉ piece := by
  induction text generalizing piece with
  | nil =>
    rw [pieces, List.mem_singleton] at h
    simp [h]
  | cons c rest ih =>
    rw [pieces] at h
    split at h
    · rcases List.mem_cons.mp h with rfl | h
      · exact List.not_mem_nil
      · exact ih h
    · rename_i hc
      cases hpieces : pieces rest with
      | nil => exact absurd hpieces (pieces_ne_nil rest)
      | cons first more =>
        rw [hpieces] at h ih
        rcases List.mem_cons.mp h with rfl | h
        · rw [List.mem_cons, not_or]
          exact ⟨Ne.symm hc, ih List.mem_cons_self⟩
        · exact ih (List.mem_cons_of_mem first h)

/-- What stands in a piece stands in the pieces joined. -/
theorem mem_joinPieces {c : Char} (hpiece : piece ∈ all) (hc : c ∈ piece) : c ∈ joinPieces all := by
  induction all with
  | nil => cases hpiece
  | cons first rest ih =>
    by_cases hrest : rest = []
    · rw [hrest, List.mem_singleton] at hpiece
      rw [hrest, joinPieces, ← hpiece]
      exact hc
    · rw [joinPieces_cons first hrest, List.mem_append, List.mem_cons]
      rcases List.mem_cons.mp hpiece with rfl | hpiece
      · exact .inl hc
      · exact .inr (.inr (ih hpiece))

/-- Pieces without separators inside are the pieces of what they are joined to. -/
theorem pieces_joinPieces (hne : all ≠ []) (hall : ∀ piece ∈ all, '/' ∉ piece) :
    pieces (joinPieces all) = all := by
  induction all with
  | nil => exact absurd rfl hne
  | cons first rest ih =>
    obtain ⟨hfirst, hall⟩ := List.forall_mem_cons.mp hall
    by_cases hrest : rest = []
    · rw [hrest]
      exact pieces_of_not_mem hfirst
    · rw [joinPieces_cons first hrest, pieces_append, pieces_of_not_mem hfirst, ih hrest hall]
      rfl

/-- Pieces that are not empty and have no separator inside do not end in one when they are
joined. -/
theorem getLast?_joinPieces_ne (hall : ∀ piece ∈ all, piece ≠ [] ∧ '/' ∉ piece) :
    (joinPieces all).getLast? ≠ some '/' := by
  induction all with
  | nil => simp [joinPieces]
  | cons first rest ih =>
    obtain ⟨hfirst, hall⟩ := List.forall_mem_cons.mp hall
    by_cases hrest : rest = []
    · rw [hrest]
      exact fun hlast => hfirst.2 (List.mem_of_getLast? hlast)
    · obtain ⟨piece, more, rfl⟩ := List.exists_cons_of_ne_nil hrest
      have hjoined : joinPieces (piece :: more) ≠ [] := by
        obtain ⟨c, hc⟩ := List.exists_mem_of_ne_nil _ (hall piece List.mem_cons_self).1
        exact List.ne_nil_of_mem (mem_joinPieces List.mem_cons_self hc)
      rw [joinPieces_cons first hrest, List.getLast?_append_of_ne_nil _ (List.cons_ne_nil _ _),
        List.getLast?_cons_of_ne_nil hjoined]
      exact ih hall

end Pieces

section Components

variable {path base : String} {parts : List Component} {part : Component}

/-- The text of a component is the piece that it comes from. -/
theorem toList_text_of_componentOf {piece : List Char} (h : componentOf piece = some part) :
    part.text.toList = piece := by
  unfold componentOf at h
  split at h
  · cases h
  · split at h
    · rename_i hparent
      obtain rfl := Option.some.inj h
      rw [hparent]
      rfl
    · obtain rfl := Option.some.inj h
      exact String.toList_ofList

/-- An absolute path begins with a separator. -/
theorem exists_rest_of_isAbsolute (h : isAbsolute path) : ∃ rest, path.toList = '/' :: rest :=
  List.head?_eq_some_iff.mp (of_decide_eq_true h)

/-- An absolute path has the root as its first component, and its pieces that count after it. -/
theorem components_of_isAbsolute (h : isAbsolute path) :
    components path = .root :: (pieces path.toList).filterMap componentOf := by
  obtain ⟨rest, hpath⟩ := exists_rest_of_isAbsolute h
  have hpieces : pieces path.toList = [] :: pieces rest := by
    rw [hpath, pieces, if_pos rfl]
  have hempty : componentOf [] = none := rfl
  rw [components, hpieces, List.filterMap_cons_none hempty]
  simp only [h, if_true]
  rfl

/-- What stands behind the first component can stand behind others. -/
theorem follows_of_mem_tail (h : part ∈ (components path).tail) : part.Follows := by
  obtain ⟨first, rest, hpieces⟩ := List.exists_cons_of_ne_nil (pieces_ne_nil path.toList)
  have hmem : part ∈ rest.filterMap componentOf := by
    rw [components, hpieces] at h
    dsimp only at h
    split at h
    · exact h
    · split at h
      · exact h
      · cases hfirst : componentOf first with
        | none =>
          rw [hfirst] at h
          exact List.mem_of_mem_tail h
        | some start =>
          rw [hfirst] at h
          exact h
  obtain ⟨piece, hpiece, hpart⟩ := List.mem_filterMap.mp hmem
  have htext := toList_text_of_componentOf hpart
  have hpiece : piece ∈ pieces path.toList := hpieces ▸ List.mem_cons_of_mem first hpiece
  exact ⟨htext ▸ not_mem_of_mem_pieces hpiece, htext ▸ hpart⟩

/-- A component that can stand behind others has a text. -/
theorem Component.Follows.ne_nil (h : part.Follows) : part.text.toList ≠ [] := by
  intro hempty
  obtain ⟨-, hpart⟩ := h
  rw [hempty] at hpart
  cases hpart

/-- A text without separators is not absolute. -/
theorem not_isAbsolute_of_not_mem {text : String} (h : '/' ∉ text.toList) : ¬isAbsolute text := by
  intro habsolute
  exact h (List.mem_of_head? (of_decide_eq_true habsolute))

/-- The last component is joined to the path of those before it. -/
theorem ofComponents_concat (parts : List Component) (part : Component) :
    ofComponents (parts ++ [part]) = join (ofComponents parts) part.text :=
  List.foldl_append

/-- Components that can stand behind others spell out their texts with separators between them. -/
theorem toList_ofComponents (hparts : ∀ part ∈ parts, part.Follows) :
    (ofComponents parts).toList = joinPieces (parts.map fun part => part.text.toList) := by
  induction parts using List.reverseRecOn with
  | nil => rfl
  | append_singleton parts part ih =>
    obtain ⟨hparts, hpart⟩ := List.forall_mem_append.mp hparts
    have hpart : part.Follows := hpart part (List.mem_singleton.mpr rfl)
    specialize ih hparts
    rw [ofComponents_concat, join, List.map_append]
    by_cases hnone : parts = []
    · subst hnone
      have hbase : isAbsolute part.text || (ofComponents []).isEmpty := by simp [ofComponents]
      rw [if_pos hbase]
      rfl
    · have htexts : (parts.map fun part => part.text.toList) ≠ [] := by simpa using hnone
      have hlast : (ofComponents parts).toList.getLast? ≠ some '/' := by
        rw [ih]
        refine getLast?_joinPieces_ne fun piece hpiece => ?_
        obtain ⟨other, hother, rfl⟩ := List.mem_map.mp hpiece
        exact ⟨(hparts other hother).ne_nil, (hparts other hother).1⟩
      have hbase : ¬(ofComponents parts).isEmpty := by
        obtain ⟨first, rest, rfl⟩ := List.exists_cons_of_ne_nil hnone
        obtain ⟨c, hc⟩ := List.exists_mem_of_ne_nil _ (hparts first List.mem_cons_self).ne_nil
        rw [String.isEmpty_iff, ← String.toList_eq_nil_iff, ih]
        exact List.ne_nil_of_mem (mem_joinPieces List.mem_cons_self hc)
      have hjoin : ¬(isAbsolute part.text || (ofComponents parts).isEmpty) := by
        simp [not_isAbsolute_of_not_mem hpart.1, hbase]
      rw [if_neg hjoin, if_neg hlast, joinPieces_append htexts (by simp), String.toList_append,
        String.toList_append, ih, List.append_assoc]
      rfl

/-- A path that goes on behind an absolute one stands behind a separator, which is added unless it
is there. -/
theorem join_cases (hbase : isAbsolute base) (hpath : ¬isAbsolute path) :
    ∃ front, join base path = front ++ "/" ++ path ∧ (base = front ∨ base = front ++ "/") := by
  have hempty : ¬base.isEmpty := by
    intro hempty
    rw [String.isEmpty_iff.mp hempty] at hbase
    cases hbase
  have hjoin : ¬(isAbsolute path || base.isEmpty) := by simp [hpath, hempty]
  rw [join, if_neg hjoin]
  split
  · rename_i hlast
    obtain ⟨before, hbefore⟩ := List.getLast?_eq_some_iff.mp hlast
    have hbase : base = String.ofList before ++ "/" := String.toList_injective (by simp [hbefore])
    exact ⟨String.ofList before, by rw [← hbase], .inr hbase⟩
  · exact ⟨base, rfl, .inl rfl⟩

/-- What stands before the separator has the pieces that count of the absolute path. -/
theorem exists_front_of_join (hbase : isAbsolute base) (hpath : ¬isAbsolute path) :
    ∃ front, join base path = front ++ "/" ++ path ∧
      (pieces front.toList).filterMap componentOf = (pieces base.toList).filterMap componentOf := by
  obtain ⟨front, hjoin, rfl | rfl⟩ := join_cases hbase hpath
  · exact ⟨base, hjoin, rfl⟩
  · refine ⟨front, hjoin, ?_⟩
    -- The separator at the end of the base makes a last piece that does not count.
    rw [String.toList_append, show "/".toList = ['/'] from rfl, pieces_append, List.filterMap_append]
    simp [pieces, componentOf]

/-- A path that goes on behind an absolute one is absolute. -/
theorem isAbsolute_join (hbase : isAbsolute base) (path : String) : isAbsolute (join base path) := by
  obtain ⟨rest, hrest⟩ := exists_rest_of_isAbsolute hbase
  have happend (text : String) : isAbsolute (base ++ text) := by
    rw [isAbsolute, String.toList_append, hrest]
    rfl
  rw [join]
  split
  · rename_i hstands
    rcases Bool.or_eq_true_iff.mp hstands with habsolute | hempty
    · exact habsolute
    · rw [String.isEmpty_iff.mp hempty] at hrest
      cases hrest
  · split
    · exact happend path
    · rw [String.append_assoc]
      exact happend _

/-- A path that goes on behind an absolute one adds its pieces that count. -/
theorem components_join (hbase : isAbsolute base) (hpath : ¬isAbsolute path) :
    components (join base path) =
      components base ++ (pieces path.toList).filterMap componentOf := by
  obtain ⟨front, hjoin, hfront⟩ := exists_front_of_join hbase hpath
  have htoList : (join base path).toList = front.toList ++ '/' :: path.toList := by simp [hjoin]
  rw [components_of_isAbsolute (isAbsolute_join hbase path), components_of_isAbsolute hbase, htoList,
    pieces_append, List.filterMap_append, hfront, List.cons_append]

/-- An absolute path stands for itself wherever one is. -/
theorem join_of_isAbsolute (base : String) (h : isAbsolute path) : join base path = path := by
  rw [join, h]
  rfl

/-- Components that can stand behind others are added to those of an absolute path. -/
theorem components_join_ofComponents (hbase : isAbsolute base) (hne : parts ≠ [])
    (hparts : ∀ part ∈ parts, part.Follows) :
    components (join base (ofComponents parts)) = components base ++ parts := by
  have htexts : (parts.map fun part => part.text.toList) ≠ [] := by simpa using hne
  have hpieces : pieces (ofComponents parts).toList = parts.map fun part => part.text.toList := by
    rw [toList_ofComponents hparts]
    refine pieces_joinPieces htexts fun piece hpiece => ?_
    obtain ⟨part, hpart, rfl⟩ := List.mem_map.mp hpiece
    exact (hparts part hpart).1
  have hrelative : ¬isAbsolute (ofComponents parts) := by
    intro habsolute
    obtain ⟨rest, hrest⟩ := exists_rest_of_isAbsolute habsolute
    obtain ⟨first, more, rfl⟩ := List.exists_cons_of_ne_nil hne
    -- A separator at the beginning would make an empty first piece.
    rw [hrest, pieces, if_pos rfl, List.map_cons] at hpieces
    exact (hparts first List.mem_cons_self).ne_nil (List.cons.inj hpieces).1.symm
  rw [components_join hbase hrelative, hpieces, List.filterMap_map]
  congr 1
  conv_rhs => rw [← List.filterMap_some (l := parts)]
  exact List.filterMap_congr fun part hpart => (hparts part hpart).2

/-- What stands in a component of a path stands in the path. -/
theorem mem_of_mem_components {c : Char} (hpart : part ∈ components path)
    (hc : c ∈ part.text.toList) : c ∈ path.toList := by
  have hpiece {piece : List Char} (hpiece : piece ∈ pieces path.toList) (hc : c ∈ piece) :
      c ∈ path.toList := by
    rw [← joinPieces_pieces path.toList]
    exact mem_joinPieces hpiece hc
  have hcounts {piece : List Char} (hmem : piece ∈ pieces path.toList)
      (hcomponent : componentOf piece = some part) : c ∈ path.toList :=
    hpiece hmem (toList_text_of_componentOf hcomponent ▸ hc)
  obtain ⟨first, rest, hpieces⟩ := List.exists_cons_of_ne_nil (pieces_ne_nil path.toList)
  have hfirst : first ∈ pieces path.toList := hpieces ▸ List.mem_cons_self
  rw [components, hpieces] at hpart
  rcases List.mem_append.mp hpart with hstart | hrest
  · split at hstart
    · rename_i habsolute
      rw [List.mem_singleton.mp hstart] at hc
      rw [List.mem_singleton.mp hc]
      exact List.mem_of_head? (of_decide_eq_true habsolute)
    · split at hstart
      · rename_i hcurrent
        rw [List.mem_singleton.mp hstart] at hc
        exact hpiece hfirst (hcurrent ▸ hc)
      · exact hcounts hfirst (Option.mem_toList.mp hstart)
  · obtain ⟨piece, hmem, hcomponent⟩ := List.mem_filterMap.mp hrest
    exact hcounts (hpieces ▸ List.mem_cons_of_mem first hmem) hcomponent

/-- Only separators come to two paths that are joined. -/
theorem mem_toList_join {c : Char} (h : c ∈ (join base path).toList) :
    c ∈ base.toList ∨ c = '/' ∨ c ∈ path.toList := by
  rw [join] at h
  split at h
  · exact .inr (.inr h)
  · split at h
    · rw [String.toList_append, List.mem_append] at h
      exact h.imp_right .inr
    · rw [String.toList_append, String.toList_append, List.mem_append, List.mem_append] at h
      rcases h with (hbase | hslash) | hpath
      · exact .inl hbase
      · exact .inr (.inl (List.mem_singleton.mp hslash))
      · exact .inr (.inr hpath)

/-- Only separators come to components that are spelled out. -/
theorem mem_toList_ofComponents {c : Char} (h : c ∈ (ofComponents parts).toList) :
    c = '/' ∨ ∃ part ∈ parts, c ∈ part.text.toList := by
  induction parts using List.reverseRecOn with
  | nil => cases h
  | append_singleton parts part ih =>
    rw [ofComponents_concat] at h
    rcases mem_toList_join h with hbefore | hslash | hpart
    · refine (ih hbefore).imp_right ?_
      rintro ⟨other, hother, hc⟩
      exact ⟨other, List.mem_append_left _ hother, hc⟩
    · exact .inl hslash
    · exact .inr ⟨part, List.mem_append_right _ (List.mem_singleton.mpr rfl), hpart⟩

end Components

section Display

variable {base file other : String}

/-- What lies below a base comes after its components. -/
theorem append_of_below? {start all parts : List Component} (h : below? start all = some parts) :
    start ++ parts = all := by
  rw [below?, Option.ite_none_right_eq_some] at h
  obtain ⟨hbegins, hdrop⟩ := h
  obtain ⟨rest, rfl⟩ := List.isPrefixOf_iff_prefix.mp hbegins
  rw [List.drop_left] at hdrop
  rw [Option.some.inj hdrop]

/-- The base followed by what is shown of a file leads to the file. -/
theorem same_join_display (hbase : isAbsolute base) (hfile : isAbsolute file) :
    Same (join base (display (some base) file)) file := by
  have hitself : Same (join base file) file := by rw [join_of_isAbsolute base hfile, Same]
  have hboth : ¬(isAbsolute base != isAbsolute file) := by simp [hbase, hfile]
  rw [display, if_neg hboth]
  split
  · exact hitself
  · exact hitself
  · rename_i parts hparts hbelow
    have hrest := append_of_below? hbelow
    have hfollows : ∀ part ∈ parts, part.Follows := by
      intro part hpart
      have htail : part ∈ (components file).tail := by
        rw [← hrest, components_of_isAbsolute hbase]
        exact List.mem_append_right _ hpart
      exact follows_of_mem_tail htail
    rw [Same, components_join_ofComponents hbase hparts hfollows, hrest]

/-- Files that are shown alike have the same components. -/
theorem same_of_display_eq (hbase : isAbsolute base) (hfile : isAbsolute file)
    (hother : isAbsolute other) (h : display (some base) file = display (some base) other) :
    Same file other :=
  (same_join_display hbase hfile).symm.trans (h ▸ same_join_display hbase hother)

/-- What is shown of a file stands in the file, separators apart. -/
theorem mem_toList_display {base : Option String} {c : Char}
    (h : c ∈ (display base file).toList) : c = '/' ∨ c ∈ file.toList := by
  unfold display at h
  split at h
  · exact .inr h
  · split at h
    · exact .inr h
    · split at h
      · exact .inr h
      · exact .inr h
      · rename_i parts _ hbelow
        refine (mem_toList_ofComponents h).imp_right ?_
        rintro ⟨part, hpart, hc⟩
        have hmem : part ∈ components file :=
          append_of_below? hbelow ▸ List.mem_append_right _ hpart
        exact mem_of_mem_components hmem hc

end Display

end NotebookLint.Path
