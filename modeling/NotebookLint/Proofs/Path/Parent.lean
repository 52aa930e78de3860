import Mathlib.Data.List.DropRight
import NotebookLint.Proofs.Path.Display

/-!
# The way up from a path

Taking the parent of an absolute path takes away its last component, however the path is written:
separators and pieces that do not count are dropped together with it. The root alone has no parent.
So the way from an absolute path up to the root has one path for each of its components.
-/

namespace NotebookLint.Path

/-- Whether paths are a path, its parent, the parent of that, and so on as long as there is one. -/
inductive WayUp : String → List String → Prop where
  /-- The way ends where there is no parent. -/
  | last {path : String} (h : parent? path = none) : WayUp path [path]
  /-- The way goes on with the parent. -/
  | step {path parent : String} {paths : List String} (h : parent? path = some parent)
      (above : WayUp parent paths) : WayUp path (path :: paths)

/-- Whether a piece stands for no component. -/
def isIdle (piece : List Char) : Bool := !(componentOf piece).isSome

/-- Pieces at the end that do not count make no difference to the components. -/
theorem filterMap_rdropWhile_isIdle (all : List (List Char)) :
    (all.rdropWhile isIdle).filterMap componentOf = all.filterMap componentOf := by
  induction all using List.reverseRecOn with
  | nil => rw [List.rdropWhile_nil]
  | append_singleton front piece ih =>
    rw [List.rdropWhile_concat]
    split
    · rename_i hidle
      have hnone : componentOf piece = none := by simpa [isIdle] using hidle
      rw [ih, List.filterMap_append, List.filterMap_cons_none hnone, List.filterMap_nil,
        List.append_nil]
    · rfl

/-- Marked pieces are dropped at the end exactly as the pieces are. -/
theorem dropWhile_marked (all : List (List Char)) :
    (all.map fun piece => (piece, (componentOf piece).isSome)).reverse.dropWhile (!·.2) =
      ((all.rdropWhile isIdle).map fun piece => (piece, (componentOf piece).isSome)).reverse := by
  rw [← List.map_reverse, List.dropWhile_map, List.rdropWhile, List.map_reverse,
    List.reverse_reverse]
  rfl

variable {path : String} {front : List (List Char)} {piece : List Char}

/-- An absolute path without pieces that count has no parent. -/
theorem parent?_of_idle (h : isAbsolute path)
    (hidle : (pieces path.toList).tail.rdropWhile isIdle = []) : parent? path = none := by
  have hmarked := dropWhile_marked (pieces path.toList).tail
  rw [hidle] at hmarked
  unfold parent? markedPieces
  simp only [h, if_true, hmarked]
  rfl

/-- The parent of an absolute path is written with what stands before its last piece that counts,
up to the last one there that does. -/
theorem parent?_of_concat (h : isAbsolute path)
    (hpieces : (pieces path.toList).tail.rdropWhile isIdle = front ++ [piece]) :
    parent? path = some (String.ofList ('/' :: joinPieces (front.rdropWhile isIdle))) := by
  have hmarked := dropWhile_marked (pieces path.toList).tail
  rw [hpieces, List.map_append, List.reverse_append] at hmarked
  unfold parent? markedPieces
  simp only [h, if_true, hmarked]
  have hfront := dropWhile_marked front
  simp [hfront, Function.comp_def]

/-- Pieces behind a separator are those of an absolute path with their components. -/
theorem components_joinPieces (hall : ∀ piece ∈ front, '/' ∉ piece) :
    components (String.ofList ('/' :: joinPieces front)) = .root :: front.filterMap componentOf := by
  have habsolute : isAbsolute (String.ofList ('/' :: joinPieces front)) := by
    rw [isAbsolute, String.toList_ofList]
    rfl
  have hidle : componentOf [] = none := rfl
  rw [components_of_isAbsolute habsolute, String.toList_ofList, pieces, if_pos rfl,
    List.filterMap_cons_none hidle]
  by_cases hne : front = []
  · rw [hne]
    rfl
  · rw [pieces_joinPieces hne hall]

/-- An absolute path is the root, or its parent is absolute and has its components without the last
one. -/
theorem parent?_cases (h : isAbsolute path) :
    parent? path = none ∧ components path = [.root] ∨
      ∃ parent part, parent? path = some parent ∧ isAbsolute parent ∧
        components path = components parent ++ [part] := by
  obtain ⟨rest, hrest⟩ := exists_rest_of_isAbsolute h
  have hidle : componentOf [] = none := rfl
  have htail : (pieces path.toList).tail = pieces rest := by
    rw [hrest, pieces, if_pos rfl, List.tail_cons]
  have hcomponents : components path =
      .root :: ((pieces rest).rdropWhile isIdle).filterMap componentOf := by
    rw [filterMap_rdropWhile_isIdle, components_of_isAbsolute h, hrest, pieces, if_pos rfl,
      List.filterMap_cons_none hidle]
  have hlast := List.rdropWhile_last_not isIdle (pieces rest)
  have hkept := List.rdropWhile_prefix isIdle (pieces rest)
  rcases List.eq_nil_or_concat ((pieces rest).rdropWhile isIdle) with
    hnil | ⟨front, piece, hconcat⟩
  · rw [hcomponents, hnil]
    exact .inl ⟨parent?_of_idle h (by rw [htail, hnil]), rfl⟩
  · rw [List.concat_eq_append] at hconcat
    have hcounts : (componentOf piece).isSome := by
      have hnot := hlast (by simp [hconcat])
      simp only [hconcat, List.getLast_concat] at hnot
      simpa [isIdle, Option.isSome_iff_ne_none] using hnot
    obtain ⟨part, hpart⟩ := Option.isSome_iff_exists.mp hcounts
    have hall : ∀ other ∈ front.rdropWhile isIdle, '/' ∉ other := by
      intro other hother
      have hfront : other ∈ front := (List.rdropWhile_prefix isIdle front).subset hother
      have hpiece : other ∈ pieces rest :=
        hkept.subset (hconcat ▸ List.mem_append_left _ hfront)
      exact not_mem_of_mem_pieces hpiece
    refine .inr ⟨_, part, parent?_of_concat h (by rw [htail, hconcat]), ?_, ?_⟩
    · rw [isAbsolute, String.toList_ofList]
      rfl
    · rw [components_joinPieces hall, hcomponents, hconcat, filterMap_rdropWhile_isIdle,
        List.filterMap_append, List.filterMap_cons_some hpart]
      rfl

/-- An absolute path has at most one component more than characters. -/
theorem length_components_le (h : isAbsolute path) :
    (components path).length ≤ path.length + 1 := by
  have hpieces (text : List Char) : (pieces text).length ≤ text.length + 1 := by
    induction text with
    | nil => exact le_rfl
    | cons c text ih =>
      rw [pieces, List.length_cons]
      split
      · rw [List.length_cons]
        omega
      · cases hrest : pieces text with
        | nil => exact absurd hrest (pieces_ne_nil text)
        | cons piece more =>
          rw [hrest] at ih
          exact ih.trans (Nat.le_succ _)
  obtain ⟨rest, hrest⟩ := exists_rest_of_isAbsolute h
  have hidle : componentOf [] = none := rfl
  have hlength : path.length = rest.length + 1 := by
    rw [← String.length_toList, hrest, List.length_cons]
  rw [components_of_isAbsolute h, hrest, pieces, if_pos rfl, List.filterMap_cons_none hidle,
    List.length_cons, hlength]
  have hfilter := (List.length_filterMap_le componentOf (pieces rest)).trans (hpieces rest)
  omega

/-- The way up from an absolute path is made of absolute paths, which have the components of the path
without the last one, without the last two, and so on down to the root. -/
theorem WayUp.map_components {paths : List String} (hway : WayUp path paths)
    (h : isAbsolute path) : (∀ other ∈ paths, isAbsolute other) ∧
      paths.map components = (components path).inits.tail.reverse := by
  induction hway with
  | last hnone =>
    rcases parent?_cases h with ⟨-, hroot⟩ | ⟨parent, part, hsome, -⟩
    · exact ⟨by simpa using h, by rw [List.map_singleton, hroot]; rfl⟩
    · rw [hnone] at hsome
      cases hsome
  | @step path parent paths hparent above ih =>
    rcases parent?_cases h with ⟨hnone, -⟩ | ⟨other, part, hsome, habsolute, hcomponents⟩
    · rw [hparent] at hnone
      cases hnone
    · obtain rfl : parent = other := Option.some.inj (hparent.symm.trans hsome)
      obtain ⟨hall, hmap⟩ := ih habsolute
      refine ⟨List.forall_mem_cons.mpr ⟨h, hall⟩, ?_⟩
      rw [List.map_cons, hmap, hcomponents]
      cases components parent with
      | nil => rfl
      | cons first rest => simp [List.inits_append]

end NotebookLint.Path
