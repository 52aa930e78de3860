import Mathlib.Data.List.Lex
import Mathlib.Data.List.Nodup
import Mathlib.Data.Prod.Lex
import Mathlib.Data.String.Basic
import NotebookLint.Path

/-!
# The order of paths

Paths are told apart and ordered by their components, however they are written. Each component has
a key in a linear order, so that the order of paths is the lexicographic order of their keys, and
what holds of linear orders holds of paths. A list of paths in strictly increasing order is
determined, up to the way its paths are written, by the paths that it lists.
-/

namespace NotebookLint.Path

/-- What places a component among components: its rank, and then its name if it has one. -/
def Component.key : Component → ℕ ×ₗ String
  | .normal name => toLex (3, name)
  | part => toLex (part.rank, "")

/-- The keys of the components of a path. -/
def keys (path : String) : List (ℕ ×ₗ String) :=
  (components path).map Component.key

/-- Whether two paths have the same components. -/
def Same (path other : String) : Prop :=
  components path = components other

instance (path other : String) : Decidable (Same path other) :=
  inferInstanceAs (Decidable (components path = components other))

/-- Whether a path is among others, however it is written there. -/
def Lists (paths : List String) (path : String) : Prop :=
  ∃ other ∈ paths, Same other path

/-- Whether paths stand in strictly increasing order. -/
def Ordered (paths : List String) : Prop :=
  paths.Pairwise fun path other => ltComponents (components path) (components other)

/-- Components are told apart by their keys. -/
theorem Component.key_injective : Function.Injective Component.key := by
  intro part other h
  cases part <;> cases other <;> simp_all [Component.key, Component.rank]

/-- Components are ordered by their keys. -/
theorem Component.lt_iff (part other : Component) : part.lt other ↔ part.key < other.key := by
  cases part <;> cases other <;>
    simp [Component.lt, Component.key, Component.rank, Prod.Lex.toLex_lt_toLex]

/-- Lists of components are ordered by their keys. -/
theorem ltComponents_iff (parts others : List Component) :
    ltComponents parts others ↔ parts.map Component.key < others.map Component.key := by
  induction parts generalizing others with
  | nil => cases others <;> simp [ltComponents]
  | cons part parts ih =>
    cases others with
    | nil => simp [ltComponents]
    | cons other others =>
      rw [List.map_cons, List.map_cons, List.cons_lt_cons_iff, ltComponents, Bool.or_eq_true,
        Bool.and_eq_true, beq_iff_eq, Component.lt_iff, ih, Component.key_injective.eq_iff]

/-- The order of paths is the order of their keys. -/
theorem ltComponents_components_iff (path other : String) :
    ltComponents (components path) (components other) ↔ keys path < keys other :=
  ltComponents_iff _ _

/-- Paths are the same if their keys are. -/
theorem same_iff_keys (path other : String) : Same path other ↔ keys path = keys other :=
  (List.map_injective_iff.mpr Component.key_injective).eq_iff.symm

/-- Paths in strictly increasing order have keys in strictly increasing order. -/
theorem ordered_iff (paths : List String) :
    Ordered paths ↔ (paths.map keys).Pairwise (· < ·) := by
  rw [Ordered, List.pairwise_map]
  simp only [ltComponents_components_iff]

/-- Only what is inserted comes to the paths. -/
theorem mem_of_mem_insertSorted {path other : String} {paths : List String}
    (h : other ∈ insertSorted path paths) : other = path ∨ other ∈ paths := by
  induction paths with
  | nil => exact .inl (List.mem_singleton.mp h)
  | cons first rest ih =>
    rw [insertSorted] at h
    split at h
    · exact .inr h
    · split at h
      · exact List.mem_cons.mp h
      · rcases List.mem_cons.mp h with rfl | h
        · exact .inr List.mem_cons_self
        · exact (ih h).imp_right (List.mem_cons_of_mem _)

/-- A path is among others if it is the first or among the rest. -/
theorem lists_cons (first path : String) (rest : List String) :
    Lists (first :: rest) path ↔ Same first path ∨ Lists rest path := by
  simp [Lists]

/-- Inserting a path lists it, and leaves what is listed. -/
theorem lists_insertSorted (inserted path : String) (paths : List String) :
    Lists (insertSorted inserted paths) path ↔ Same inserted path ∨ Lists paths path := by
  induction paths with
  | nil => simp [insertSorted, Lists]
  | cons first rest ih =>
    rw [insertSorted]
    split
    · rename_i hsame
      have hfirst : Same inserted path ↔ Same first path := by rw [Same, Same, hsame]
      rw [lists_cons, hfirst, ← or_assoc, or_self]
    · split
      · rw [lists_cons]
      · rw [lists_cons, lists_cons, ih]
        exact or_left_comm

/-- Inserting a path keeps the order. -/
theorem Ordered.insertSorted {paths : List String} (h : Ordered paths) (path : String) :
    Ordered (insertSorted path paths) := by
  induction paths with
  | nil => exact List.pairwise_singleton _ _
  | cons first rest ih =>
    obtain ⟨hfirst, hrest⟩ := List.pairwise_cons.mp h
    rw [Path.insertSorted]
    split
    · exact h
    · rename_i hother
      split
      · rename_i hlt
        refine List.pairwise_cons.mpr ⟨fun other hmem => ?_, h⟩
        rcases List.mem_cons.mp hmem with rfl | hmem
        · exact hlt
        · rw [ltComponents_components_iff] at hlt ⊢
          exact hlt.trans ((ltComponents_components_iff _ _).mp (hfirst other hmem))
      · rename_i hnot
        refine List.pairwise_cons.mpr ⟨fun other hmem => ?_, ih hrest⟩
        rcases mem_of_mem_insertSorted hmem with rfl | hmem
        · -- A path that is neither the same as the first nor before it comes after it.
          rw [ltComponents_components_iff] at hnot ⊢
          have hne : keys other ≠ keys first := fun hkeys => hother ((same_iff_keys _ _).mpr hkeys)
          exact lt_of_le_of_ne (not_lt.mp hnot) hne.symm
        · exact hfirst other hmem

section Fold

variable {given : List String}

/-- Only the given paths come to those into which they are inserted. -/
theorem mem_of_mem_foldl_insertSorted {path : String} {paths : List String}
    (h : path ∈ given.foldl (fun found path => insertSorted path found) paths) :
    path ∈ given ∨ path ∈ paths := by
  induction given generalizing paths with
  | nil => exact .inr h
  | cons first rest ih =>
    rcases ih h with hrest | hfirst
    · exact .inl (List.mem_cons_of_mem _ hrest)
    · refine (mem_of_mem_insertSorted hfirst).imp_left fun heq => ?_
      rw [heq]
      exact List.mem_cons_self

/-- Inserting paths one after another lists them all, and leaves what is listed. -/
theorem lists_foldl_insertSorted (path : String) (paths : List String) :
    Lists (given.foldl (fun found path => insertSorted path found) paths) path ↔
      Lists given path ∨ Lists paths path := by
  induction given generalizing paths with
  | nil => simp [Lists]
  | cons first rest ih =>
    rw [List.foldl_cons, ih, lists_insertSorted, lists_cons, ← or_assoc]
    exact or_congr_left or_comm

/-- Inserting paths one after another keeps the order. -/
theorem Ordered.foldl_insertSorted {paths : List String} (h : Ordered paths) :
    Ordered (given.foldl (fun found path => Path.insertSorted path found) paths) := by
  induction given generalizing paths with
  | nil => exact h
  | cons first rest ih => exact ih (h.insertSorted first)

end Fold

/-- An ordered list holds no keys twice. -/
theorem Ordered.nodup_keys {paths : List String} (h : Ordered paths) : (paths.map keys).Nodup :=
  ((ordered_iff paths).mp h).imp ne_of_lt

/-- An ordered list holds no path twice, however it is written. -/
theorem Ordered.eq_of_same {paths : List String} (h : Ordered paths) {path other : String}
    (hpath : path ∈ paths) (hother : other ∈ paths) (hsame : Same path other) : path = other := by
  rw [same_iff_keys] at hsame
  exact List.inj_on_of_nodup_map h.nodup_keys hpath hother hsame

/-- An ordered list holds no text twice. -/
theorem Ordered.nodup {paths : List String} (h : Ordered paths) : paths.Nodup :=
  h.nodup_keys.of_map keys

/-- Ordered lists that list the same paths have the same components in the same order. -/
theorem Ordered.map_components_eq {paths others : List String} (hpaths : Ordered paths)
    (hothers : Ordered others) (hsame : ∀ path, Lists paths path ↔ Lists others path) :
    paths.map components = others.map components := by
  have hmem (list : List String) (path : String) : keys path ∈ list.map keys ↔ Lists list path := by
    simp only [List.mem_map, Lists, same_iff_keys]
  have hperm : (paths.map keys).Perm (others.map keys) := by
    refine (List.perm_ext_iff_of_nodup hpaths.nodup_keys hothers.nodup_keys).mpr fun key => ?_
    constructor
    · intro hkey
      obtain ⟨path, -, rfl⟩ := List.mem_map.mp hkey
      exact (hmem others path).mpr ((hsame path).mp ((hmem paths path).mp hkey))
    · intro hkey
      obtain ⟨path, -, rfl⟩ := List.mem_map.mp hkey
      exact (hmem paths path).mpr ((hsame path).mpr ((hmem others path).mp hkey))
  have hkeys : paths.map keys = others.map keys :=
    hperm.eq_of_pairwise (fun _ _ _ _ hlt hgt => absurd hgt hlt.not_gt)
      ((ordered_iff _).mp hpaths) ((ordered_iff _).mp hothers)
  have hcomposed : keys = List.map Component.key ∘ components := rfl
  rw [hcomposed, ← List.map_map, ← List.map_map] at hkeys
  exact List.map_injective_iff.mpr (List.map_injective_iff.mpr Component.key_injective) hkeys

end NotebookLint.Path
