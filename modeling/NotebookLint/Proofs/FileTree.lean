import NotebookLint.FileTree
import NotebookLint.Proofs.Path.Display
import NotebookLint.Proofs.Path.Order
import NotebookLint.Proofs.Path.Pieces

/-!
# Places in a file tree

A file tree is proper if the entries of every directory have names of their own, which can be
written in a path. Then every entry has one place, the places below an entry are exactly those that
lead to something, and the absolute path of a place has the names on the way as its components.

A path that resolves leads to an entry, and one that leads to a file ends in the name of the file.
Where a path leads depends on its components only, if it leads somewhere. A path that goes on with
a name behind a directory leads to what the directory holds under that name.
-/

namespace NotebookLint

open NotebookLint.Path

/-- Whether a text can be the name of an entry. -/
def IsName (name : String) : Prop :=
  name ≠ "" ∧ name ≠ "." ∧ name ≠ ".." ∧ '/' ∉ name.toList

instance (name : String) : Decidable (IsName name) :=
  inferInstanceAs (Decidable (name ≠ "" ∧ name ≠ "." ∧ name ≠ ".." ∧ '/' ∉ name.toList))

/-- A name counts as a piece, and leads down. -/
theorem IsName.counts {name : String} (h : IsName name) :
    ¬(name.toList = [] ∨ name.toList = ['.']) ∧ name.toList ≠ ['.', '.'] := by
  obtain ⟨hempty, hdot, hdots, -⟩ := h
  have htoList (text : String) (hne : name ≠ text) : name.toList ≠ text.toList :=
    fun heq => hne (String.toList_injective heq)
  exact ⟨not_or.mpr ⟨htoList "" hempty, htoList "." hdot⟩, htoList ".." hdots⟩

/-- A name is a component. -/
theorem IsName.componentOf {name : String} (h : IsName name) :
    componentOf name.toList = some (.normal name) := by
  obtain ⟨hskip, hparent⟩ := h.counts
  rw [Path.componentOf, if_neg hskip, if_neg hparent, String.ofList_toList]

namespace FileTree

mutual

/-- Whether the entries of every directory have names of their own. -/
def Proper : FileTree → Prop
  | .file _ _ => True
  | .directory entries => (entries.map Prod.fst).Nodup ∧ ProperIn entries

/-- Whether entries have names and are proper themselves. -/
def ProperIn : List (String × FileTree) → Prop
  | [] => True
  | (name, entry) :: rest => IsName name ∧ entry.Proper ∧ ProperIn rest

end

/-- Each of proper entries has a name and is proper. -/
theorem ProperIn.of_mem {entries : List (String × FileTree)} (h : ProperIn entries) {name : String}
    {entry : FileTree} (hmem : (name, entry) ∈ entries) : IsName name ∧ entry.Proper := by
  induction entries with
  | nil => cases hmem
  | cons first rest ih =>
    obtain ⟨hname, hentry, hrest⟩ := h
    rcases List.mem_cons.mp hmem with rfl | hmem
    · exact ⟨hname, hentry⟩
    · exact ih hrest hmem

/-- Looking up a name finds the entry of that name. -/
theorem lookup_eq_some_iff {entries : List (String × FileTree)}
    (hdistinct : (entries.map Prod.fst).Nodup) {name : String} {entry : FileTree} :
    lookup name entries = some entry ↔ (name, entry) ∈ entries := by
  induction entries with
  | nil => simp [lookup]
  | cons first rest ih =>
    obtain ⟨hfirst, hrest⟩ := List.nodup_cons.mp hdistinct
    obtain ⟨other, found⟩ := first
    rw [lookup, List.mem_cons, Prod.mk.injEq]
    split
    · rename_i hname
      have hnone : (name, entry) ∉ rest := by
        intro hmem
        apply hfirst
        rw [hname]
        exact List.mem_map.mpr ⟨(name, entry), hmem, rfl⟩
      simp [hname, hnone, eq_comm]
    · rename_i hname
      rw [ih hrest]
      simp [Ne.symm hname]

/-- A place is followed one part after the other. -/
theorem at?_append (tree : FileTree) (place below : List String) :
    tree.at? (place ++ below) = (tree.at? place).bind fun entry => entry.at? below := by
  induction place generalizing tree with
  | nil => cases tree <;> rfl
  | cons name place ih =>
    cases tree with
    | file bytes executable => rfl
    | directory entries =>
      rw [List.cons_append, at?, at?]
      cases lookup name entries with
      | none => rfl
      | some entry => exact ih entry

/-- What stands on the way to an entry is a directory. -/
theorem exists_directory_of_at?_append {tree : FileTree} {place below : List String}
    (hbelow : below ≠ []) {entry : FileTree} (h : tree.at? (place ++ below) = some entry) :
    ∃ entries, tree.at? place = some (.directory entries) := by
  rw [at?_append] at h
  obtain ⟨found, hplace, hentry⟩ := Option.bind_eq_some_iff.mp h
  cases found with
  | directory entries => exact ⟨entries, hplace⟩
  | file bytes executable =>
    cases below with
    | nil => exact absurd rfl hbelow
    | cons name below => cases hentry

/-- There is an entry on the way to an entry. -/
theorem at?_isSome_dropLast {tree : FileTree} {place : List String}
    (h : (tree.at? place).isSome) : (tree.at? place.dropLast).isSome := by
  by_cases hplace : place = []
  · rw [hplace] at h ⊢
    exact h
  · obtain ⟨entry, hentry⟩ := Option.isSome_iff_exists.mp h
    rw [← List.dropLast_append_getLast hplace] at hentry
    obtain ⟨entries, hentries⟩ :=
      exists_directory_of_at?_append (List.cons_ne_nil _ []) hentry
    rw [hentries]
    rfl

/-- The entries of a proper tree are proper, and the names on the way to them are names. -/
theorem Proper.of_at? {tree : FileTree} (h : tree.Proper) {place : List String} {entry : FileTree}
    (hat : tree.at? place = some entry) : entry.Proper ∧ ∀ name ∈ place, IsName name := by
  induction place generalizing tree with
  | nil =>
    have heq : tree = entry := by
      cases tree <;> exact Option.some.inj hat
    exact ⟨heq ▸ h, by simp⟩
  | cons name place ih =>
    cases tree with
    | file bytes executable => cases hat
    | directory entries =>
      rw [at?] at hat
      cases hlookup : lookup name entries with
      | none => simp [hlookup] at hat
      | some found =>
        rw [hlookup] at hat
        obtain ⟨hname, hfound⟩ := h.2.of_mem ((lookup_eq_some_iff h.1).mp hlookup)
        obtain ⟨hentry, hplace⟩ := ih hfound hat
        refine ⟨hentry, fun other hmem => ?_⟩
        rcases List.mem_cons.mp hmem with rfl | hmem
        · exact hname
        · exact hplace other hmem

/-- The places of entries and of what is below them. -/
theorem mem_placesIn {entries : List (String × FileTree)} {place : List String} :
    place ∈ placesIn entries ↔ ∃ name entry below, (name, entry) ∈ entries ∧
      place = name :: below ∧ (below = [] ∨ below ∈ entry.places) := by
  induction entries with
  | nil => simp [placesIn]
  | cons first rest ih =>
    obtain ⟨name, entry⟩ := first
    rw [placesIn, List.mem_append, ih, List.mem_cons, List.mem_map]
    constructor
    · rintro ((rfl | ⟨below, hbelow, rfl⟩) | ⟨other, found, below, hmem, hplace, hbelow⟩)
      · exact ⟨name, entry, [], List.mem_cons_self, rfl, .inl rfl⟩
      · exact ⟨name, entry, below, List.mem_cons_self, rfl, .inr hbelow⟩
      · exact ⟨other, found, below, List.mem_cons_of_mem _ hmem, hplace, hbelow⟩
    · rintro ⟨other, found, below, hmem, rfl, hbelow⟩
      rcases List.mem_cons.mp hmem with heq | hmem
      · obtain ⟨rfl, rfl⟩ := Prod.mk.inj heq
        rcases hbelow with rfl | hbelow
        · exact .inl (.inl rfl)
        · exact .inl (.inr ⟨below, hbelow, rfl⟩)
      · exact .inr ⟨other, found, below, hmem, rfl, hbelow⟩

/-- The places below an entry are those that lead further to something. -/
theorem mem_places_iff {tree : FileTree} (h : tree.Proper) {place : List String} :
    place ∈ tree.places ↔ place ≠ [] ∧ (tree.at? place).isSome := by
  induction place generalizing tree with
  | nil =>
    have hnil : [] ∉ tree.places := by
      cases tree with
      | file bytes executable => simp [places]
      | directory entries =>
        rw [places, mem_placesIn]
        rintro ⟨name, entry, below, -, heq, -⟩
        cases heq
    simp [hnil]
  | cons name below ih =>
    cases tree with
    | file bytes executable => simp [places, at?]
    | directory entries =>
      rw [places, mem_placesIn, at?]
      constructor
      · rintro ⟨other, entry, rest, hmem, heq, hbelow⟩
        obtain ⟨rfl, rfl⟩ := List.cons.inj heq
        refine ⟨List.cons_ne_nil _ _, ?_⟩
        rw [(lookup_eq_some_iff h.1).mpr hmem]
        rcases hbelow with rfl | hbelow
        · cases entry <;> rfl
        · exact ((ih (h.2.of_mem hmem).2).mp hbelow).2
      · rintro ⟨-, hat⟩
        cases hlookup : lookup name entries with
        | none => simp [hlookup] at hat
        | some entry =>
          rw [hlookup] at hat
          have hmem := (lookup_eq_some_iff h.1).mp hlookup
          refine ⟨name, entry, below, hmem, rfl, ?_⟩
          by_cases hbelow : below = []
          · exact .inl hbelow
          · exact .inr ((ih (h.2.of_mem hmem).2).mpr ⟨hbelow, hat⟩)

section PathOfPlace

variable {place : List String}

/-- The characters of the absolute path of a place that is not the root. -/
theorem toList_pathOfPlace (hplace : place ≠ []) :
    (pathOfPlace place).toList = place.flatMap fun name => '/' :: name.toList := by
  have hjoin (names : List String) : (String.join (names.map fun name => "/" ++ name)).toList =
      names.flatMap fun name => '/' :: name.toList := by
    induction names with
    | nil => rfl
    | cons name names ih =>
      rw [List.map_cons, String.join_cons, String.toList_append, ih, List.flatMap_cons]
      simp
  rw [pathOfPlace, if_neg (by simpa using hplace), hjoin]

/-- Texts with a separator before each of them have the pieces of the texts. -/
theorem pieces_flatMap (texts : List (List Char)) (first : List Char) :
    pieces (first ++ texts.flatMap fun text => '/' :: text) = pieces first ++ texts.flatMap pieces := by
  induction texts generalizing first with
  | nil => simp
  | cons text texts ih =>
    rw [List.flatMap_cons, List.cons_append, pieces_append, ih, List.flatMap_cons]

/-- The components of the absolute path of a place are the names on the way. -/
theorem components_pathOfPlace (hnames : ∀ name ∈ place, IsName name) :
    components (pathOfPlace place) = .root :: place.map .normal := by
  by_cases hplace : place = []
  · rw [hplace]
    rfl
  have htoList := toList_pathOfPlace hplace
  have hpieces : pieces (pathOfPlace place).toList = [] :: place.map String.toList := by
    have hflat := pieces_flatMap (place.map String.toList) []
    rw [List.flatMap_map, List.nil_append, ← htoList] at hflat
    rw [hflat, List.flatMap_map]
    change [] :: _ = [] :: _
    rw [List.map_eq_flatMap]
    congr 1
    refine List.flatMap_congr fun name hname => ?_
    rw [pieces_of_not_mem (hnames name hname).2.2.2]
  have habsolute : isAbsolute (pathOfPlace place) := by
    obtain ⟨name, names, rfl⟩ := List.exists_cons_of_ne_nil hplace
    rw [isAbsolute, htoList]
    rfl
  have hcomponents : (place.map String.toList).filterMap componentOf = place.map .normal := by
    rw [List.filterMap_map, ← List.filterMap_eq_map]
    refine List.filterMap_congr fun name hname => ?_
    exact (hnames name hname).componentOf
  rw [components, hpieces]
  simp only [habsolute, if_true, hcomponents]
  rfl

/-- Places with the same absolute path are the same. -/
theorem eq_of_same_pathOfPlace {other : List String} (hnames : ∀ name ∈ place, IsName name)
    (hother : ∀ name ∈ other, IsName name) (hsame : Same (pathOfPlace place) (pathOfPlace other)) :
    place = other := by
  rw [Same, components_pathOfPlace hnames, components_pathOfPlace hother] at hsame
  exact List.map_injective_iff.mpr (fun _ _ h => Component.normal.inj h) (List.cons.inj hsame).2

/-- Names lead to the place below. -/
theorem foldl_stepPlace_normal (start names : List String) :
    (names.map Component.normal).foldl stepPlace start = start ++ names := by
  induction names generalizing start with
  | nil => simp
  | cons name names ih =>
    rw [List.map_cons, List.foldl_cons, ih, stepPlace, List.append_assoc]
    rfl

/-- The absolute path of a place spells out the place. -/
theorem placeOf_pathOfPlace (hnames : ∀ name ∈ place, IsName name) :
    placeOf (pathOfPlace place) = place := by
  rw [placeOf, components_pathOfPlace hnames, List.foldl_cons, foldl_stepPlace_normal]
  rfl

/-- The absolute path of a place starts at the root. -/
theorem isAbsolute_pathOfPlace (place : List String) : isAbsolute (pathOfPlace place) := by
  by_cases hplace : place = []
  · rw [hplace]
    decide
  · obtain ⟨name, names, rfl⟩ := List.exists_cons_of_ne_nil hplace
    rw [isAbsolute, toList_pathOfPlace hplace]
    rfl

/-- The absolute path of a place ends in the last name. -/
theorem fileName?_pathOfPlace (hnames : ∀ name ∈ place, IsName name) :
    fileName? (pathOfPlace place) = place.getLast? := by
  rw [fileName?, components_pathOfPlace hnames, List.getLast?_cons, List.getLast?_map]
  cases place.getLast? <;> rfl

end PathOfPlace

section Walk

variable {tree : FileTree} {place found : List String} {pieces : List (List Char)}

/-- A piece is followed from a directory: to the same place, to the place around it, or to an entry
of that name. -/
theorem walk_cons {piece : List Char} (h : tree.walk place (piece :: pieces) = .ok found) :
    ∃ entries, tree.at? place = some (.directory entries) ∧
      ((componentOf piece = none ∧ tree.walk place pieces = .ok found) ∨
        (componentOf piece = some .parent ∧ tree.walk place.dropLast pieces = .ok found) ∨
        ∃ name, componentOf piece = some (.normal name) ∧ (lookup name entries).isSome ∧
          tree.walk (place ++ [name]) pieces = .ok found) := by
  rw [walk] at h
  split at h
  · cases h
  · cases h
  · rename_i entries hat
    refine ⟨entries, hat, ?_⟩
    unfold componentOf
    split at h
    · rename_i hskip
      exact .inl ⟨if_pos hskip, h⟩
    · rename_i hskip
      split at h
      · rename_i hparent
        refine .inr (.inl ⟨?_, h⟩)
        rw [if_neg hskip, if_pos hparent]
      · rename_i hparent
        dsimp only at h
        split at h
        · cases h
        · split at h
          · cases h
          · rename_i entry hentry
            refine .inr (.inr ⟨String.ofList piece, ?_, ?_, h⟩)
            · rw [if_neg hskip, if_neg hparent]
            · rw [hentry]
              rfl

/-- An entry of a directory is at the place below. -/
theorem at?_concat_isSome {entries : List (String × FileTree)} {name : String}
    (hat : tree.at? place = some (.directory entries)) (hname : (lookup name entries).isSome) :
    (tree.at? (place ++ [name])).isSome := by
  obtain ⟨entry, hentry⟩ := Option.isSome_iff_exists.mp hname
  rw [at?_append, hat, Option.bind_some, at?, hentry]
  cases entry <;> rfl

/-- Following pieces leads to an entry. -/
theorem at?_isSome_of_walk (h : tree.walk place pieces = .ok found)
    (hplace : pieces = [] → (tree.at? place).isSome) : (tree.at? found).isSome := by
  induction pieces generalizing place with
  | nil =>
    obtain rfl : place = found := Except.ok.inj h
    exact hplace rfl
  | cons piece pieces ih =>
    obtain ⟨entries, hat, ⟨-, hwalk⟩ | ⟨-, hwalk⟩ | ⟨name, -, hname, hwalk⟩⟩ := walk_cons h
    · exact ih hwalk fun _ => by rw [hat]; rfl
    · exact ih hwalk fun _ => at?_isSome_dropLast (by rw [hat]; rfl)
    · exact ih hwalk fun _ => at?_concat_isSome hat hname

/-- Pieces that lead to a file end in its name. -/
theorem getLast?_of_walk {bytes : List UInt8} {executable : Bool}
    (h : tree.walk place pieces = .ok found) (hfile : tree.at? found = some (.file bytes executable))
    (hpieces : pieces ≠ []) :
    ∃ last name, pieces.getLast? = some last ∧ componentOf last = some (.normal name) ∧
      found.getLast? = some name := by
  induction pieces generalizing place with
  | nil => exact absurd rfl hpieces
  | cons piece pieces ih =>
    obtain ⟨entries, hat, hcases⟩ := walk_cons h
    by_cases hrest : pieces = []
    · subst hrest
      rcases hcases with ⟨-, hwalk⟩ | ⟨-, hwalk⟩ | ⟨name, hname, -, hwalk⟩
      · -- The place itself is a directory, and not the file.
        obtain rfl : place = found := Except.ok.inj hwalk
        rw [hat] at hfile
        cases hfile
      · obtain rfl : place.dropLast = found := Except.ok.inj hwalk
        by_cases hplace : place = []
        · rw [hplace] at hat hfile
          rw [List.dropLast_nil, hat] at hfile
          cases hfile
        · -- What is around the place is a directory too.
          rw [← List.dropLast_append_getLast hplace] at hat
          obtain ⟨around, haround⟩ := exists_directory_of_at?_append (List.cons_ne_nil _ []) hat
          rw [haround] at hfile
          cases hfile
      · obtain rfl : place ++ [name] = found := Except.ok.inj hwalk
        exact ⟨piece, name, rfl, hname, List.getLast?_concat⟩
    · obtain ⟨next, hwalk⟩ : ∃ next, tree.walk next pieces = .ok found := by
        rcases hcases with ⟨-, hwalk⟩ | ⟨-, hwalk⟩ | ⟨_, -, -, hwalk⟩ <;> exact ⟨_, hwalk⟩
      obtain ⟨last, name, hlast, hname, hfound⟩ := ih hwalk hrest
      refine ⟨last, name, ?_, hname, hfound⟩
      rw [List.getLast?_cons, hlast]
      rfl

/-- Following pieces leads where the components that they stand for say. -/
theorem eq_foldl_of_walk (h : tree.walk place pieces = .ok found) :
    found = (pieces.filterMap componentOf).foldl stepPlace place := by
  induction pieces generalizing place with
  | nil => exact (Except.ok.inj h).symm
  | cons piece pieces ih =>
    obtain ⟨_, -, ⟨hnone, hwalk⟩ | ⟨hparent, hwalk⟩ | ⟨name, hname, -, hwalk⟩⟩ := walk_cons h
    · rw [List.filterMap_cons_none hnone]
      exact ih hwalk
    · rw [List.filterMap_cons_some hparent]
      exact ih hwalk
    · rw [List.filterMap_cons_some hname]
      exact ih hwalk

/-- Pieces are followed one after the other. -/
theorem walk_append (tree : FileTree) (place : List String) (pieces more : List (List Char)) :
    tree.walk place (pieces ++ more) =
      (tree.walk place pieces).bind fun between => tree.walk between more := by
  induction pieces generalizing place with
  | nil => rfl
  | cons piece pieces ih =>
    rw [List.cons_append, walk, walk]
    cases tree.at? place with
    | none => rfl
    | some entry =>
      cases entry with
      | file bytes executable => rfl
      | directory entries =>
        dsimp only
        split
        · exact ih place
        · split
          · exact ih place.dropLast
          · split
            · rfl
            · split
              · rfl
              · exact ih _

/-- An empty piece in front does not count. -/
theorem walk_nil_cons (tree : FileTree) (place : List String) (hpieces : pieces ≠ []) :
    tree.walk place ([] :: pieces) = tree.walk place pieces := by
  obtain ⟨piece, pieces, rfl⟩ := List.exists_cons_of_ne_nil hpieces
  cases hat : tree.at? place with
  | none => simp only [walk, hat]
  | some entry =>
    cases entry with
    | file bytes executable => simp only [walk, hat]
    | directory entries =>
      rw [walk, hat]
      dsimp only
      rw [if_pos (.inl rfl)]

end Walk

section Resolve

variable {tree : FileTree} {cwd path : String} {place : List String}

/-- Resolving a path is following its pieces, or those after the root. -/
theorem exists_walk_of_resolve (h : tree.resolve cwd path = .ok place) :
    ∃ start pieces, tree.walk start pieces = .ok place ∧ pieces ≠ [] ∧
      pieces = if isAbsolute path then (Path.pieces path.toList).tail else Path.pieces path.toList := by
  rw [resolve] at h
  split at h
  · cases h
  · split at h
    · cases h
    · split at h
      · cases h
      · split at h
        · rename_i habsolute
          refine ⟨[], _, h, ?_, (if_pos habsolute).symm⟩
          rw [isAbsolute, decide_eq_true_iff] at habsolute
          obtain ⟨rest, hrest⟩ := List.head?_eq_some_iff.mp habsolute
          rw [hrest]
          exact pieces_ne_nil rest
        · rename_i hrelative
          exact ⟨_, _, h, pieces_ne_nil _, (if_neg hrelative).symm⟩

/-- A path that resolves leads to an entry. -/
theorem at?_isSome_of_resolve (h : tree.resolve cwd path = .ok place) :
    (tree.at? place).isSome := by
  obtain ⟨start, pieces, hwalk, hpieces, -⟩ := exists_walk_of_resolve h
  exact at?_isSome_of_walk hwalk fun hnil => absurd hnil hpieces

/-- A path ends in the name that its last piece stands for. -/
theorem fileName?_of_getLast? {last : List Char} {name : String}
    (hlast : (if isAbsolute path then (Path.pieces path.toList).tail
      else Path.pieces path.toList).getLast? = some last)
    (hname : componentOf last = some (.normal name)) : fileName? path = some name := by
  have hcomponents : (components path).getLast? = some (.normal name) := by
    rw [components]
    obtain ⟨first, rest, hpieces⟩ := List.exists_cons_of_ne_nil (pieces_ne_nil path.toList)
    rw [hpieces] at hlast ⊢
    dsimp only
    by_cases hrest : rest = []
    · -- A single piece is the first one of a path that does not start at the root.
      subst hrest
      by_cases habsolute : isAbsolute path
      · simp [habsolute] at hlast
      · rw [if_neg habsolute, List.getLast?_singleton, Option.some.injEq] at hlast
        subst hlast
        have hdot : first ≠ ['.'] := by
          rintro rfl
          cases hname
        rw [if_neg habsolute, if_neg hdot, hname]
        rfl
    · have hlast' : rest.getLast? = some last := by
        split at hlast
        · exact hlast
        · rw [List.getLast?_cons_of_ne_nil hrest] at hlast
          exact hlast
      obtain ⟨front, rfl⟩ := List.getLast?_eq_some_iff.mp hlast'
      rw [List.filterMap_append, ← List.append_assoc, List.filterMap_cons, hname]
      exact List.getLast?_concat
  rw [fileName?, hcomponents]

/-- A path that leads to a file ends in the name of the file, however it is written. -/
theorem fileName?_of_resolve {bytes : List UInt8} {executable : Bool}
    (h : tree.resolve cwd path = .ok place)
    (hfile : tree.at? place = some (.file bytes executable)) : fileName? path = place.getLast? := by
  obtain ⟨start, pieces, hwalk, hpieces, heq⟩ := exists_walk_of_resolve h
  obtain ⟨last, name, hlast, hname, hplace⟩ := getLast?_of_walk hwalk hfile hpieces
  rw [hplace, fileName?_of_getLast? (heq ▸ hlast) hname]

/-- A path that can be written is followed from the root if it starts there, and otherwise from
the working directory. -/
theorem resolve_eq_ok_iff :
    tree.resolve cwd path = .ok place ↔ '\x00' ∉ path.toList ∧ path ≠ "" ∧
      path.utf8ByteSize ≤ maxPathBytes ∧
        tree.walk (if isAbsolute path then [] else placeOf cwd) (Path.pieces path.toList) =
          .ok place := by
  have hstart : (if isAbsolute path then tree.walk [] (Path.pieces path.toList).tail
      else tree.walk (placeOf cwd) (Path.pieces path.toList)) =
      tree.walk (if isAbsolute path then [] else placeOf cwd) (Path.pieces path.toList) := by
    split
    · rename_i habsolute
      obtain ⟨rest, hrest⟩ := exists_rest_of_isAbsolute habsolute
      rw [hrest, Path.pieces, if_pos rfl, walk_nil_cons _ _ (pieces_ne_nil rest), List.tail_cons]
    · rfl
  rw [resolve, hstart]
  simp only [List.contains_iff_mem, String.isEmpty_iff]
  constructor
  · intro h
    split at h
    · cases h
    · rename_i hnul
      split at h
      · cases h
      · rename_i hempty
        split at h
        · cases h
        · rename_i hlength
          exact ⟨hnul, hempty, Nat.not_lt.mp hlength, h⟩
  · rintro ⟨hnul, hempty, hlength, h⟩
    rw [if_neg hnul, if_neg hempty, if_neg (Nat.not_lt.mpr hlength), h]

/-- A path leads to what stands at the place that it resolves to. -/
theorem find_eq_ok_iff {entry : FileTree} :
    tree.find cwd path = .ok entry ↔
      ∃ place, tree.resolve cwd path = .ok place ∧ tree.at? place = some entry := by
  rw [find]
  cases tree.resolve cwd path with
  | error fault => simp
  | ok place =>
    cases hat : tree.at? place <;> simp [hat]

/-- A path from the root leads to the place that it spells out. -/
theorem eq_placeOf_of_resolve (habsolute : isAbsolute path)
    (h : tree.resolve cwd path = .ok place) : place = placeOf path := by
  obtain ⟨-, -, -, hwalk⟩ := resolve_eq_ok_iff.mp h
  rw [if_pos habsolute] at hwalk
  rw [eq_foldl_of_walk hwalk, placeOf, components_of_isAbsolute habsolute]
  rfl

/-- A path that leads somewhere when it is written behind the working directory leads there. -/
theorem resolve_of_resolve_join (hcwd : isAbsolute cwd) (hpath : ¬isAbsolute path)
    (hempty : path ≠ "") (h : tree.resolve cwd (join cwd path) = .ok place) :
    tree.resolve cwd path = .ok place := by
  obtain ⟨front, hjoin, hfront⟩ := exists_front_of_join hcwd hpath
  obtain ⟨hnul, -, hlength, hwalk⟩ := resolve_eq_ok_iff.mp h
  have hpieces : Path.pieces (join cwd path).toList =
      Path.pieces front.toList ++ Path.pieces path.toList := by
    rw [hjoin, String.toList_append, String.toList_append, List.append_assoc]
    exact pieces_append _ _
  rw [if_pos (isAbsolute_join hcwd path), hpieces, walk_append] at hwalk
  cases hbetween : tree.walk [] (Path.pieces front.toList) with
  | error fault =>
    rw [hbetween] at hwalk
    cases hwalk
  | ok between =>
    have hplace : between = placeOf cwd := by
      rw [eq_foldl_of_walk hbetween, hfront, placeOf, components_of_isAbsolute hcwd]
      rfl
    rw [hbetween, hplace] at hwalk
    refine resolve_eq_ok_iff.mpr ⟨?_, hempty, ?_, ?_⟩
    · intro hmem
      exact hnul (by rw [hjoin]; simp [hmem])
    · rw [hjoin, String.utf8ByteSize_append] at hlength
      exact (Nat.le_add_left _ _).trans hlength
    · rw [if_neg hpath]
      exact hwalk

end Resolve

section Holding

variable {tree : FileTree} {cwd directory name : String} {place found : List String}
  {pieces : List (List Char)} {entries : List (String × FileTree)} {entry : FileTree}

/-- Whether a text can be asked for as the name of an entry. -/
def IsShortName (name : String) : Prop :=
  IsName name ∧ '\x00' ∉ name.toList ∧ name.utf8ByteSize ≤ maxNameBytes

instance (name : String) : Decidable (IsShortName name) :=
  inferInstanceAs (Decidable (IsName name ∧ '\x00' ∉ name.toList ∧ _ ≤ _))

/-- Whether a directory holds an entry of a name. A path to the entry that is too long to be followed
leads nowhere, so that such an entry does not count as held. -/
def Holds (tree : FileTree) (directory name : String) (entry : FileTree) : Prop :=
  (join directory name).utf8ByteSize ≤ maxPathBytes ∧
    ∃ entries, tree.find "/" directory = .ok (.directory entries) ∧ lookup name entries = some entry

/-- An empty piece at the end leads to the same directory. -/
theorem walk_concat_nil :
    tree.walk place (pieces ++ [[]]) = .ok found ∧ tree.at? found = some (.directory entries) ↔
      tree.walk place pieces = .ok found ∧ tree.at? found = some (.directory entries) := by
  rw [walk_append]
  cases tree.walk place pieces with
  | error fault => simp [Except.bind]
  | ok between =>
    simp only [Except.bind, walk, Except.ok.injEq]
    cases hat : tree.at? between with
    | none =>
      simp only [reduceCtorEq, false_and, false_iff]
      rintro ⟨rfl, hfound⟩
      rw [hat] at hfound
      cases hfound
    | some held =>
      cases held with
      | directory others => simp
      | file bytes executable =>
        simp only [reduceCtorEq, false_and, false_iff]
        rintro ⟨rfl, hfound⟩
        rw [hat] at hfound
        cases hfound

/-- A name leads from a directory to the entry of that name. -/
theorem walk_name (hname : IsShortName name) (hat : tree.at? place = some (.directory entries)) :
    tree.walk place [name.toList] =
      if (lookup name entries).isSome then .ok (place ++ [name]) else .error .notFound := by
  obtain ⟨hname, -, hlength⟩ := hname
  obtain ⟨hskip, hparent⟩ := hname.counts
  simp only [walk, hat, if_neg hskip, if_neg hparent, String.ofList_toList,
    if_neg (Nat.not_lt.mpr hlength)]
  cases lookup name entries <;> rfl

/-- A name at the end leads from the directory before it to the entry of that name. -/
theorem walk_concat_name (hname : IsShortName name) :
    (∃ found, tree.walk place (pieces ++ [name.toList]) = .ok found ∧ tree.at? found = some entry) ↔
      ∃ between entries, tree.walk place pieces = .ok between ∧
        tree.at? between = some (.directory entries) ∧ lookup name entries = some entry := by
  rw [walk_append]
  cases tree.walk place pieces with
  | error fault => simp [Except.bind]
  | ok between =>
    have hbelow {entries : List (String × FileTree)} (hat : tree.at? between = some (.directory entries)) :
        tree.at? (between ++ [name]) = lookup name entries := by
      rw [at?_append, hat, Option.bind_some, at?]
      cases lookup name entries with
      | none => rfl
      | some held => cases held <;> rfl
    constructor
    · rintro ⟨found, hwalk, hfound⟩
      obtain ⟨entries, hat, -⟩ := walk_cons hwalk
      rw [Except.bind, walk_name hname hat] at hwalk
      split at hwalk
      · obtain rfl : between ++ [name] = found := Except.ok.inj hwalk
        exact ⟨between, entries, rfl, hat, hbelow hat ▸ hfound⟩
      · cases hwalk
    · rintro ⟨other, entries, hother, hat, hlookup⟩
      obtain rfl : between = other := Except.ok.inj hother
      refine ⟨between ++ [name], ?_, hbelow hat ▸ hlookup⟩
      rw [Except.bind, walk_name hname hat, hlookup]
      rfl

/-- A path leads to an entry of a directory exactly if the directory holds it. -/
theorem find_join_iff (habsolute : isAbsolute directory) (hname : IsShortName name) :
    tree.find cwd (join directory name) = .ok entry ↔ Holds tree directory name entry := by
  have hrelative : ¬isAbsolute name := not_isAbsolute_of_not_mem hname.1.2.2.2
  obtain ⟨front, hjoin, hfront⟩ := join_cases habsolute hrelative
  have hpieces : Path.pieces (join directory name).toList =
      Path.pieces front.toList ++ [name.toList] := by
    rw [hjoin, String.toList_append, String.toList_append, List.append_assoc,
      ← pieces_of_not_mem hname.1.2.2.2]
    exact pieces_append _ _
  -- A separator at the end of the directory makes one piece more, which leads nowhere else.
  have hwalk (place : List String) (entries : List (String × FileTree)) :
      tree.walk [] (Path.pieces directory.toList) = .ok place ∧
          tree.at? place = some (.directory entries) ↔
        tree.walk [] (Path.pieces front.toList) = .ok place ∧
          tree.at? place = some (.directory entries) := by
    rcases hfront with rfl | rfl
    · rfl
    · rw [String.toList_append, show "/".toList = ['/'] from rfl, pieces_append]
      exact walk_concat_nil
  have hlength : directory.utf8ByteSize ≤ (join directory name).utf8ByteSize := by
    rw [hjoin, String.utf8ByteSize_append, String.utf8ByteSize_append]
    rcases hfront with rfl | rfl
    · omega
    · rw [String.utf8ByteSize_append]
      omega
  have hnul : '\x00' ∈ (join directory name).toList ↔ '\x00' ∈ directory.toList := by
    rcases hfront with rfl | rfl <;> simp [hjoin, hname.2.1]
  have hnonempty {path : String} (h : isAbsolute path) : path ≠ "" := by
    rintro rfl
    cases h
  simp only [Holds, find_eq_ok_iff, resolve_eq_ok_iff, hpieces, if_pos habsolute,
    if_pos (isAbsolute_join habsolute name)]
  constructor
  · rintro ⟨found, ⟨hfree, -, hfits, hfound⟩, hentry⟩
    obtain ⟨place, entries, hplace, hat, hlookup⟩ :=
      (walk_concat_name hname).mp ⟨found, hfound, hentry⟩
    obtain ⟨hplace, hat⟩ := (hwalk place entries).mpr ⟨hplace, hat⟩
    exact ⟨hfits, entries, ⟨place, ⟨mt hnul.mpr hfree, hnonempty habsolute, hlength.trans hfits,
      hplace⟩, hat⟩, hlookup⟩
  · rintro ⟨hfits, entries, ⟨place, ⟨hfree, -, -, hplace⟩, hat⟩, hlookup⟩
    obtain ⟨hplace, hat⟩ := (hwalk place entries).mp ⟨hplace, hat⟩
    obtain ⟨found, hfound, hentry⟩ :=
      (walk_concat_name hname).mpr ⟨place, entries, hplace, hat, hlookup⟩
    exact ⟨found, ⟨mt hnul.mp hfree, hnonempty (isAbsolute_join habsolute name), hfits, hfound⟩,
      hentry⟩

end Holding

end FileTree

end NotebookLint
