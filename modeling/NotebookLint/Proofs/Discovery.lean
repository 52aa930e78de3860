import Mathlib.Data.List.TakeWhile
import NotebookLint.Discovery
import NotebookLint.Proofs.FileTree

/-!
# What is found below roots

Every root contributes paths of its own, and the result lists what some root contributes: each path
once, in path order, whatever the order of the roots and however often they are given. Paths are
compared by their components. Of two spellings of one path the first stays, which matters only for
a root that leads nowhere: `a.ipynb/` is the path `a.ipynb`, but does not lead to the file.

A tooling directory hides what lies below it if it lies below the root itself. The names are looked
for between separators, in the path below the root with its backslashes read as separators.
-/

namespace NotebookLint

open NotebookLint.Path NotebookLint.FileTree

/-- An extension stands behind the last point of a name. -/
theorem Path.exists_stem_of_extensionOf {name extension : String}
    (h : extensionOf name = some extension) :
    ∃ stem, name.toList = stem ++ '.' :: extension.toList := by
  rw [extensionOf] at h
  split at h
  · cases h
  · cases h
  · rename_i hnil _
    obtain ⟨point, before, hbefore⟩ := List.exists_cons_of_ne_nil hnil
    have hpoint : point = '.' := by
      have hhead := List.head_dropWhile_not (· != '.') (l := name.toList.reverse) (by simp [hbefore])
      simpa [hbefore] using hhead
    have hsplit : name.toList.reverse = name.toList.reverse.takeWhile (· != '.') ++ '.' :: before := by
      rw [hpoint] at hbefore
      rw [← hbefore, List.takeWhile_append_dropWhile]
    refine ⟨before.reverse, ?_⟩
    rw [← Option.some.inj h, String.toList_ofList]
    exact List.reverse_injective (by simpa using hsplit)

namespace Discovery

section Tooling

/-- The path of a place below a root, with its backslashes read as separators. -/
def slashed (below : List String) : List Char :=
  (pathOfPlace below).toList.map fun c => if c = '\\' then '/' else c

/-- The names of the directories on the way to a place below a root. A backslash in a name counts
as a separator, so that a name may stand for several. -/
def directoryNames (below : List String) : List String :=
  let parts (name : String) : List (List Char) :=
    pieces (name.toList.map fun c => if c = '\\' then '/' else c)
  (below.flatMap parts).dropLast.map String.ofList

/-- The path of a place below a root starts at a separator. -/
theorem exists_slashed_eq (below : List String) : ∃ rest, slashed below = '/' :: rest := by
  by_cases hbelow : below = []
  · exact ⟨[], by rw [hbelow]; rfl⟩
  · obtain ⟨name, names, rfl⟩ := List.exists_cons_of_ne_nil hbelow
    rw [slashed, toList_pathOfPlace hbelow, List.flatMap_cons, List.cons_append, List.map_cons]
    exact ⟨_, rfl⟩

/-- The names of tools hold no separator. -/
theorem not_mem_of_mem_toolingNames : ∀ name ∈ toolingNames, '/' ∉ name.toList := by
  decide

/-- A place lies in a tooling directory if the name of one stands between two separators. -/
theorem inToolingDirectory_iff_mem_pieces (below : List String) :
    inToolingDirectory below ↔
      ∃ name ∈ toolingNames, name.toList ∈ (pieces (slashed below)).tail.dropLast := by
  obtain ⟨rest, hrest⟩ := exists_slashed_eq below
  have hdirectory : inToolingDirectory below =
      (pieces (slashed below)).dropLast.any fun piece =>
        toolingNames.contains (String.ofList piece) := rfl
  -- The empty piece before the first separator is no name.
  have hpieces : pieces (slashed below) = [] :: pieces rest := by
    rw [hrest]
    rfl
  rw [hdirectory, hpieces, List.dropLast_cons_of_ne_nil (pieces_ne_nil rest), List.any_cons,
    List.tail_cons]
  simp only [Bool.or_eq_true, List.any_eq_true, List.contains_iff_mem]
  constructor
  · rintro (hempty | ⟨piece, hpiece, hname⟩)
    · exact absurd hempty (by decide)
    · refine ⟨String.ofList piece, hname, ?_⟩
      rw [String.toList_ofList]
      exact hpiece
  · rintro ⟨name, hname, hpiece⟩
    refine .inr ⟨name.toList, hpiece, ?_⟩
    rw [String.ofList_toList]
    exact hname

/-- Tooling directories are found by a search for their names between two separators. -/
theorem inToolingDirectory_iff_isInfix (below : List String) :
    inToolingDirectory below ↔
      ∃ name ∈ toolingNames, '/' :: name.toList ++ ['/'] <:+: slashed below := by
  rw [inToolingDirectory_iff_mem_pieces]
  refine exists_congr fun name => and_congr_right fun hname => ?_
  exact (isInfix_iff_mem_pieces (not_mem_of_mem_toolingNames name hname) _).symm

/-- A place lies in a tooling directory if a directory on the way has the name of one. -/
theorem inToolingDirectory_iff (below : List String) :
    inToolingDirectory below ↔ ∃ name ∈ directoryNames below, name ∈ toolingNames := by
  have hnames : (pieces (slashed below)).tail.dropLast.map String.ofList = directoryNames below := by
    by_cases hbelow : below = []
    · rw [hbelow]
      rfl
    · have hflat := pieces_flatMap
        (below.map fun name => name.toList.map fun c => if c = '\\' then '/' else c) []
      rw [List.flatMap_map, List.flatMap_map, List.nil_append] at hflat
      have hslashed : slashed below = below.flatMap fun name =>
          '/' :: name.toList.map fun c => if c = '\\' then '/' else c := by
        rw [slashed, toList_pathOfPlace hbelow, List.map_flatMap]
        rfl
      rw [hslashed, hflat]
      rfl
  rw [inToolingDirectory_iff_mem_pieces, ← hnames]
  constructor
  · rintro ⟨name, hname, hpiece⟩
    exact ⟨name, List.mem_map.mpr ⟨name.toList, hpiece, String.ofList_toList⟩, hname⟩
  · rintro ⟨name, hmem, hname⟩
    obtain ⟨piece, hpiece, rfl⟩ := List.mem_map.mp hmem
    refine ⟨String.ofList piece, hname, ?_⟩
    rw [String.toList_ofList]
    exact hpiece

end Tooling

section Root

variable {tree : FileTree} {cwd root path : String} {start below : List String}

/-- The path of a root from the working directory, as it is given. -/
def asGiven (cwd root : String) : String :=
  if isAbsolute root then root else join cwd root

/-- The places of notebooks below a directory are those of the entries with the name of a notebook
that no tooling directory hides. -/
theorem mem_notebookPlaces_iff {directory : FileTree} (h : directory.Proper)
    {place : List String} :
    place ∈ notebookPlaces directory ↔
      (directory.at? place).isSome ∧
        (∃ name, place.getLast? = some name ∧ notebookEnding.toList <:+ name.toList) ∧
        ∀ name ∈ directoryNames place, name ∉ toolingNames := by
  have htooling : inToolingDirectory place = false ↔
      ∀ name ∈ directoryNames place, name ∉ toolingNames := by
    rw [← Bool.not_eq_true, inToolingDirectory_iff]
    push Not
    rfl
  rw [notebookPlaces, List.mem_filter, mem_places_iff h, Bool.and_eq_true, Bool.not_eq_true',
    htooling, hasNotebookName, List.isSuffixOf_iff_suffix]
  by_cases hplace : place = []
  · subst hplace
    simp
  · rw [List.getLast?_eq_some_getLast hplace]
    simp [hplace]

/-- A directory contributes the notebooks below it. -/
theorem ofRoot_of_directory {entries : List (String × FileTree)}
    (hroot : tree.resolve cwd root = .ok start)
    (hstart : tree.at? start = some (.directory entries)) :
    ofRoot tree cwd root =
      (notebookPlaces (.directory entries)).map fun below => pathOfPlace (start ++ below) := by
  rw [ofRoot, hroot]
  dsimp only
  rw [hstart]

/-- Anything else contributes itself if it names a notebook. -/
theorem ofRoot_of_not_isDirectory (h : ¬tree.isDirectory cwd root) :
    ofRoot tree cwd root =
      if extension? root = some "ipynb" then [absolute tree cwd root] else [] := by
  have hnames : namesNotebook root ↔ extension? root = some "ipynb" := decide_eq_true_iff
  rw [isDirectory, find] at h
  rw [ofRoot]
  cases hroot : tree.resolve cwd root with
  | error fault => simp [hnames]
  | ok start =>
    rw [hroot] at h
    cases hstart : tree.at? start with
    | none => simp [hstart, hnames]
    | some entry =>
      cases entry with
      | directory entries => simp [hstart] at h
      | file bytes executable => simp [hstart, hnames]

/-- A root that leads to a file contributes the path of the file if that is a notebook. -/
theorem ofRoot_of_file {bytes : List UInt8} {executable : Bool}
    (hroot : tree.resolve cwd root = .ok start)
    (hstart : tree.at? start = some (.file bytes executable)) :
    ofRoot tree cwd root =
      if start.getLast?.bind extensionOf = some "ipynb" then [pathOfPlace start] else [] := by
  have hdirectory : ¬tree.isDirectory cwd root := by
    simp [isDirectory, find, hroot, hstart]
  have habsolute : absolute tree cwd root = pathOfPlace start := by
    rw [absolute, canonical?, hroot]
    rfl
  rw [ofRoot_of_not_isDirectory hdirectory, extension?, fileName?_of_resolve hroot hstart, habsolute]

/-- An entry below a directory is among what the directory contributes if it has the name of a
notebook and no tooling directory hides it. -/
theorem pathOfPlace_mem_ofRoot_iff {entries : List (String × FileTree)} (hproper : tree.Proper)
    (hroot : tree.resolve cwd root = .ok start)
    (hstart : tree.at? start = some (.directory entries))
    (hbelow : (tree.at? (start ++ below)).isSome) :
    pathOfPlace (start ++ below) ∈ ofRoot tree cwd root ↔
      (∃ name, below.getLast? = some name ∧ notebookEnding.toList <:+ name.toList) ∧
        ∀ name ∈ directoryNames below, name ∉ toolingNames := by
  have hdirectory := (hproper.of_at? hstart).1
  have hat (place : List String) :
      tree.at? (start ++ place) = (FileTree.directory entries).at? place := by
    rw [at?_append, hstart]
    rfl
  rw [ofRoot_of_directory hroot hstart, List.mem_map]
  constructor
  · rintro ⟨found, hfound, hpath⟩
    obtain ⟨hsome, hnotebook⟩ := (mem_notebookPlaces_iff hdirectory).mp hfound
    rw [← hat] at hsome
    obtain ⟨_, hentry⟩ := Option.isSome_iff_exists.mp hsome
    obtain ⟨_, hother⟩ := Option.isSome_iff_exists.mp hbelow
    have hplace : start ++ found = start ++ below :=
      eq_of_same_pathOfPlace (hproper.of_at? hentry).2 (hproper.of_at? hother).2
        (congrArg components hpath)
    rw [← List.append_cancel_left hplace]
    exact hnotebook
  · intro hnotebook
    rw [hat] at hbelow
    exact ⟨below, (mem_notebookPlaces_iff hdirectory).mpr ⟨hbelow, hnotebook⟩, rfl⟩

/-- What a root contributes is the absolute path of an entry, or its own path if it leads nowhere. -/
theorem cases_of_mem_ofRoot (hproper : tree.Proper) (h : path ∈ ofRoot tree cwd root) :
    (∃ place, (tree.at? place).isSome ∧ path = pathOfPlace place) ∨
      (∃ fault, tree.resolve cwd root = .error fault) ∧ extension? root = some "ipynb" ∧
        path = asGiven cwd root := by
  cases hroot : tree.resolve cwd root with
  | error fault =>
    have hdirectory : ¬tree.isDirectory cwd root := by simp [isDirectory, find, hroot]
    rw [ofRoot_of_not_isDirectory hdirectory] at h
    split at h
    · rename_i hextension
      refine .inr ⟨⟨fault, rfl⟩, hextension, ?_⟩
      rw [List.mem_singleton.mp h, absolute, canonical?, hroot]
      rfl
    · cases h
  | ok start =>
    refine .inl ?_
    obtain ⟨entry, hstart⟩ := Option.isSome_iff_exists.mp (at?_isSome_of_resolve hroot)
    cases entry with
    | directory entries =>
      rw [ofRoot_of_directory hroot hstart] at h
      obtain ⟨below, hbelow, rfl⟩ := List.mem_map.mp h
      refine ⟨start ++ below, ?_, rfl⟩
      rw [at?_append, hstart]
      exact ((mem_notebookPlaces_iff (hproper.of_at? hstart).1).mp hbelow).1
    | file bytes executable =>
      rw [ofRoot_of_file hroot hstart] at h
      split at h
      · exact ⟨start, by rw [hstart]; rfl, List.mem_singleton.mp h⟩
      · cases h

end Root

section Collect

variable (tree : FileTree) (cwd : String)

/-- The paths that are found are in path order. -/
theorem ordered_collect (roots : List String) : Ordered (collect tree cwd roots) :=
  Ordered.foldl_insertSorted List.Pairwise.nil

/-- What is found is what the roots contribute. -/
theorem lists_collect (roots : List String) (path : String) :
    Lists (collect tree cwd roots) path ↔ ∃ root ∈ roots, Lists (ofRoot tree cwd root) path := by
  rw [collect, lists_foldl_insertSorted]
  constructor
  · rintro (⟨other, hmem, hsame⟩ | ⟨other, hmem, -⟩)
    · obtain ⟨root, hroot, hother⟩ := List.mem_flatMap.mp hmem
      exact ⟨root, hroot, other, hother, hsame⟩
    · cases hmem
  · rintro ⟨root, hroot, other, hother, hsame⟩
    exact .inl ⟨other, List.mem_flatMap.mpr ⟨root, hroot, hother⟩, hsame⟩

/-- Each path that is found is one that a root contributes. -/
theorem exists_mem_ofRoot_of_mem_collect {roots : List String} {path : String}
    (h : path ∈ collect tree cwd roots) : ∃ root ∈ roots, path ∈ ofRoot tree cwd root := by
  rcases mem_of_mem_foldl_insertSorted h with hmem | hmem
  · exact List.mem_flatMap.mp hmem
  · cases hmem

/-- Whether a root leads to a place, or to a directory below which the place is not hidden. -/
def Reaches (root : String) (place : List String) : Prop :=
  ∃ start below, tree.resolve cwd root = .ok start ∧ place = start ++ below ∧
    ∀ name ∈ directoryNames below, name ∉ toolingNames

variable {tree cwd}

/-- A root contributes the notebooks that it reaches. -/
theorem pathOfPlace_mem_ofRoot {root : String} {place : List String} {bytes : List UInt8}
    {executable : Bool} (hproper : tree.Proper)
    (hfile : tree.at? place = some (.file bytes executable))
    (hextension : place.getLast?.bind extensionOf = some "ipynb")
    (hreaches : Reaches tree cwd root place) : pathOfPlace place ∈ ofRoot tree cwd root := by
  obtain ⟨start, below, hroot, rfl, htooling⟩ := hreaches
  by_cases hbelow : below = []
  · subst hbelow
    rw [List.append_nil] at hfile hextension ⊢
    rw [ofRoot_of_file hroot hfile, if_pos hextension]
    exact List.mem_singleton_self _
  · obtain ⟨entries, hstart⟩ := exists_directory_of_at?_append hbelow hfile
    obtain ⟨name, hname, hnameExtension⟩ := Option.bind_eq_some_iff.mp hextension
    obtain ⟨stem, hstem⟩ := exists_stem_of_extensionOf hnameExtension
    rw [List.getLast?_append_of_ne_nil _ hbelow] at hname
    apply (pathOfPlace_mem_ofRoot_iff hproper hroot hstart (by rw [hfile]; rfl)).mpr
    exact ⟨⟨name, hname, stem, hstem.symm⟩, htooling⟩

/-- A path that is found is the absolute path of an entry, or a root that leads nowhere as it is
given. -/
theorem cases_of_mem_collect (hproper : tree.Proper) {roots : List String} {path : String}
    (h : path ∈ collect tree cwd roots) :
    (∃ place, (tree.at? place).isSome ∧ path = pathOfPlace place) ∨
      ∃ root ∈ roots, (∃ fault, tree.resolve cwd root = .error fault) ∧
        extension? root = some "ipynb" ∧ path = asGiven cwd root := by
  obtain ⟨root, hroot, hmem⟩ := exists_mem_ofRoot_of_mem_collect tree cwd h
  exact (cases_of_mem_ofRoot hproper hmem).imp_right fun hleads => ⟨root, hroot, hleads⟩

/-- The path of an entry is found as its absolute path, unless a root spells it that does not lead
to it. -/
theorem pathOfPlace_mem_collect (hproper : tree.Proper) {roots : List String}
    {place : List String} (hplace : (tree.at? place).isSome)
    (hlists : Lists (collect tree cwd roots) (pathOfPlace place))
    (hroots : ∀ root ∈ roots, (∃ fault, tree.resolve cwd root = .error fault) →
      ¬Same (asGiven cwd root) (pathOfPlace place)) :
    pathOfPlace place ∈ collect tree cwd roots := by
  obtain ⟨path, hmem, hsame⟩ := hlists
  rcases cases_of_mem_collect hproper hmem with ⟨other, hother, rfl⟩ | ⟨root, hroot, hfault, -, rfl⟩
  · obtain ⟨_, hentry⟩ := Option.isSome_iff_exists.mp hplace
    obtain ⟨_, hotherEntry⟩ := Option.isSome_iff_exists.mp hother
    have hplaces : other = place :=
      eq_of_same_pathOfPlace (hproper.of_at? hotherEntry).2 (hproper.of_at? hentry).2 hsame
    rw [← hplaces]
    exact hmem
  · exact absurd hsame (hroots root hroot hfault)

variable (tree cwd)

/-- What finding notebooks in a file tree is to do, for every list of roots. -/
structure FindsOnce (find : List String → List String) : Prop where
  /-- The paths stand in strictly increasing order, so that none is there twice. -/
  ordered (roots : List String) : Ordered (find roots)
  /-- The roots of two lists lead to what the roots of either lead to. -/
  append (roots others : List String) (path : String) :
    Lists (find (roots ++ others)) path ↔ Lists (find roots) path ∨ Lists (find others) path
  /-- Neither the order of the roots nor their repetition matters. -/
  same_roots (roots others : List String) (h : ∀ root, root ∈ roots ↔ root ∈ others) :
    (find roots).map components = (find others).map components
  /-- A notebook that some roots reach, in whatever ways, is found once, under its absolute path. It
  is also written that way, unless a root spells the path and does not lead to the file. -/
  once (roots : List String) (place : List String) (bytes : List UInt8) (executable : Bool)
    (hfile : tree.at? place = some (.file bytes executable))
    (hextension : place.getLast?.bind extensionOf = some "ipynb")
    (hreaches : ∃ root ∈ roots, Reaches tree cwd root place) :
    (∃! path, path ∈ find roots ∧ Same path (pathOfPlace place)) ∧
      ((∀ root ∈ roots, (∃ fault, tree.resolve cwd root = .error fault) →
        ¬Same (asGiven cwd root) (pathOfPlace place)) → pathOfPlace place ∈ find roots)
  /-- Nothing else is found than entries by their absolute paths, and roots that lead nowhere as
  they are given. -/
  only (roots : List String) (path : String) (h : path ∈ find roots) :
    (∃ place, (tree.at? place).isSome ∧ path = pathOfPlace place) ∨
      ∃ root ∈ roots, (∃ fault, tree.resolve cwd root = .error fault) ∧
        extension? root = some "ipynb" ∧ path = asGiven cwd root
  /-- A file below a directory, with the ending of notebooks, is found if no directory on the way
  is a tooling directory. -/
  directory (root : String) (start below : List String) (entries : List (String × FileTree))
    (bytes : List UInt8) (executable : Bool) (name : String)
    (hroot : tree.resolve cwd root = .ok start)
    (hstart : tree.at? start = some (.directory entries))
    (hfile : tree.at? (start ++ below) = some (.file bytes executable))
    (hname : below.getLast? = some name) (hending : ".ipynb".toList <:+ name.toList) :
    pathOfPlace (start ++ below) ∈ find [root] ↔
      ∀ directory ∈ directoryNames below, directory ∉ toolingNames
  /-- Anything but a directory is found as it is given, wherever it lies and even if it leads
  nowhere, if its extension is that of notebooks. -/
  given (root : String) (h : ¬tree.isDirectory cwd root) :
    find [root] = if extension? root = some "ipynb" then [absolute tree cwd root] else []

/-- Every notebook below the roots is found once. -/
theorem collect_finds_once (hproper : tree.Proper) : FindsOnce tree cwd (collect tree cwd) where
  ordered := ordered_collect tree cwd
  append roots others path := by
    simp only [lists_collect, List.mem_append, or_and_right, exists_or]
  same_roots roots others h := by
    apply (ordered_collect tree cwd roots).map_components_eq (ordered_collect tree cwd others)
    intro path
    simp only [lists_collect, h]
  once roots place bytes executable hfile hextension hreaches := by
    obtain ⟨root, hroot, hreaches⟩ := hreaches
    have hlists : Lists (collect tree cwd roots) (pathOfPlace place) := by
      rw [lists_collect]
      exact ⟨root, hroot, _, pathOfPlace_mem_ofRoot hproper hfile hextension hreaches, rfl⟩
    refine ⟨?_, pathOfPlace_mem_collect hproper (by rw [hfile]; rfl) hlists⟩
    obtain ⟨path, hmem, hsame⟩ := hlists
    refine ⟨path, ⟨hmem, hsame⟩, ?_⟩
    rintro other ⟨hother, hotherSame⟩
    exact (ordered_collect tree cwd roots).eq_of_same hother hmem (hotherSame.trans hsame.symm)
  only roots path := cases_of_mem_collect hproper
  directory root start below entries bytes executable name hroot hstart hfile hname hending := by
    have hplace : (tree.at? (start ++ below)).isSome := by
      rw [hfile]
      rfl
    have hcontributes := pathOfPlace_mem_ofRoot_iff hproper hroot hstart hplace
    constructor
    · intro hmem
      obtain ⟨other, hother, hmem⟩ := exists_mem_ofRoot_of_mem_collect tree cwd hmem
      rw [List.mem_singleton.mp hother] at hmem
      exact (hcontributes.mp hmem).2
    · intro htooling
      have hmem := hcontributes.mpr ⟨⟨name, hname, hending⟩, htooling⟩
      apply pathOfPlace_mem_collect hproper hplace
      · rw [lists_collect]
        exact ⟨root, List.mem_singleton_self root, _, hmem, rfl⟩
      · -- The only root leads to the directory.
        rintro other hother ⟨fault, hfault⟩
        rw [List.mem_singleton.mp hother, hroot] at hfault
        cases hfault
  given root h := by
    have hroots : [root].flatMap (ofRoot tree cwd) = ofRoot tree cwd root := by simp
    rw [collect, hroots, ofRoot_of_not_isDirectory h]
    split <;> rfl

/-- A root below a tooling directory is searched, and what it reaches twice is found once. -/
theorem collect_finds_once_below_build :
    let tree : FileTree := .directory [("build", .directory [("a.ipynb", .file [] false),
      ("dist", .directory [("b.ipynb", .file [] false)])])]
    tree.Proper ∧ FindsOnce tree "/" (collect tree "/") ∧
      collect tree "/" ["build", "build/dist/..//a.ipynb"] = ["/build/a.ipynb"] := by
  intro tree
  have hproper : tree.Proper := by
    simp [tree, Proper, ProperIn, IsName]
  refine ⟨hproper, collect_finds_once tree "/" hproper, ?_⟩
  decide +kernel

end Collect

end Discovery

end NotebookLint
