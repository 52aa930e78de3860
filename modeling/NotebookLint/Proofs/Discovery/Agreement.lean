import NotebookLint.Proofs.Discovery

/-!
# Searched and named notebooks

A notebook can be found by searching a directory and by naming the file. A search looks at the names
of entries and takes every entry whose name has the ending of notebooks, while a path that is named
is looked at for being a directory and for its extension. The two agree on files that have more than
the ending for a name, unless a backslash in a name hides them from the search. They do not agree on
a directory with the ending of notebooks, which a search lists as if it were one, nor on a file that
has nothing but the ending for a name, which is no notebook if it is named.
-/

namespace NotebookLint

open NotebookLint.Path NotebookLint.FileTree

section Extension

variable {name extension : String}

/-- What stands behind a point is the extension, unless the point begins the name or is not the last. -/
theorem Path.extensionOf_of_stem {stem : List Char} (hstem : stem ≠ [])
    (hpoint : '.' ∉ extension.toList) (h : name.toList = stem ++ '.' :: extension.toList) :
    extensionOf name = some extension := by
  have hreversed : name.toList.reverse = extension.toList.reverse ++ '.' :: stem.reverse := by
    simp [h]
  have hbehind : ∀ c ∈ extension.toList.reverse, (c != '.') = true := by
    intro c hc
    rw [bne_iff_ne]
    rintro rfl
    exact hpoint (List.mem_reverse.mp hc)
  have hdrop : name.toList.reverse.dropWhile (· != '.') = '.' :: stem.reverse := by
    rw [hreversed, List.dropWhile_append_of_pos hbehind]
    rfl
  have htake : name.toList.reverse.takeWhile (· != '.') = extension.toList.reverse := by
    rw [hreversed, List.takeWhile_append_of_pos hbehind]
    simp
  obtain ⟨c, rest, hrest⟩ := List.exists_cons_of_ne_nil (List.reverse_ne_nil_iff.mpr hstem)
  rw [extensionOf, hdrop, hrest, htake, List.reverse_reverse, String.ofList_toList]

/-- A name has the extension of notebooks if it has their ending and something before it. -/
theorem Discovery.extensionOf_eq_ipynb_iff :
    extensionOf name = some "ipynb" ↔
      notebookEnding.toList <:+ name.toList ∧ name ≠ notebookEnding := by
  constructor
  · intro h
    obtain ⟨stem, hstem⟩ := exists_stem_of_extensionOf h
    refine ⟨⟨stem, hstem.symm⟩, ?_⟩
    rintro rfl
    exact absurd h (by decide)
  · rintro ⟨⟨stem, hstem⟩, hne⟩
    refine extensionOf_of_stem ?_ (by decide) hstem.symm
    rintro rfl
    exact hne (String.toList_injective hstem.symm)

end Extension

namespace Discovery

section Named

variable {tree : FileTree} {cwd path : String} {place : List String}

/-- The absolute path of a place is its own, whether or not it can be followed. -/
theorem absolute_pathOfPlace (hnames : ∀ name ∈ place, IsName name) :
    absolute tree cwd (pathOfPlace place) = pathOfPlace place := by
  rw [absolute, canonical?]
  cases hresolve : tree.resolve cwd (pathOfPlace place) with
  | error fault =>
    dsimp only
    rw [Option.getD_none, if_pos (isAbsolute_pathOfPlace place)]
  | ok found =>
    rw [eq_placeOf_of_resolve (isAbsolute_pathOfPlace place) hresolve, placeOf_pathOfPlace hnames]
    rfl

/-- What the absolute path of a place leads to stands at the place. -/
theorem at?_of_find_pathOfPlace (hnames : ∀ name ∈ place, IsName name) {entry : FileTree}
    (h : tree.find cwd (pathOfPlace place) = .ok entry) : tree.at? place = some entry := by
  obtain ⟨found, hresolve, hentry⟩ := find_eq_ok_iff.mp h
  rw [eq_placeOf_of_resolve (isAbsolute_pathOfPlace place) hresolve,
    placeOf_pathOfPlace hnames] at hentry
  exact hentry

/-- A root that leads somewhere as it is given leads there. -/
theorem resolve_of_resolve_asGiven {root : String} (hcwd : isAbsolute cwd) (hempty : root ≠ "")
    (h : tree.resolve cwd (asGiven cwd root) = .ok place) : tree.resolve cwd root = .ok place := by
  rw [asGiven] at h
  split at h
  · exact h
  · rename_i hrelative
    exact resolve_of_resolve_join hcwd hrelative hempty h

/-- A root that leads nowhere contributes nothing that leads somewhere. -/
theorem find_ne_ok_of_mem_ofRoot {root : String} {fault : FileFault} (hcwd : isAbsolute cwd)
    (hroot : tree.resolve cwd root = .error fault) (hpath : path ∈ ofRoot tree cwd root)
    (entry : FileTree) : tree.find cwd path ≠ .ok entry := by
  intro hfind
  obtain ⟨found, hresolve, -⟩ := find_eq_ok_iff.mp hfind
  have hdirectory : ¬tree.isDirectory cwd root := by simp [isDirectory, find, hroot]
  rw [ofRoot_of_not_isDirectory hdirectory] at hpath
  split at hpath
  · rename_i hextension
    have hempty : root ≠ "" := by
      rintro rfl
      exact absurd hextension (by decide)
    have hgiven : path = asGiven cwd root := by
      rw [List.mem_singleton.mp hpath, absolute, canonical?, hroot]
      rfl
    rw [hgiven] at hresolve
    rw [resolve_of_resolve_asGiven hcwd hempty hresolve] at hroot
    cases hroot
  · cases hpath

/-- A file contributes its absolute path when it is named by it, if its name has the extension of
notebooks. -/
theorem ofRoot_pathOfPlace {bytes : List UInt8} {executable : Bool} (hproper : tree.Proper)
    (hfile : tree.at? place = some (.file bytes executable)) :
    ofRoot tree cwd (pathOfPlace place) =
      if place.getLast?.bind extensionOf = some "ipynb" then [pathOfPlace place] else [] := by
  have hnames := (hproper.of_at? hfile).2
  have hdirectory : ¬tree.isDirectory cwd (pathOfPlace place) := by
    intro hdirectory
    rw [isDirectory] at hdirectory
    split at hdirectory
    · rename_i hfind
      rw [at?_of_find_pathOfPlace hnames hfind] at hfile
      cases hfile
    · cases hdirectory
  rw [ofRoot_of_not_isDirectory hdirectory, extension?, fileName?_pathOfPlace hnames,
    absolute_pathOfPlace hnames]

/-- What a single root contributes is found. -/
theorem collect_singleton (tree : FileTree) (cwd root : String) :
    collect tree cwd [root] =
      (ofRoot tree cwd root).foldl (fun found path => insertSorted path found) [] := by
  rw [collect, List.flatMap_cons, List.flatMap_nil, List.append_nil]

/-- A file is found by its absolute path if its name has the extension of notebooks. -/
theorem pathOfPlace_mem_collect_self_iff {bytes : List UInt8} {executable : Bool}
    (hproper : tree.Proper) (hfile : tree.at? place = some (.file bytes executable)) :
    pathOfPlace place ∈ collect tree cwd [pathOfPlace place] ↔
      place.getLast?.bind extensionOf = some "ipynb" := by
  rw [collect_singleton, ofRoot_pathOfPlace hproper hfile]
  split
  · rename_i hextension
    simp [hextension, insertSorted]
  · rename_i hextension
    simp [hextension]

end Named

section Searched

variable {tree : FileTree} {cwd root : String} {start below : List String}

/-- Any entry below a directory is found by a search if its name has the ending of notebooks and no
tooling directory hides it. -/
theorem pathOfPlace_mem_collect_iff {entries : List (String × FileTree)} (hproper : tree.Proper)
    (hroot : tree.resolve cwd root = .ok start)
    (hstart : tree.at? start = some (.directory entries))
    (hbelow : (tree.at? (start ++ below)).isSome) :
    pathOfPlace (start ++ below) ∈ collect tree cwd [root] ↔
      (∃ name, below.getLast? = some name ∧ notebookEnding.toList <:+ name.toList) ∧
        ∀ name ∈ directoryNames below, name ∉ toolingNames := by
  rw [← pathOfPlace_mem_ofRoot_iff hproper hroot hstart hbelow]
  constructor
  · intro hmem
    obtain ⟨other, hother, hmem⟩ := exists_mem_ofRoot_of_mem_collect tree cwd hmem
    rw [List.mem_singleton.mp hother] at hmem
    exact hmem
  · intro hmem
    apply pathOfPlace_mem_collect hproper hbelow
    · rw [lists_collect]
      exact ⟨root, List.mem_singleton_self root, _, hmem, rfl⟩
    · -- The only root leads to the directory.
      rintro other hother ⟨fault, hfault⟩
      rw [List.mem_singleton.mp hother, hroot] at hfault
      cases hfault

/-- The directories on the way have the names before the last, if there is no backslash in a name. -/
theorem directoryNames_of_not_mem (hnames : ∀ name ∈ below, IsName name)
    (hbackslash : ∀ name ∈ below, '\\' ∉ name.toList) : directoryNames below = below.dropLast := by
  have hparts : (below.flatMap fun name =>
      pieces (name.toList.map fun c => if c = '\\' then '/' else c)) = below.map String.toList := by
    rw [List.map_eq_flatMap]
    refine List.flatMap_congr fun name hname => ?_
    have hslashed : (name.toList.map fun c => if c = '\\' then '/' else c) = name.toList := by
      conv_rhs => rw [← List.map_id name.toList]
      refine List.map_congr_left fun c hc => if_neg ?_
      rintro rfl
      exact hbackslash name hname hc
    rw [hslashed, pieces_of_not_mem (hnames name hname).2.2.2]
  rw [directoryNames, hparts, ← List.map_dropLast, List.map_map]
  simp

end Searched

/-- How an entry below a directory can be found by a search and not be a notebook when it is named,
or the other way round. -/
inductive Disputed (below : List String) : FileTree → Prop where
  /-- A directory that is not hidden has the ending of notebooks. -/
  | directory {entries : List (String × FileTree)} {name : String}
      (hname : below.getLast? = some name) (hending : ".ipynb".toList <:+ name.toList)
      (hopen : ∀ directory ∈ directoryNames below, directory ∉ toolingNames) :
      Disputed below (.directory entries)
  /-- A file that is not hidden has nothing but the ending for a name. -/
  | bare {bytes : List UInt8} {executable : Bool} (hname : below.getLast? = some ".ipynb")
      (hopen : ∀ directory ∈ directoryNames below, directory ∉ toolingNames) :
      Disputed below (.file bytes executable)
  /-- A file with more than the ending for a name is hidden, since the path below the root has a
  backslash that is read as a separator. -/
  | hidden {bytes : List UInt8} {executable : Bool} {name directory : String}
      (hname : below.getLast? = some name) (hending : ".ipynb".toList <:+ name.toList)
      (hmore : name ≠ ".ipynb") (hdirectory : directory ∈ directoryNames below)
      (htooling : directory ∈ toolingNames) (hbackslash : ∃ name ∈ below, '\\' ∈ name.toList) :
      Disputed below (.file bytes executable)

section Disputed

variable {below : List String} {name : String}

/-- A directory is disputed if a search finds it. -/
theorem disputed_directory_iff {entries : List (String × FileTree)} :
    Disputed below (.directory entries) ↔
      (∃ name, below.getLast? = some name ∧ notebookEnding.toList <:+ name.toList) ∧
        ∀ directory ∈ directoryNames below, directory ∉ toolingNames := by
  constructor
  · rintro ⟨hname, hending, hopen⟩
    exact ⟨⟨_, hname, hending⟩, hopen⟩
  · rintro ⟨⟨name, hname, hending⟩, hopen⟩
    exact .directory hname hending hopen

/-- A file below no tooling directory is disputed if its name is the ending of notebooks, unless it
is hidden, and if its name has more than that, when it is. -/
theorem disputed_file_iff {bytes : List UInt8} {executable : Bool}
    (hnames : ∀ name ∈ below, IsName name) (hname : below.getLast? = some name)
    (htooling : ∀ directory ∈ below.dropLast, directory ∉ toolingNames) :
    Disputed below (.file bytes executable) ↔
      (name = notebookEnding ∧ ∀ directory ∈ directoryNames below, directory ∉ toolingNames) ∨
        (notebookEnding.toList <:+ name.toList ∧ name ≠ notebookEnding) ∧
          ¬∀ directory ∈ directoryNames below, directory ∉ toolingNames := by
  constructor
  · intro h
    cases h with
    | bare hbare hopen =>
      exact .inl ⟨Option.some.inj (hname.symm.trans hbare), hopen⟩
    | hidden hlast hending hmore hdirectory hhides _ =>
      obtain rfl := Option.some.inj (hname.symm.trans hlast)
      exact .inr ⟨⟨hending, hmore⟩, fun hopen => hopen _ hdirectory hhides⟩
  · rintro (⟨rfl, hopen⟩ | ⟨⟨hending, hmore⟩, hhidden⟩)
    · exact .bare hname hopen
    · push Not at hhidden
      obtain ⟨directory, hdirectory, hhides⟩ := hhidden
      refine .hidden hname hending hmore hdirectory hhides ?_
      -- Without a backslash the names on the way would be those of the directories themselves.
      by_contra hbackslash
      push Not at hbackslash
      rw [directoryNames_of_not_mem hnames hbackslash] at hdirectory
      exact htooling directory hdirectory hhides

/-- A directory that a root contributes is disputed. -/
theorem exists_disputed_of_mem_ofRoot {tree : FileTree} {cwd root path : String}
    {start : List String} {entries : List (String × FileTree)} (hproper : tree.Proper)
    (hroot : tree.resolve cwd root = .ok start) (hpath : path ∈ ofRoot tree cwd root)
    (hfind : tree.find cwd path = .ok (.directory entries)) :
    ∃ below, below ≠ [] ∧ path = pathOfPlace (start ++ below) ∧
      Disputed below (.directory entries) := by
  obtain ⟨found, hstart⟩ := Option.isSome_iff_exists.mp (at?_isSome_of_resolve hroot)
  cases found with
  | file bytes executable =>
    -- The root itself is the file, and what it contributes does not lead to a directory.
    rw [ofRoot_of_file hroot hstart] at hpath
    split at hpath
    · rw [List.mem_singleton.mp hpath] at hfind
      rw [at?_of_find_pathOfPlace (hproper.of_at? hstart).2 hfind] at hstart
      cases hstart
    · cases hpath
  | directory _ =>
    rw [ofRoot_of_directory hroot hstart] at hpath
    obtain ⟨below, hbelow, rfl⟩ := List.mem_map.mp hpath
    obtain ⟨-, ⟨name, hname, hending⟩, hopen⟩ :=
      (mem_notebookPlaces_iff (hproper.of_at? hstart).1).mp hbelow
    refine ⟨below, ?_, rfl, .directory hname hending hopen⟩
    rintro rfl
    cases hname

end Disputed

variable (tree : FileTree) (cwd : String)

/-- How far searching directories and naming files are to agree on what a notebook is. -/
structure Agrees (find : List String → List String) : Prop where
  /-- An entry below a directory, with no tooling directory between them, is found by a search exactly
  if it is a file that is found by its path, unless it is one of the disputed entries. -/
  agree_iff {root : String} {start below : List String} {entries : List (String × FileTree)}
    {entry : FileTree} (hroot : tree.resolve cwd root = .ok start)
    (hstart : tree.at? start = some (.directory entries)) (hbelow : below ≠ [])
    (hentry : tree.at? (start ++ below) = some entry)
    (htooling : ∀ directory ∈ below.dropLast, directory ∉ toolingNames) :
    (pathOfPlace (start ++ below) ∈ find [root] ↔
        (∃ bytes executable, entry = .file bytes executable) ∧
          pathOfPlace (start ++ below) ∈ find [pathOfPlace (start ++ below)]) ↔
      ¬Disputed below entry
  /-- However the path of a file is written, it finds what the absolute path finds. -/
  spelled {path : String} {place : List String} {bytes : List UInt8} {executable : Bool}
    (hpath : tree.resolve cwd path = .ok place)
    (hfile : tree.at? place = some (.file bytes executable)) :
    find [path] = find [pathOfPlace place]
  /-- What is found and leads somewhere is a file, or a directory with the ending of notebooks that a
  search found. -/
  leads {roots : List String} {path : String} {entry : FileTree} (hpath : path ∈ find roots)
    (hentry : tree.find cwd path = .ok entry) :
    (∃ bytes executable, entry = .file bytes executable) ∨
      ∃ root ∈ roots, ∃ start below, tree.resolve cwd root = .ok start ∧ below ≠ [] ∧
        path = pathOfPlace (start ++ below) ∧ (∃ entries, entry = .directory entries) ∧
          Disputed below entry

variable {tree cwd}

/-- Searching and naming agree on everything but the disputed entries. -/
theorem collect_agrees (hproper : tree.Proper) (hcwd : isAbsolute cwd) :
    Agrees tree cwd (collect tree cwd) where
  agree_iff {root start below entries entry} hroot hstart hbelow hentry htooling := by
    have hnames := List.forall_mem_append.mp (hproper.of_at? hentry).2
    have hsearched := pathOfPlace_mem_collect_iff hproper hroot hstart (by rw [hentry]; rfl)
    cases entry with
    | directory _ => simp [hsearched, disputed_directory_iff]
    | file bytes executable =>
      obtain ⟨name, hname⟩ : ∃ name, below.getLast? = some name :=
        ⟨_, List.getLast?_eq_some_getLast hbelow⟩
      have hnamed : pathOfPlace (start ++ below) ∈ collect tree cwd [pathOfPlace (start ++ below)] ↔
          _ := pathOfPlace_mem_collect_self_iff hproper hentry
      rw [List.getLast?_append_of_ne_nil _ hbelow, hname, Option.bind_some,
        extensionOf_eq_ipynb_iff] at hnamed
      have hlast : (∃ name, below.getLast? = some name ∧ notebookEnding.toList <:+ name.toList) ↔
          notebookEnding.toList <:+ name.toList := by simp [hname]
      have hfile : ∃ other runs, FileTree.file bytes executable = .file other runs :=
        ⟨bytes, executable, rfl⟩
      rw [hsearched, hnamed, hlast, disputed_file_iff hnames.2 hname htooling, and_iff_right hfile]
      -- A search asks for the ending and an open way, and naming for something before the ending.
      by_cases hbare : name = notebookEnding
      · simp [hbare]
      · simp [hbare]
  spelled hpath hfile := by
    rw [collect_singleton, collect_singleton, ofRoot_of_file hpath hfile,
      ofRoot_pathOfPlace hproper hfile]
  leads {roots path entry} hpath hentry := by
    obtain ⟨root, hmem, hpath⟩ := exists_mem_ofRoot_of_mem_collect tree cwd hpath
    cases hroot : tree.resolve cwd root with
    | error fault => exact absurd hentry (find_ne_ok_of_mem_ofRoot hcwd hroot hpath entry)
    | ok start =>
      cases entry with
      | file bytes executable => exact .inl ⟨bytes, executable, rfl⟩
      | directory entries =>
        obtain ⟨below, hbelow, hplace, hdisputed⟩ :=
          exists_disputed_of_mem_ofRoot hproper hroot hpath hentry
        exact .inr ⟨root, hmem, start, below, hroot, hbelow, hplace, ⟨entries, rfl⟩, hdisputed⟩

/-- Next to a notebook below two directories there are a directory with the ending of notebooks and a
file with a backslash in its name. -/
theorem collect_agrees_below :
    let notebook : FileTree := .file [] false
    let tree : FileTree := .directory [("work", .directory [("a", .directory [("b.ipynb", notebook)]),
      ("c.ipynb", .directory []), ("build\\d.ipynb", notebook)])]
    tree.Proper ∧ isAbsolute "/work/a" ∧
      ("/work/a/b.ipynb" ∈ collect tree "/work/a" [".."] ↔
        (∃ bytes executable, notebook = .file bytes executable) ∧
          "/work/a/b.ipynb" ∈ collect tree "/work/a" ["/work/a/b.ipynb"]) ∧
      collect tree "/work/a" ["..", "b.ipynb"] = ["/work/a/b.ipynb", "/work/c.ipynb"] := by
  intro notebook tree
  have hproper : tree.Proper := by
    simp [tree, notebook, Proper, ProperIn, IsName]
  refine ⟨hproper, by decide, ?_, by decide +kernel⟩
  have hdisputed : ¬Disputed ["a", "b.ipynb"] notebook := by
    rw [disputed_file_iff (by decide) rfl (by decide)]
    decide
  have hagrees : Agrees tree "/work/a" (collect tree "/work/a") :=
    collect_agrees hproper (by decide)
  have hroot : tree.resolve "/work/a" ".." = .ok ["work"] := rfl
  have hstart : tree.at? ["work"] = some (.directory [("a", .directory [("b.ipynb", notebook)]),
      ("c.ipynb", .directory []), ("build\\d.ipynb", notebook)]) := rfl
  have hentry : tree.at? (["work"] ++ ["a", "b.ipynb"]) = some notebook := rfl
  exact (hagrees.agree_iff hroot hstart (by simp) hentry (by decide)).mpr hdisputed

/-- A search finds a directory with the ending of notebooks, and a file with that ending for a name,
which is not found by its path. -/
theorem collect_disagrees :
    let tree : FileTree := .directory [(".ipynb", .file [] false), ("x.ipynb", .directory [])]
    tree.Proper ∧
      ¬("/x.ipynb" ∈ collect tree "/" ["."] ↔
        tree.isFile "/" "/x.ipynb" ∧ "/x.ipynb" ∈ collect tree "/" ["/x.ipynb"]) ∧
      ¬("/.ipynb" ∈ collect tree "/" ["."] ↔
        tree.isFile "/" "/.ipynb" ∧ "/.ipynb" ∈ collect tree "/" ["/.ipynb"]) := by
  intro tree
  have hproper : tree.Proper := by
    simp [tree, Proper, ProperIn, IsName]
  exact ⟨hproper, by decide +kernel⟩

end Discovery

end NotebookLint
