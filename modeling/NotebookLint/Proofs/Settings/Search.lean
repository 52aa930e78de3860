import Mathlib.Data.List.Find
import NotebookLint.Proofs.FileTree
import NotebookLint.Proofs.Path.Parent
import NotebookLint.Settings.Config

/-!
# Which configuration file is found

The search for a configuration file goes up from a directory to the root, and ends early at a
directory that holds a repository, which is searched before. The file that it finds stands in the
nearest directory that holds a file with one of the names, under the first of the names there. An
entry with such a name that is a directory is passed over.

What is not on the way up, and what is above the first repository, has no influence.
-/

namespace NotebookLint.Settings

open NotebookLint.Path NotebookLint.FileTree

/-- Whether a directory holds a file of a name. -/
def HoldsFile (tree : FileTree) (directory name : String) : Prop :=
  ∃ bytes executable, Holds tree directory name (.file bytes executable)

/-- Whether a directory holds a repository: an entry of any kind that marks its root. -/
def HoldsRepository (tree : FileTree) (directory : String) : Prop :=
  ∃ entry, Holds tree directory repositoryMark entry

/-- Whether a path is the one of the configuration file in a directory, which has the first of the
names that files in the directory have. -/
def Offers (tree : FileTree) (directory path : String) : Prop :=
  ∃ earlier name later, configNames = earlier ++ name :: later ∧ path = join directory name ∧
    HoldsFile tree directory name ∧ ∀ other ∈ earlier, ¬HoldsFile tree directory other

/-- Whether the search goes on above a directory. -/
def Passes (tree : FileTree) (directory : String) : Prop :=
  (∀ name ∈ configNames, ¬HoldsFile tree directory name) ∧ ¬HoldsRepository tree directory

/-- Whether a path is the one of the configuration file in the nearest of some directories that
holds one, with no repository in a nearer one. -/
def Governs (tree : FileTree) (directories : List String) (path : String) : Prop :=
  ∃ nearer directory above, directories = nearer ++ directory :: above ∧
    Offers tree directory path ∧ ∀ other ∈ nearer, Passes tree other

/-- Whether two trees have the same in a directory, as far as a search can see. -/
def LookAlike (tree other : FileTree) (directory : String) : Prop :=
  (∀ name ∈ configNames, HoldsFile other directory name ↔ HoldsFile tree directory name) ∧
    (HoldsRepository other directory ↔ HoldsRepository tree directory)

section Directory

variable {tree : FileTree} {directory name path : String}

/-- The names that a search asks for can be asked for. -/
theorem isShortName_of_mem (h : name ∈ configNames) : IsShortName name := by
  have hall : ∀ name ∈ configNames, IsShortName name := by decide +kernel
  exact hall name h

/-- A path leads to a file with a name exactly if the directory holds it. -/
theorem isFile_join_iff (habsolute : isAbsolute directory) (hname : IsShortName name) :
    tree.isFile "/" (join directory name) ↔ HoldsFile tree directory name := by
  have hfind (entry : FileTree) :
      tree.find "/" (join directory name) = .ok entry ↔ Holds tree directory name entry :=
    find_join_iff habsolute hname
  rw [isFile, HoldsFile]
  simp only [← hfind]
  split
  · rename_i bytes executable hfile
    simp [hfile]
  · rename_i hnone
    simpa using hnone

/-- A path leads to the mark of a repository exactly if the directory holds one. -/
theorem pathExists_join_iff (habsolute : isAbsolute directory) :
    tree.pathExists "/" (join directory repositoryMark) ↔ HoldsRepository tree directory := by
  have hname : IsShortName repositoryMark := by decide +kernel
  have hfind (entry : FileTree) : tree.find "/" (join directory repositoryMark) = .ok entry ↔
      Holds tree directory repositoryMark entry :=
    find_join_iff habsolute hname
  rw [pathExists, HoldsRepository]
  simp only [← hfind]
  cases tree.find "/" (join directory repositoryMark) <;> simp

/-- The configuration file in a directory is the first one by its name. -/
theorem configIn_eq_some_iff (habsolute : isAbsolute directory) :
    configIn tree directory = some path ↔ Offers tree directory path := by
  have hfile {name : String} (hname : name ∈ configNames) :
      tree.isFile "/" (join directory name) ↔ HoldsFile tree directory name :=
    isFile_join_iff habsolute (isShortName_of_mem hname)
  rw [configIn, List.find?_map, Option.map_eq_some_iff]
  simp only [List.find?_eq_some_iff_append, Function.comp_apply, Bool.not_eq_true']
  constructor
  · rintro ⟨name, ⟨hheld, earlier, later, hnames, hearlier⟩, rfl⟩
    have hmem : name ∈ configNames := by simp [hnames]
    refine ⟨earlier, name, later, hnames, rfl, (hfile hmem).mp hheld, fun other hother => ?_⟩
    have hbefore : other ∈ configNames := by simp [hnames, hother]
    rw [← hfile hbefore, hearlier other hother]
    exact Bool.false_ne_true
  · rintro ⟨earlier, name, later, hnames, rfl, hheld, hearlier⟩
    have hmem : name ∈ configNames := by simp [hnames]
    refine ⟨name, ⟨(hfile hmem).mpr hheld, earlier, later, hnames, fun other hother => ?_⟩, rfl⟩
    have hbefore : other ∈ configNames := by simp [hnames, hother]
    exact Bool.eq_false_iff.mpr (mt (hfile hbefore).mp (hearlier other hother))

/-- There is no configuration file in a directory that holds no file with one of the names. -/
theorem configIn_eq_none_iff (habsolute : isAbsolute directory) :
    configIn tree directory = none ↔ ∀ name ∈ configNames, ¬HoldsFile tree directory name := by
  simp only [configIn, List.find?_map, Option.map_eq_none_iff, List.find?_eq_none,
    Function.comp_apply]
  exact forall₂_congr fun name hname => not_congr (isFile_join_iff habsolute (isShortName_of_mem hname))

end Directory

section Way

variable {tree other : FileTree} {start directory path : String} {directories above : List String}

/-- The file that governs is offered by the first directory, or the search goes on above it. -/
theorem governs_cons : Governs tree (directory :: above) path ↔
    Offers tree directory path ∨ Passes tree directory ∧ Governs tree above path := by
  constructor
  · rintro ⟨nearer, found, outer, hway, hoffers, hnearer⟩
    cases nearer with
    | nil =>
      obtain ⟨rfl, -⟩ := List.cons.inj hway
      exact .inl hoffers
    | cons first nearer =>
      obtain ⟨rfl, habove⟩ := List.cons.inj hway
      obtain ⟨hfirst, hnearer⟩ := List.forall_mem_cons.mp hnearer
      exact .inr ⟨hfirst, nearer, found, outer, habove, hoffers, hnearer⟩
  · rintro (hoffers | ⟨hpasses, nearer, found, outer, rfl, hoffers, hnearer⟩)
    · exact ⟨[], directory, above, rfl, hoffers, by simp⟩
    · exact ⟨directory :: nearer, found, outer, rfl, hoffers,
        List.forall_mem_cons.mpr ⟨hpasses, hnearer⟩⟩

/-- The search through directories finds the file that governs. -/
theorem firstConfig_eq_some_iff (habsolute : ∀ directory ∈ directories, isAbsolute directory) :
    firstConfig tree directories = some path ↔ Governs tree directories path := by
  induction directories with
  | nil =>
    simp [firstConfig, Governs]
  | cons directory above ih =>
    obtain ⟨hdirectory, habove⟩ := List.forall_mem_cons.mp habsolute
    rw [governs_cons, firstConfig, ← configIn_eq_some_iff hdirectory, Passes,
      ← configIn_eq_none_iff hdirectory, ← pathExists_join_iff hdirectory, ← ih habove]
    cases configIn tree directory with
    | some found => simp
    | none =>
      by_cases hmark : tree.pathExists "/" (join directory repositoryMark) <;> simp [hmark]

/-- The search in a directory does not tell trees apart that look alike there. -/
theorem configIn_congr (habsolute : isAbsolute directory) (h : LookAlike tree other directory) :
    configIn other directory = configIn tree directory := by
  rw [configIn, configIn, List.find?_map, List.find?_map]
  congr 1
  refine List.find?_congr fun name hname => ?_
  have hshort := isShortName_of_mem hname
  rw [Function.comp_apply, Function.comp_apply, Bool.eq_iff_iff, isFile_join_iff habsolute hshort,
    isFile_join_iff habsolute hshort, h.1 name hname]

/-- The search through directories does not tell trees apart that look alike up to the first
repository. -/
theorem firstConfig_congr (habsolute : ∀ directory ∈ directories, isAbsolute directory)
    (halike : ∀ nearer directory above, directories = nearer ++ directory :: above →
      (∀ inner ∈ nearer, ¬HoldsRepository tree inner) → LookAlike tree other directory) :
    firstConfig other directories = firstConfig tree directories := by
  induction directories with
  | nil => rfl
  | cons directory above ih =>
    obtain ⟨hdirectory, habove⟩ := List.forall_mem_cons.mp habsolute
    have hfirst : LookAlike tree other directory := halike [] directory above rfl (by simp)
    have hmark : tree.pathExists "/" (join directory repositoryMark) =
        other.pathExists "/" (join directory repositoryMark) := by
      rw [Bool.eq_iff_iff, pathExists_join_iff hdirectory, pathExists_join_iff hdirectory, hfirst.2]
    rw [firstConfig, firstConfig, configIn_congr hdirectory hfirst, ← hmark]
    cases configIn tree directory with
    | some found => rfl
    | none =>
      by_cases hholds : HoldsRepository tree directory
      · have hends := (pathExists_join_iff hdirectory).mpr hholds
        simp only [hends, if_true]
      · have hgoes : ¬tree.pathExists "/" (join directory repositoryMark) :=
          mt (pathExists_join_iff hdirectory).mp hholds
        rw [if_neg hgoes, if_neg hgoes]
        refine ih habove fun nearer inner outer hway hnearer => ?_
        exact halike (directory :: nearer) inner outer (by rw [hway]; rfl)
          (List.forall_mem_cons.mpr ⟨hholds, hnearer⟩)

/-- With fuel for all components the search goes up to the root. -/
theorem wayUp_ancestors {fuel : Nat} (habsolute : isAbsolute start)
    (hfuel : (components start).length ≤ fuel + 1) : WayUp start (ancestors fuel start) := by
  induction fuel generalizing start with
  | zero =>
    rcases parent?_cases habsolute with ⟨hnone, -⟩ | ⟨parent, part, -, hparent, hcomponents⟩
    · exact .last hnone
    · -- A path with a parent has two components at least.
      rw [hcomponents, List.length_append, List.length_singleton,
        components_of_isAbsolute hparent, List.length_cons] at hfuel
      omega
  | succ fuel ih =>
    rw [ancestors]
    rcases parent?_cases habsolute with ⟨hnone, -⟩ | ⟨parent, part, hsome, hparent, hcomponents⟩
    · rw [hnone]
      exact .last hnone
    · rw [hsome]
      refine .step hsome (ih hparent ?_)
      rw [hcomponents, List.length_append, List.length_singleton] at hfuel
      exact Nat.le_of_succ_le_succ hfuel

/-- The configuration file that is found for a directory is the one that governs on the way up from
it to the root, and none is found if none governs. Trees that look alike on the way up to the first
repository lead to the same. -/
theorem findConfig_nearest (tree : FileTree) {start : String} (habsolute : isAbsolute start) :
    ∃ directories, WayUp start directories ∧
      directories.map components = (components start).inits.tail.reverse ∧
      (∀ path, findConfig tree start = some path ↔ Governs tree directories path) ∧
      (findConfig tree start = none ↔ ∀ path, ¬Governs tree directories path) ∧
      ∀ other, (∀ nearer directory above, directories = nearer ++ directory :: above →
          (∀ inner ∈ nearer, ¬HoldsRepository tree inner) → LookAlike tree other directory) →
        findConfig other start = findConfig tree start := by
  have hway : WayUp start (ancestors start.length start) :=
    wayUp_ancestors habsolute (length_components_le habsolute)
  obtain ⟨hall, hcomponents⟩ := hway.map_components habsolute
  have hfound (path : String) :
      findConfig tree start = some path ↔ Governs tree (ancestors start.length start) path :=
    firstConfig_eq_some_iff hall
  refine ⟨_, hway, hcomponents, hfound, ?_, fun other => firstConfig_congr hall⟩
  simp only [← hfound, Option.eq_none_iff_forall_ne_some]

/-- In a repository below a directory with a configuration file of its own, its file in YAML governs
also where a directory has the name of the one in TOML, and nothing above the repository does. -/
theorem findConfig_nearest_repository :
    let config : FileTree := .file [] false
    let repository : List (String × FileTree) :=
      [(".git", .directory []), ("nbcheck.toml", .directory []), ("nbcheck.yaml", config),
        ("sub", .directory [])]
    let tree : FileTree := .directory [("nbcheck.toml", config), ("repo", .directory repository)]
    isAbsolute "/repo/sub" ∧ ∃ directories, WayUp "/repo/sub" directories ∧
      Governs tree directories "/repo/nbcheck.yaml" ∧
        ∀ path, Governs tree directories path → path = "/repo/nbcheck.yaml" := by
  intro config repository tree
  have habsolute : isAbsolute "/repo/sub" := by decide +kernel
  have hfile : findConfig tree "/repo/sub" = some "/repo/nbcheck.yaml" := by decide +kernel
  obtain ⟨directories, hway, -, hfound, -⟩ := findConfig_nearest tree habsolute
  refine ⟨habsolute, directories, hway, (hfound _).mp hfile, fun path hgoverns => ?_⟩
  exact Option.some.inj (((hfound path).mpr hgoverns).symm.trans hfile)

end Way

end NotebookLint.Settings
