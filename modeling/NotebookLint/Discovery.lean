import NotebookLint.FileTree

/-!
# Finding notebooks

Notebooks are looked for below directories, tooling directories left out, and are taken as given
where they are named. The result is in path order and holds every path once.
-/

namespace NotebookLint.Discovery

/-- The ending of the names of notebooks. -/
def notebookEnding : String := ".ipynb"

/-- The directories that tools keep for themselves. -/
def toolingNames : List String :=
  [".direnv", ".eggs", ".git", ".hg", ".ipynb_checkpoints", ".mypy_cache", ".nox", ".svn", ".tox",
    ".venv", "_build", "buck-out", "build", "dist", "venv"]

/-- Whether some directory on the way to a place below a root is a tooling directory. A backslash
in a name counts as a separator. -/
def inToolingDirectory (place : List String) : Bool :=
  let path := (FileTree.pathOfPlace place).toList.map fun c => if c = '\\' then '/' else c
  (Path.pieces path).dropLast.any fun piece => toolingNames.contains (String.ofList piece)

/-- Whether the last name of a place is the name of a notebook. -/
def hasNotebookName (place : List String) : Bool :=
  notebookEnding.toList.isSuffixOf (place.getLast?.getD "").toList

/-- The places of notebooks below a directory. -/
def notebookPlaces (directory : FileTree) : List (List String) :=
  directory.places.filter fun place => hasNotebookName place && !inToolingDirectory place

/-- Whether a path names a notebook, by its extension. -/
def namesNotebook (path : String) : Bool :=
  Path.extension? path = some "ipynb"

/-- An absolute path for a path: without detours if it leads somewhere. -/
def absolute (tree : FileTree) (cwd path : String) : String :=
  (tree.canonical? cwd path).getD (if Path.isAbsolute path then path else Path.join cwd path)

/-- What one root contributes. -/
def ofRoot (tree : FileTree) (cwd root : String) : List String :=
  match tree.resolve cwd root with
  | .ok place =>
    match tree.at? place with
    | some (.directory entries) =>
      (notebookPlaces (.directory entries)).map fun below => FileTree.pathOfPlace (place ++ below)
    | _ => if namesNotebook root then [absolute tree cwd root] else []
  | .error _ => if namesNotebook root then [absolute tree cwd root] else []

/-- The notebooks that roots lead to, in path order. -/
def collect (tree : FileTree) (cwd : String) (roots : List String) : List String :=
  (roots.flatMap (ofRoot tree cwd)).foldl (fun found path => Path.insertSorted path found) []

end NotebookLint.Discovery
