import NotebookLint.Path
import NotebookLint.Text.Utf8

/-!
# File trees

A file tree is a value: directories with named entries, and files with their bytes. A path leads
to an entry step by step from the root or from a working directory. There are no links, so a
place in the tree is a list of names and every entry has one place. Names are texts: entries whose
names are not UTF-8 are left out, and so are permissions other than the one to run a program.
-/

namespace NotebookLint

/-- An entry of a file tree. -/
inductive FileTree where
  /-- A file with its bytes, and whether it may be run as a program. -/
  | file (bytes : List UInt8) (executable : Bool)
  /-- A directory with its entries by name. -/
  | directory (entries : List (String × FileTree))

/-- Why a path does not lead where it should. -/
inductive FileFault where
  /-- There is no such entry. -/
  | notFound
  /-- The entry may not be used that way. -/
  | permissionDenied
  /-- A step goes through a file. -/
  | notDirectory
  /-- The entry is a directory. -/
  | isDirectory
  /-- A name or the whole path is too long. -/
  | nameTooLong
  /-- The path holds a NUL character. -/
  | nulInPath
  /-- The bytes of the file are no text. -/
  | notUtf8
  /-- The bytes of the file are no program. -/
  | notProgram
  deriving DecidableEq, Repr

/-- The wording of a fault. -/
def FileFault.message : FileFault → String
  | .notFound => "No such file or directory (os error 2)"
  | .permissionDenied => "Permission denied (os error 13)"
  | .notDirectory => "Not a directory (os error 20)"
  | .isDirectory => "Is a directory (os error 21)"
  | .nameTooLong => "File name too long (os error 36)"
  | .nulInPath => "file name contained an unexpected NUL byte"
  | .notUtf8 => "stream did not contain valid UTF-8"
  | .notProgram => "Exec format error (os error 8)"

namespace FileTree

/-- The entry with a name among entries. -/
def lookup (name : String) : List (String × FileTree) → Option FileTree
  | [] => none
  | (other, entry) :: rest => if other = name then some entry else lookup name rest

/-- The entry at a place. -/
def at? : FileTree → List String → Option FileTree
  | tree, [] => some tree
  | .file _ _, _ :: _ => none
  | .directory entries, name :: names =>
    match lookup name entries with
    | none => none
    | some entry => entry.at? names

/-- The number of bytes that a name may have. -/
def maxNameBytes : Nat := 255

/-- The number of bytes that a path may have. -/
def maxPathBytes : Nat := 4095

/-- Follows the pieces of a path from a place. -/
def walk (tree : FileTree) :
    (place : List String) → List (List Char) → Except FileFault (List String)
  | place, [] => .ok place
  | place, piece :: rest =>
    match tree.at? place with
    | none => .error .notFound
    | some (.file _ _) => .error .notDirectory
    | some (.directory entries) =>
      if piece = [] ∨ piece = ['.'] then walk tree place rest
      else if piece = ['.', '.'] then walk tree place.dropLast rest
      else
        let name := String.ofList piece
        if maxNameBytes < name.utf8ByteSize then .error .nameTooLong
        else
          match lookup name entries with
          | none => .error .notFound
          | some _ => walk tree (place ++ [name]) rest

/-- The place after a component of a path. -/
def stepPlace (place : List String) : Path.Component → List String
  | .root => []
  | .current => place
  | .parent => place.dropLast
  | .normal name => place ++ [name]

/-- The place that a path from the root spells out, whether or not it is there. -/
def placeOf (path : String) : List String :=
  (Path.components path).foldl stepPlace []

/-- The place that a path leads to from a working directory. -/
def resolve (tree : FileTree) (cwd path : String) : Except FileFault (List String) :=
  if path.toList.contains '\x00' then .error .nulInPath
  else if path.isEmpty then .error .notFound
  else if maxPathBytes < path.utf8ByteSize then .error .nameTooLong
  else if Path.isAbsolute path then walk tree [] (Path.pieces path.toList).tail
  else walk tree (placeOf cwd) (Path.pieces path.toList)

/-- The entry that a path leads to. -/
def find (tree : FileTree) (cwd path : String) : Except FileFault FileTree :=
  match tree.resolve cwd path with
  | .error fault => .error fault
  | .ok place =>
    match tree.at? place with
    | some entry => .ok entry
    | none => .error .notFound

/-- Whether a path leads to a directory. -/
def isDirectory (tree : FileTree) (cwd path : String) : Bool :=
  match tree.find cwd path with
  | .ok (.directory _) => true
  | _ => false

/-- Whether a path leads to a file. -/
def isFile (tree : FileTree) (cwd path : String) : Bool :=
  match tree.find cwd path with
  | .ok (.file _ _) => true
  | _ => false

/-- Whether a path leads anywhere. -/
def pathExists (tree : FileTree) (cwd path : String) : Bool :=
  match tree.find cwd path with
  | .ok _ => true
  | .error _ => false

/-- The absolute path of a place. -/
def pathOfPlace (place : List String) : String :=
  if place.isEmpty then "/" else String.join (place.map fun name => "/" ++ name)

/-- The absolute path without detours that leads to the same entry. -/
def canonical? (tree : FileTree) (cwd path : String) : Option String :=
  match tree.resolve cwd path with
  | .ok place => some (pathOfPlace place)
  | .error _ => none

/-- The text of the file that a path leads to. -/
def readText (tree : FileTree) (cwd path : String) : Except FileFault String :=
  match tree.find cwd path with
  | .error fault => .error fault
  | .ok (.directory _) => .error .isDirectory
  | .ok (.file bytes _) =>
    match Text.decodeStrict bytes with
    | some text => .ok (String.ofList text)
    | none => .error .notUtf8

/-- Gives a name its entry. -/
def setEntry (name : String) (entry : FileTree) :
    List (String × FileTree) → List (String × FileTree)
  | [] => [(name, entry)]
  | (other, old) :: rest =>
    if other = name then (name, entry) :: rest else (other, old) :: setEntry name entry rest

/-- Puts an entry at a place, making the directories on the way; a file on the way is replaced. -/
def put (entry : FileTree) : List String → FileTree → FileTree
  | [], _ => entry
  | name :: names, tree =>
    let entries := match tree with
      | .directory entries => entries
      | .file _ _ => []
    let old := (lookup name entries).getD (.directory [])
    .directory (setEntry name (put entry names old) entries)

/-- Makes sure that there is a directory at a place. -/
def makeDirectory (place : List String) (tree : FileTree) : FileTree :=
  match tree.at? place with
  | some (.directory _) => tree
  | _ => put (.directory []) place tree

/-- The tree that holds entries listed by their paths from a working directory. -/
def ofListing (cwd : String) (listing : List (String × FileTree)) : FileTree :=
  listing.foldl (fun tree item => put item.2 (placeOf (Path.join cwd item.1)) tree)
    (makeDirectory (placeOf cwd) (.directory []))

/-- Removes the entry at a place, if there is one. -/
def remove : List String → FileTree → FileTree
  | [], tree => tree
  | _, .file bytes executable => .file bytes executable
  | [name], .directory entries => .directory (entries.filter fun entry => entry.1 ≠ name)
  | name :: names, .directory entries =>
    match lookup name entries with
    | none => .directory entries
    | some entry => .directory (setEntry name (remove names entry) entries)

mutual

/-- The places of all entries strictly below an entry. -/
def places : FileTree → List (List String)
  | .file _ _ => []
  | .directory entries => placesIn entries

/-- The places of entries and of all entries below them. -/
def placesIn : List (String × FileTree) → List (List String)
  | [] => []
  | (name, entry) :: rest =>
    [name] :: (places entry).map (name :: ·) ++ placesIn rest

end

end FileTree

end NotebookLint
