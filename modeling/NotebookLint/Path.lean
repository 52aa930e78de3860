/-!
# Paths

Paths are texts; what they mean is given by their components. Doubled and trailing separators and
inner `.` components do not count, while `..` does, since what it leads to depends on the file
tree. Paths are ordered by their components, so `a/b` stands before `a b`.

Names that are not UTF-8 are left out, so that the text of a path tells all of it.
-/

namespace NotebookLint.Path

/-- A step of a path. -/
inductive Component where
  /-- The root directory. -/
  | root
  /-- A leading `.`. -/
  | current
  /-- The step `..`. -/
  | parent
  /-- A name. -/
  | normal (name : String)
  deriving DecidableEq, Repr

/-- The text of a component. -/
def Component.text : Component → String
  | .root => "/"
  | .current => "."
  | .parent => ".."
  | .normal name => name

/-- The pieces of a text between its separators; there is always one more than separators. -/
def pieces : List Char → List (List Char)
  | [] => [[]]
  | c :: rest =>
    if c = '/' then [] :: pieces rest
    else
      match pieces rest with
      | [] => [[c]]
      | piece :: more => (c :: piece) :: more

/-- The component that a piece after the first stands for, if it counts. -/
def componentOf (piece : List Char) : Option Component :=
  if piece = [] ∨ piece = ['.'] then none
  else if piece = ['.', '.'] then some .parent
  else some (.normal (String.ofList piece))

/-- Whether a path starts at the root. -/
def isAbsolute (path : String) : Bool := path.toList.head? = some '/'

/-- The components of a path. -/
def components (path : String) : List Component :=
  match pieces path.toList with
  | [] => []
  | first :: rest =>
    let start :=
      if isAbsolute path then [.root]
      else if first = ['.'] then [.current]
      else (componentOf first).toList
    start ++ rest.filterMap componentOf

/-- A path followed by another: an absolute one stands for itself. -/
def join (base path : String) : String :=
  if isAbsolute path || base.isEmpty then path
  else if base.toList.getLast? = some '/' then base ++ path
  else base ++ "/" ++ path

/-- The pieces of a path with the information which of them count. -/
def markedPieces (path : String) : List (List Char × Bool) :=
  let all := pieces path.toList
  let mark (piece : List Char) : List Char × Bool := (piece, (componentOf piece).isSome)
  if isAbsolute path then all.tail.map mark
  else
    match all with
    | [] => []
    | first :: rest => (first, !first.isEmpty) :: rest.map mark

/-- Pieces joined by separators. -/
def joinPieces : List (List Char) → List Char
  | [] => []
  | [piece] => piece
  | piece :: rest => piece ++ '/' :: joinPieces rest

/-- The path without its last component, as it is written. -/
def parent? (path : String) : Option String :=
  let skip (marked : List (List Char × Bool)) := marked.dropWhile fun piece => !piece.2
  match skip (markedPieces path).reverse with
  | [] => none
  | _ :: rest =>
    let kept := joinPieces ((skip rest).reverse.map Prod.fst)
    some (String.ofList (if isAbsolute path then '/' :: kept else kept))

/-- The name at the end of a path, if it ends in a name. -/
def fileName? (path : String) : Option String :=
  match (components path).getLast? with
  | some (.normal name) => some name
  | _ => none

/-- The part of a name after its last point, unless the point begins the name. -/
def extensionOf (name : String) : Option String :=
  let reversed := name.toList.reverse
  match reversed.dropWhile (· != '.') with
  | [] => none
  | [_] => none
  | _ => some (String.ofList (reversed.takeWhile (· != '.')).reverse)

/-- The extension of the name at the end of a path. -/
def extension? (path : String) : Option String :=
  (fileName? path).bind extensionOf

/-- The path that components spell out. -/
def ofComponents (parts : List Component) : String :=
  parts.foldl (fun path part => join path part.text) ""

/-- The components below a base, if the components of the base come first. -/
def below? (base : List Component) (parts : List Component) : Option (List Component) :=
  if base.isPrefixOf parts then some (parts.drop base.length) else none

/-- How a file is shown: relative to a base if it lies below it, and as it is otherwise. An empty
base leads nowhere from a path at the root. -/
def display (base : Option String) (file : String) : String :=
  match base with
  | none => file
  | some base =>
    if isAbsolute base != isAbsolute file then file
    else
      match below? (components base) (components file) with
      | none => file
      | some [] => file
      | some rest => ofComponents rest

/-- The place of a component in the order of components; names follow all else. -/
def Component.rank : Component → Nat
  | .root => 0
  | .current => 1
  | .parent => 2
  | .normal _ => 3

/-- Whether a component stands before another. -/
def Component.lt : Component → Component → Bool
  | .normal a, .normal b => a < b
  | a, b => a.rank < b.rank

/-- Whether a list of components stands before another. -/
def ltComponents : List Component → List Component → Bool
  | _, [] => false
  | [], _ :: _ => true
  | a :: as, b :: bs => a.lt b || (a == b && ltComponents as bs)

/-- Adds a path to a list of paths in increasing order, unless it is already there. -/
def insertSorted (path : String) : List String → List String
  | [] => [path]
  | other :: rest =>
    if components path = components other then other :: rest
    else if ltComponents (components path) (components other) then path :: other :: rest
    else other :: insertSorted path rest

end NotebookLint.Path
