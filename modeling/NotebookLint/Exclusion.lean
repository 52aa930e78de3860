import NotebookLint.Glob
import NotebookLint.Path

/-!
# Excluding paths

An exclude pattern is a path of globs that is compared with the last components of a path, or
with all of them if the pattern is anchored at its front. Separators may be written either way,
and several stars in a row mean one.
-/

namespace NotebookLint

/-- An exclude pattern: globs for the last components of a path. -/
structure ExcludePattern where
  /-- Whether the globs stand for all components. -/
  anchored : Bool
  /-- The globs in order. -/
  globs : List Glob
  deriving DecidableEq, Repr

/-- Why a pattern is refused. -/
inductive PatternFault where
  /-- The pattern has no component. -/
  | empty
  /-- A component has an invalid bracket at this place. -/
  | invalidRange (place : Nat)
  deriving DecidableEq, Repr

/-- The wording of a refusal. -/
def PatternFault.message : PatternFault → String
  | .empty => "empty pattern"
  | .invalidRange place =>
    "Pattern syntax error near position " ++ toString place ++ ": invalid range pattern"

namespace ExcludePattern

/-- A text in which every run of stars is one star. -/
def collapseStars : List Char → List Char
  | '*' :: '*' :: rest => collapseStars ('*' :: rest)
  | c :: rest => c :: collapseStars rest
  | [] => []

/-- The globs of components in order, or the first fault. -/
def parseGlobs : List (List Char) → Except PatternFault (List Glob)
  | [] => .ok []
  | component :: rest =>
    match Glob.parse (collapseStars component) with
    | .error place => .error (.invalidRange place)
    | .ok glob => (parseGlobs rest).map (glob :: ·)

/-- The pattern that a text describes. -/
def parse (text : String) : Except PatternFault ExcludePattern :=
  let normalized := text.toList.map fun c => if c = '\\' then '/' else c
  let components := (Path.pieces normalized).filter fun piece => piece ≠ [] ∧ piece ≠ ['.']
  match parseGlobs components with
  | .error fault => .error fault
  | .ok [] => .error .empty
  | .ok globs => .ok ⟨normalized.head? = some '/', globs⟩

/-- Whether globs match names one by one. -/
def matchesNames : List Glob → List (List Char) → Bool
  | [], [] => true
  | glob :: globs, name :: names => glob.matchesText name && matchesNames globs names
  | _, _ => false

/-- Whether a pattern excludes a path with these names. -/
def excludes (pattern : ExcludePattern) (names : List (List Char)) : Bool :=
  let count := pattern.globs.length
  (if pattern.anchored then names.length == count else decide (count ≤ names.length)) &&
    matchesNames pattern.globs (names.drop (names.length - count))

end ExcludePattern

namespace Exclusion

/-- The patterns of texts in order, or the first text that is refused. -/
def parse : List String → Except (String × PatternFault) (List ExcludePattern)
  | [] => .ok []
  | text :: rest =>
    match ExcludePattern.parse text with
    | .error fault => .error (text, fault)
    | .ok pattern => (parse rest).map (pattern :: ·)

/-- The names among the components of a path. -/
def names (path : String) : List (List Char) :=
  (Path.components path).filterMap fun
    | .normal name => some name.toList
    | _ => none

/-- Whether some pattern excludes a path. -/
def excludes (patterns : List ExcludePattern) (path : String) : Bool :=
  patterns.any fun pattern => pattern.excludes (names path)

/-- The paths that no pattern excludes, in their order. -/
def keep (patterns : List ExcludePattern) (paths : List String) : List String :=
  paths.filter fun path => !excludes patterns path

end Exclusion

end NotebookLint
