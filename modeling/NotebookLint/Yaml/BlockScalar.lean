import NotebookLint.Yaml.Cursor

/-!
# Block scalars

A block scalar is the lines that are indented deeply enough below its header. The header says
whether single line breaks read as spaces, how far the lines are indented, and what becomes of
the line breaks at the end.
-/

namespace NotebookLint.Yaml

/-- What becomes of the line breaks at the end of a block scalar. -/
inductive Chomping where
  /-- One of them stays. -/
  | clip
  /-- None stays. -/
  | strip
  /-- All stay. -/
  | keep
  deriving DecidableEq, Repr

/-- The chomping that an indicator asks for. -/
def chomping? : Char → Option Chomping
  | '-' => some .strip
  | '+' => some .keep
  | _ => none

/-- The header of a block scalar after its first character: the chomping, the indentation if it
is given, and the place after the indicators. An indentation of zero is refused. -/
def blockHeader (cursor : Cursor) : Option (Chomping × Option Nat × Cursor) :=
  let depth (cursor : Cursor) : Option (Option Nat × Cursor) :=
    match cursor.peek? with
    | some '0' => none
    | some c => if c.isDigit then some (some (c.toNat - '0'.toNat), cursor.skip 1)
      else some (none, cursor)
    | none => some (none, cursor)
  match cursor.peek?.bind chomping? with
  | some chomping => (depth (cursor.skip 1)).map fun (depth, after) => (chomping, depth, after)
  | none =>
    (depth cursor).map fun (depth, after) =>
      match depth, after.peek?.bind chomping? with
      | some depth, some chomping => (chomping, some depth, after.skip 1)
      | _, _ => (.clip, depth, after)

/-- The line breaks before the next line that says something, the place after them and after the
spaces up to an indentation, and the greatest column that is met. Without an indentation all
spaces are passed. A tab may not stand where a space is expected. -/
def blockBreaks (indent : Option Nat) :
    (fuel : Nat) → (widest : Nat) → Cursor → Option (List Char × Cursor × Nat)
  | 0, _, _ => none
  | fuel + 1, widest, cursor =>
    let room := match indent with
      | some indent => indent - cursor.column
      | none => cursor.rest.length
    let spaces := (cursor.rest.take room).takeWhile (· == ' ')
    let next := cursor.skip spaces.length
    let isShort := match indent with
      | some indent => next.column < indent
      | none => true
    let widest := max widest next.column
    if isShort && next.sees (· == '\t') then none
    else if next.sees isBreak then
      let (text, below) := next.takeBreak
      (blockBreaks indent fuel widest below).map fun (more, after) => (text ++ more, after)
    else some ([], next, widest)

/-- What becomes of the line break before a line and of those after it: in a folded scalar a
single break between two lines that begin with no blank reads as a space. -/
def joinLines (folded : Bool) (before after : Bool) (first more : List Char) : List Char :=
  if folded && first == ['\n'] && !before && !after then (if more.isEmpty then [' '] else more)
  else first ++ more

/-- The lines of a block scalar, with fuel for them: what they say, the line break after the last
one, the line breaks after that, and the place behind. `before` says whether the line before
begins with a blank, `first` and `more` are the breaks after it. -/
def blockLines (folded : Bool) (indent : Nat) : (fuel : Nat) → (before : Bool) →
    (first more : List Char) → Cursor → Option (List Char × List Char × List Char × Cursor)
  | 0, _, _, _, _ => none
  | fuel + 1, before, first, more, cursor =>
    if cursor.column = indent ∧ !cursor.rest.isEmpty then
      let isBlankLine := cursor.sees isSpace
      let (line, atEnd) := cursor.takeWhile (!isBreak ·)
      let (lineEnd, below) := atEnd.takeBreak
      match blockBreaks (some indent) (below.rest.length + 1) 0 below with
      | none => none
      | some (breaks, next, _) =>
        (blockLines folded indent fuel isBlankLine lineEnd breaks next).map fun (text, after) =>
          (joinLines folded before isBlankLine first more ++ line ++ text, after)
    else some ([], first, more, cursor)

/-- Reads a block scalar after its first character, below a collection at an indentation: what
it says and the place after it. -/
def blockScalar (folded : Bool) (parent : Int) (cursor : Cursor) : Option (List Char × Cursor) := do
  let (chomping, depth, after) ← blockHeader cursor
  let body ← after.skipToNextLine?
  let given := depth.map fun depth => parent.toNat + depth
  let fuel := body.rest.length + 2
  let (breaks, first, widest) ← blockBreaks given fuel 0 body
  let indent := given.getD (max widest (max (parent + 1).toNat 1))
  let (text, lineEnd, more, last) ← blockLines folded indent fuel false [] breaks first
  match chomping with
  | .clip => some (text ++ lineEnd, last)
  | .strip => some (text, last)
  | .keep => some (text ++ lineEnd ++ more, last)

end NotebookLint.Yaml
