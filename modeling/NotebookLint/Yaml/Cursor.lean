import NotebookLint.Yaml.Character

/-!
# Places in a YAML document

A cursor is the unread text with its place: how many characters, lines and columns precede it.
Columns decide what belongs to what, and a key may not be longer than a line.
-/

namespace NotebookLint.Yaml

/-- The unread text and its place. -/
structure Cursor where
  /-- The unread text. -/
  rest : List Char
  /-- The number of characters before it. -/
  index : Nat
  /-- The number of lines before it. -/
  line : Nat
  /-- The number of characters before it on its line. -/
  column : Nat
  deriving DecidableEq, Repr

namespace Cursor

/-- The beginning of a text. -/
def start (text : List Char) : Cursor := ⟨text, 0, 0, 0⟩

/-- The place after so many characters of the same line. -/
def skip (cursor : Cursor) (count : Nat) : Cursor :=
  ⟨cursor.rest.drop count, cursor.index + count, cursor.line, cursor.column + count⟩

/-- The characters of the line that satisfy a condition, and the place after them. -/
def takeWhile (cursor : Cursor) (p : Char → Bool) : List Char × Cursor :=
  let taken := cursor.rest.takeWhile p
  (taken, cursor.skip taken.length)

/-- The place after the characters that satisfy a condition. -/
def skipWhile (cursor : Cursor) (p : Char → Bool) : Cursor := (cursor.takeWhile p).2

/-- The place after the rest of the line. -/
def skipLine (cursor : Cursor) : Cursor := cursor.skipWhile (!isBreak ·)

/-- What the line break at a place counts as, and the place after it. All line breaks are line
feeds but two, which stand for themselves. -/
def takeBreak (cursor : Cursor) : List Char × Cursor :=
  let next (count : Nat) : Cursor :=
    ⟨cursor.rest.drop count, cursor.index + count, cursor.line + 1, 0⟩
  match cursor.rest with
  | '\r' :: '\n' :: _ => (['\n'], next 2)
  | c :: _ =>
    if c.toNat = 0x2028 ∨ c.toNat = 0x2029 then ([c], next 1)
    else if isBreak c then (['\n'], next 1)
    else ([], cursor)
  | [] => ([], cursor)

/-- The next character. -/
def peek? (cursor : Cursor) : Option Char := cursor.rest.head?

/-- Whether the next character satisfies a condition. -/
def sees (cursor : Cursor) (p : Char → Bool) : Bool := cursor.peek?.any p

/-- Whether a token that ends before the character at a distance would be a whole one. -/
def endsAt (cursor : Cursor) (distance : Nat) : Bool := endsToken (cursor.rest.drop distance).head?

/-- Whether a mark that stands for itself at the beginning of a line begins here. -/
def seesMark (cursor : Cursor) (mark : String) : Bool :=
  cursor.column == 0 && mark.toList.isPrefixOf cursor.rest && cursor.endsAt mark.length

/-- Whether a document begins or ends here. -/
def seesDocumentMark (cursor : Cursor) : Bool :=
  cursor.seesMark "---" || cursor.seesMark "..."

/-- The place after the spaces and the comment at the end of a line, and after the line break.
Nothing else may stand there. -/
def skipToNextLine? (cursor : Cursor) : Option Cursor :=
  let after := cursor.skipWhile isSpace
  let after := if after.sees (· == '#') then after.skipLine else after
  if after.rest.isEmpty || after.sees isBreak then some after.takeBreak.2 else none

end Cursor

end NotebookLint.Yaml
