import NotebookLint.Toml.Quoted
import NotebookLint.Toml.Scalar

/-!
# TOML documents

A document is statements followed by sections, each with its header and its statements. Every
reader here takes what it reads from the beginning of a text and gives the rest, or refuses.
-/

namespace NotebookLint.Toml

/-- The rest of a text after spaces and tabs. -/
def skipSpaces (text : List Char) : List Char := text.dropWhile isSpace

/-- The rest of a text after a comment, if one begins it. -/
def skipComment : List Char → Option (List Char)
  | '#' :: rest =>
    let after := rest.dropWhile isPrintable
    if after.isEmpty || (afterLineEnd after).isSome then some after else none
  | rest => some rest

/-- The rest of a text after spaces, comments and line ends, with fuel for its lines. -/
def skipLines : (fuel : Nat) → List Char → Option (List Char)
  | 0, _ => none
  | fuel + 1, text => do
    let after ← skipComment (skipSpaces text)
    match afterLineEnd after with
    | some rest => skipLines fuel rest
    | none => some after

/-- The rest of a text after all that does not count between values. -/
def skipBetween (text : List Char) : Option (List Char) := skipLines (text.length + 1) text

/-- The rest of a text after the end of a statement: the line must hold no more. -/
def skipToNextLine (text : List Char) : Option (List Char) := do
  let after ← skipComment (skipSpaces text)
  if after.isEmpty then some [] else afterLineEnd after

/-- Whether a character may stand in a key without quotes. -/
def isKeyChar (c : Char) : Bool := c.isAlphanum || c == '_' || c == '-'

/-- One part of a key. -/
def keyPart (text : List Char) : Option (String × List Char) :=
  match quoted text with
  | some (form, part, rest) => if form.triple then none else some (part, rest)
  | none =>
    let bare := text.takeWhile isKeyChar
    if bare.isEmpty then none else some (String.ofList bare, text.dropWhile isKeyChar)

/-- The parts of a key between points, with fuel for them. -/
def keyParts : (fuel : Nat) → List Char → Option (List String × List Char)
  | 0, _ => none
  | fuel + 1, text => do
    let (part, rest) ← keyPart (skipSpaces text)
    match skipSpaces rest with
    | '.' :: more => (keyParts fuel more).map fun (parts, after) => (part :: parts, after)
    | after => some ([part], after)

/-- A key, and the text after it and the spaces behind it. -/
def key (text : List Char) : Option (Key × List Char) := do
  let (parts, rest) ← keyParts (text.length + 1) text
  let last ← parts.getLast?
  some (⟨parts.dropLast, last⟩, rest)

/-- Whether a character ends an unquoted value. -/
def endsScalar (c : Char) : Bool :=
  isSpace c || ['\n', '\r', '#', ',', '[', ']', '\x7b', '\x7d', '='].contains c

/-- The unquoted value at the beginning of a text. A single space may stand between a date and a
time. -/
def scalarText (text : List Char) : List Char × List Char :=
  let first := text.takeWhile (!endsScalar ·)
  match text.dropWhile (!endsScalar ·) with
  | ' ' :: c :: rest =>
    if c.isDigit && afterDate first = some [] then
      (first ++ ' ' :: (c :: rest).takeWhile (!endsScalar ·),
        (c :: rest).dropWhile (!endsScalar ·))
    else (first, ' ' :: c :: rest)
  | rest => (first, rest)

/-- How many brackets and braces may be open at once. -/
def maxDepth : Nat := 80

mutual

/-- A value, with fuel for the text and room for so many more open brackets. -/
def value : (fuel room : Nat) → List Char → Option (Value × List Char)
  | 0, _, _ => none
  | fuel + 1, room, text =>
    match text, room with
    | '[' :: _, 0 | '\x7b' :: _, 0 => none
    | '[' :: rest, room + 1 =>
      (items fuel room rest).map fun (items, after) => (.array items, after)
    | '\x7b' :: rest, room + 1 => do
      let (statements, after) ← inlineStatements fuel room rest
      let fields ← take statements []
      some (.table .braces fields, after)
    | _, _ =>
      match text.head? with
      | some '"' | some '\'' =>
        (quoted text).map fun (_, content, after) => (.text content, after)
      | _ =>
        let (raw, after) := scalarText text
        (scalar raw).map fun value => (value, after)

/-- The values of an array up to its closing bracket. -/
def items : (fuel room : Nat) → List Char → Option (List Value × List Char)
  | 0, _, _ => none
  | fuel + 1, room, text => do
    match ← skipBetween text with
    | ']' :: rest => some ([], rest)
    | text =>
      let (first, rest) ← value fuel room text
      match ← skipBetween rest with
      | ',' :: more => (items fuel room more).map fun (others, after) => (first :: others, after)
      | ']' :: after => some ([first], after)
      | _ => none

/-- The statements of a table in braces up to its closing brace. -/
def inlineStatements : (fuel room : Nat) → List Char → Option (List Statement × List Char)
  | 0, _, _ => none
  | fuel + 1, room, text => do
    match ← skipBetween text with
    | '\x7d' :: rest => some ([], rest)
    | text =>
      let (first, rest) ← statement fuel room text
      match ← skipBetween rest with
      | ',' :: more =>
        (inlineStatements fuel room more).map fun (others, after) => (first :: others, after)
      | '\x7d' :: after => some ([first], after)
      | _ => none

/-- A key with its value. -/
def statement : (fuel room : Nat) → List Char → Option (Statement × List Char)
  | 0, _, _ => none
  | fuel + 1, room, text => do
    let (name, rest) ← key text
    match rest with
    | '=' :: rest =>
      (value fuel room (skipSpaces rest)).map fun (content, after) => ((name, content), after)
    | _ => none

end

/-- A header. -/
def header (text : List Char) : Option (Header × List Char) :=
  match text with
  | '[' :: '[' :: rest =>
    match key rest with
    | some (name, ']' :: ']' :: after) => some (⟨true, name⟩, after)
    | _ => none
  | '[' :: rest =>
    match key rest with
    | some (name, ']' :: after) => some (⟨false, name⟩, after)
    | _ => none
  | _ => none

/-- Statements up to the next header or the end, with fuel for the lines. -/
def statements : (fuel : Nat) → List Char → Option (List Statement × List Char)
  | 0, _ => none
  | fuel + 1, text => do
    match ← skipBetween text with
    | [] => some ([], [])
    | '[' :: rest => some ([], '[' :: rest)
    | text =>
      let (first, rest) ← statement (4 * text.length + 4) maxDepth text
      let rest ← skipToNextLine rest
      (statements fuel rest).map fun (others, after) => (first :: others, after)

/-- Sections up to the end, with fuel for the lines. -/
def sections : (fuel : Nat) → List Char → Option (List (Header × List Statement))
  | _, [] => some []
  | 0, _ :: _ => none
  | fuel + 1, text => do
    let (head, rest) ← header text
    let rest ← skipToNextLine rest
    let (below, rest) ← statements (rest.length + 1) rest
    (sections fuel rest).map ((head, below) :: ·)

/-- A text without a byte order mark at its beginning. -/
def dropMark : List Char → List Char
  | '\ufeff' :: rest => rest
  | text => text

/-- The table that a document describes. -/
def document (text : List Char) : Option Fields := do
  let text := dropMark text
  let (above, rest) ← statements (text.length + 1) text
  let parts ← sections (rest.length + 1) rest
  ofSections above parts

end NotebookLint.Toml
