import NotebookLint.Literal.Fault
import NotebookLint.Text.Blank
import NotebookLint.Text.Hexadecimal

/-!
# String literals

The body of a quoted literal, read character by character: verbatim in a raw literal, with
escapes otherwise. Three equal quotes open a body that only three such quotes close; a body
between single quotes ends at a line feed at the latest. Adjacent literals are one text.
-/

namespace NotebookLint.Literal

open NotebookLint.Text

/-- Whether a character opens and closes string literals. -/
def isQuote (c : Char) : Bool :=
  c == '\'' || c == '"'

/-- The form of a body: its quote, whether it is tripled, and whether backslashes are kept. -/
structure BodyForm where
  /-- The quote character. -/
  quote : Char
  /-- Whether three quotes open and close the body. -/
  triple : Bool
  /-- Whether the body is verbatim. -/
  raw : Bool
  deriving DecidableEq, Repr

/-- The character that `count` hexadecimal digits name, and how many characters they take. -/
def hexEscape (count : Nat) (text : List Char) : Except Cause (List Char × Nat) :=
  match hexPrefix count 0 text with
  | none => .error .badHexEscape
  | some code =>
    if code.isValidChar then .ok ([Char.ofNat code], count) else .error .badUnicodeEscape

/-- What a backslash with the character after it stands for, and how many of the following
characters belong to it. A backslash before a character without meaning is kept with it. -/
def escape (letter : Char) (rest : List Char) : Except Cause (List Char × Nat) :=
  match letter with
  | '\n' => .ok ([], 0)
  | '\\' => .ok (['\\'], 0)
  | '\'' => .ok (['\''], 0)
  | '"' => .ok (['"'], 0)
  | 'n' => .ok (['\n'], 0)
  | 't' => .ok (['\t'], 0)
  | 'r' => .ok (['\r'], 0)
  | '0' => .ok (['\x00'], 0)
  | 'a' => .ok (['\x07'], 0)
  | 'b' => .ok (['\x08'], 0)
  | 'f' => .ok (['\x0c'], 0)
  | 'v' => .ok (['\x0b'], 0)
  | 'x' => hexEscape 2 rest
  | 'u' => hexEscape 4 rest
  | 'U' => hexEscape 8 rest
  | other => .ok (['\\', other], 0)

/-- Puts characters in front of what a reader of the rest gives. -/
def prepend (chars : List Char) : Step (List Char) → Step (List Char)
  | .ok (more, rest) => .ok (chars ++ more, rest)
  | .error fault => .error fault

/-- Whether a body of this form is closed by the next characters. -/
def closes (form : BodyForm) (text : List Char) : Bool :=
  if form.triple then [form.quote, form.quote, form.quote].isPrefixOf text
  else text.head? == some form.quote

/-- Reads a body up to and with its closing quotes. The first `skip` characters belong to an
escape that is already read, and `start` is the place of the opening quote, which a missing
closing quote is blamed on. -/
def readBody (form : BodyForm) (start : List Char) : (skip : Nat) → List Char → Step (List Char)
  | skip + 1, _ :: rest => readBody form start skip rest
  | _, [] => .error ⟨start, .unterminatedString⟩
  | 0, c :: rest =>
    if closes form (c :: rest) then .ok ([], if form.triple then rest.drop 2 else rest)
    else if c = '\n' ∧ form.triple = false then .error ⟨start, .unterminatedString⟩
    else if c = '\\' then
      match rest with
      | [] => .error (if form.raw then ⟨start, .unterminatedString⟩ else ⟨[], .unterminatedEscape⟩)
      | letter :: rest =>
        if form.raw then prepend [c, letter] (readBody form start 0 rest)
        else
          match escape letter rest with
          | .ok (chars, skip) => prepend chars (readBody form start skip rest)
          | .error cause => .error ⟨rest, cause⟩
    else prepend [c] (readBody form start 0 rest)

/-- Reads a literal that begins at its opening quote. -/
def readQuoted (raw : Bool) : List Char → Step (List Char)
  | quote :: rest =>
    let triple := [quote, quote].isPrefixOf rest
    readBody ⟨quote, triple, raw⟩ (quote :: rest) 0 (if triple then rest.drop 2 else rest)
  | [] => .error ⟨[], .unexpectedEnd⟩

/-- Whether a letter announces a verbatim body. -/
def isRawPrefix (c : Char) : Bool :=
  c == 'r' || c == 'R'

/-- Whether a letter may stand directly before the opening quote. -/
def isStringPrefix (c : Char) : Bool :=
  isRawPrefix c || c == 'u' || c == 'U'

/-- Reads one literal with its optional prefix letter. -/
def readString : List Char → Step (List Char)
  | c :: rest => if isStringPrefix c then readQuoted (isRawPrefix c) rest
    else readQuoted false (c :: rest)
  | [] => .error ⟨[], .unexpectedEnd⟩

/-- Whether a string literal begins here, with or without a prefix letter. -/
def beginsString : List Char → Bool
  | c :: rest => isQuote c || (isStringPrefix c && rest.head?.any isQuote)
  | [] => false

/-- Reads the literals that follow with nothing but blanks between them, and joins them. -/
def readAdjacent : (fuel : Nat) → List Char → Step (List Char)
  | 0, text => .ok ([], text)
  | fuel + 1, text =>
    let next := skipBlanks text
    if beginsString next then
      match readString next with
      | .ok (chars, rest) => prepend chars (readAdjacent fuel rest)
      | .error fault => .error fault
    else .ok ([], text)

/-- Reads one or more adjacent literals as one text. -/
def readStrings (text : List Char) : Step (List Char) :=
  match readString text with
  | .ok (chars, rest) => prepend chars (readAdjacent rest.length rest)
  | .error fault => .error fault

end NotebookLint.Literal
