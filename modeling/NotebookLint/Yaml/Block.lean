import NotebookLint.Text.Utf8
import NotebookLint.Value
import NotebookLint.Yaml.Character
import NotebookLint.Yaml.Scalar

/-!
# Writing parameters as YAML

Parameters are written in block style. A text stands plain where no indicator, blank or line
break forbids it and where it would not be read as something else; with line feeds it stands as
a literal block; otherwise it stands between single quotes, or between double quotes if it holds
characters that need an escape.
-/

namespace NotebookLint.Yaml

/-- Whether a character may be written without an escape. -/
def isPrintable (c : Char) : Bool :=
  let n := c.toNat
  n == 0x0A || (0x20 ≤ n && n ≤ 0x7E) || (0xA0 ≤ n && n ≤ 0xD7FF) ||
    (0xE000 ≤ n && n ≤ 0xFFFD && n != 0xFEFF)

/-- What may be said of a text before its style is chosen. -/
structure Traits where
  /-- There is a line break. -/
  multiline : Bool
  /-- It may stand plain in a block. -/
  plainAllowed : Bool
  /-- It may stand between single quotes. -/
  singleQuotedAllowed : Bool
  /-- It may stand as a literal block. -/
  blockAllowed : Bool
  deriving DecidableEq, Repr

/-- Whether the first character of a text, followed by another, begins something other than a
plain scalar. -/
def isLeadingIndicator (c : Char) (next : Option Char) : Bool :=
  leadingIndicators.contains c ||
    ((c == '?' || c == ':' || c == '-') && endsToken next)

/-- Whether somewhere after the first character a colon ends a key or a hash begins a comment.
`previous` is the character before the text. -/
def hasInnerIndicator : (previous : Char) → List Char → Bool
  | _, [] => false
  | previous, c :: rest =>
    (c == ':' && endsToken rest.head?) || (c == '#' && endsToken (some previous)) ||
      hasInnerIndicator c rest

/-- Whether two neighbouring characters satisfy two conditions. -/
def hasNeighbours (first second : Char → Bool) : List Char → Bool
  | a :: b :: rest => (first a && second b) || hasNeighbours first second (b :: rest)
  | _ => false

/-- The traits of a text. -/
def traits (text : List Char) : Traits :=
  match text with
  | [] => ⟨false, true, true, false⟩
  | first :: rest =>
    let isSpace (c : Char) : Bool := c == ' '
    let isEdge (c : Option Char) : Bool := c.any fun c => isSpace c || isBreak c
    let indicator := "---".toList.isPrefixOf text || "...".toList.isPrefixOf text ||
      isLeadingIndicator first rest.head? || hasInnerIndicator first rest
    let special := text.any fun c => !isPrintable c
    let multiline := text.any isBreak
    let spaceBreak := hasNeighbours isSpace isBreak text
    let breakSpace := hasNeighbours isBreak isSpace text
    let edge := isEdge text.head? || isEdge text.getLast?
    { multiline := multiline
      plainAllowed := !(edge || breakSpace || spaceBreak || special || multiline || indicator)
      singleQuotedAllowed := !(breakSpace || spaceBreak || special)
      blockAllowed := !(text.getLast? == some ' ' || spaceBreak || special) }

/-- The styles in which a text can be written. -/
inductive Style where
  /-- As it is. -/
  | plain
  /-- Between single quotes. -/
  | singleQuoted
  /-- Between double quotes, with escapes. -/
  | doubleQuoted
  /-- As a block of lines. -/
  | literal
  deriving DecidableEq, Repr

/-- The style that a text calls for by what it says. -/
def wantedStyle (text : List Char) : Style :=
  if text.contains '\n' then .literal
  else
    match plain text with
    | .text _ => if hasLeadingZero text then .singleQuoted else .plain
    | _ => .singleQuoted

/-- The style in which a text is written, as a key on one line or anywhere else. -/
def styleOf (simpleKey : Bool) (text : List Char) : Style :=
  let traits := traits text
  let wanted : Style :=
    if simpleKey && traits.multiline then .doubleQuoted else wantedStyle text
  let allowed : Style :=
    if wanted = .plain && (!traits.plainAllowed || (text.isEmpty && simpleKey)) then .singleQuoted
    else wanted
  match allowed with
  | .singleQuoted => if traits.singleQuotedAllowed then .singleQuoted else .doubleQuoted
  | .literal => if traits.blockAllowed && !simpleKey then .literal else .doubleQuoted
  | other => other

/-- Spaces up to a column. -/
def spaces (count : Nat) : List Char := List.replicate count ' '

/-- The inside of a single quoted text, with the continuation lines after special line breaks at
the given column. -/
def singleQuotedBody (column : Nat) : (afterBreak : Bool) → List Char → List Char
  | afterBreak, [] => if afterBreak then spaces column else []
  | afterBreak, c :: rest =>
    if c = ' ' then c :: singleQuotedBody column afterBreak rest
    else if isBreak c then c :: singleQuotedBody column true rest
    else
      (if afterBreak then spaces column else []) ++ (if c = '\'' then ['\'', c] else [c]) ++
        singleQuotedBody column false rest

/-- A number in hexadecimal capitals with leading zeros up to a width. -/
def hexDigits (width n : Nat) : List Char :=
  let digits := (Nat.toDigits 16 n).map Char.toUpper
  List.replicate (width - digits.length) '0' ++ digits

/-- The escape of a character after its backslash. -/
def escapeOf (c : Char) : List Char :=
  match c.toNat with
  | 0x00 => ['0']
  | 0x07 => ['a']
  | 0x08 => ['b']
  | 0x09 => ['t']
  | 0x0A => ['n']
  | 0x0B => ['v']
  | 0x0C => ['f']
  | 0x0D => ['r']
  | 0x1B => ['e']
  | 0x22 => ['"']
  | 0x5C => ['\\']
  | 0x85 => ['N']
  | 0xA0 => ['_']
  | 0x2028 => ['L']
  | 0x2029 => ['P']
  | n =>
    if n ≤ 0xFF then 'x' :: hexDigits 2 n
    else if n ≤ 0xFFFF then 'u' :: hexDigits 4 n
    else 'U' :: hexDigits 8 n

/-- A character between double quotes. -/
def doubleQuotedChar (c : Char) : List Char :=
  if !isPrintable c || isBreak c || c = '"' || c = '\\' then '\\' :: escapeOf c else [c]

/-- The lines of a literal block at the given column. -/
def literalBody (column : Nat) : (afterBreak : Bool) → List Char → List Char
  | _, [] => []
  | afterBreak, c :: rest =>
    if isBreak c then c :: literalBody column true rest
    else (if afterBreak then spaces column else []) ++ c :: literalBody column false rest

/-- The header of a literal block: whether it begins with blanks, and what its end is. -/
def literalHeader (text : List Char) : List Char :=
  let indent := if text.head?.any (fun c => c == ' ' || isBreak c) then ['2'] else []
  let chomp := match text.reverse with
    | [] => ['-']
    | last :: before =>
      if !isBreak last then ['-']
      else if before.head?.all isBreak then ['+'] else []
  '|' :: indent ++ chomp

/-- A text in its style, with further lines at the given column. -/
def scalarText (simpleKey : Bool) (column : Nat) (text : List Char) : List Char :=
  match styleOf simpleKey text with
  | .plain => text
  | .singleQuoted => '\'' :: singleQuotedBody column false text ++ ['\'']
  | .doubleQuoted => '"' :: text.flatMap doubleQuotedChar ++ ['"']
  | .literal => literalHeader text ++ '\n' :: literalBody column true text

/-- A text that the next line can follow: literal blocks may already have ended their line. -/
def endLine (text : List Char) : List Char :=
  if text.getLast?.any isBreak then text else text ++ ['\n']

/-- Whether a key can stand on the line of its value. -/
def isSimpleKey (key : List Char) : Bool :=
  !(traits key).multiline && Text.byteLength key ≤ 128

/-- A number as a scalar. -/
def numberText : Value → List Char
  | .int n => (toString n).toList
  | .float x => (Binary64.plainText x).toList
  | .bool true => "true".toList
  | .bool false => "false".toList
  | _ => "null".toList

mutual

/-- A value that begins on the line of its indicator. Collections put their first entry on that
line, at the given column. -/
def compact (column : Nat) : Value → List Char
  | .text text => scalarText false column text.toList
  | .list [] => "[]".toList
  | .list items => listText column items
  | .dict [] => "{}".toList
  | .dict entries => dictText column entries
  | .null => numberText .null
  | .bool value => numberText (.bool value)
  | .int value => numberText (.int value)
  | .float value => numberText (.float value)

/-- Items at a column, the first without its indentation. -/
def listText (column : Nat) : List Value → List Char
  | [] => []
  | [item] => '-' :: ' ' :: compact (column + 2) item
  | item :: items =>
    endLine ('-' :: ' ' :: compact (column + 2) item) ++ spaces column ++ listText column items

/-- A value after its key on one line, in a dictionary at the given column. -/
def afterKey (column : Nat) : Value → List Char
  | .list [] => " []".toList
  | .list items => '\n' :: spaces column ++ listText column items
  | .dict [] => " {}".toList
  | .dict entries => '\n' :: spaces (column + 2) ++ dictText (column + 2) entries
  | .text text => ' ' :: scalarText false (column + 2) text.toList
  | .null => ' ' :: numberText .null
  | .bool value => ' ' :: numberText (.bool value)
  | .int value => ' ' :: numberText (.int value)
  | .float value => ' ' :: numberText (.float value)

/-- Entries at a column, the first without its indentation. -/
def dictText (column : Nat) : List (String × Value) → List Char
  | [] => []
  | (key, value) :: entries =>
    let text :=
      if isSimpleKey key.toList then
        scalarText true (column + 2) key.toList ++ ':' :: afterKey column value
      else
        endLine ('?' :: ' ' :: scalarText false (column + 2) key.toList) ++ spaces column ++
          ':' :: ' ' :: compact (column + 2) value
    if entries.isEmpty then text else endLine text ++ spaces column ++ dictText column entries

end

/-- The document of a parameter bag. -/
def document (bag : ParameterBag) : String :=
  String.ofList (endLine (compact 0 (.dict bag)))

end NotebookLint.Yaml
