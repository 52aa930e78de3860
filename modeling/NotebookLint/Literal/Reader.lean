import NotebookLint.Literal.Number
import NotebookLint.Literal.Quoted
import NotebookLint.Text.Letter

/-!
# Reading a literal

The restricted expression grammar of parameter defaults: constants, signed numbers, adjacent
strings, and bracketed lists and dictionaries, with blanks around every token. The recursion is
on the number of brackets that may still be opened, so the nesting limit is the recursion's
measure; the loops over items count down the unread characters.
-/

namespace NotebookLint.Literal

open NotebookLint.Text

/-- The number of brackets that may be open at once. -/
def maxNesting : Nat := 128

/-- Whether a character begins a number. -/
def beginsNumber (c : Char) : Bool :=
  c.isDigit || c == '.'

/-- Whether a character begins a word. -/
def beginsWord (c : Char) : Bool :=
  isAlphabetic c || c == '_'

/-- Whether a character continues a word. -/
def continuesWord (c : Char) : Bool :=
  isAlphanumeric c || c == '_'

/-- The constant that a word names. -/
def constant? (word : List Char) : Option Value :=
  if word = ['T', 'r', 'u', 'e'] then some (.bool true)
  else if word = ['F', 'a', 'l', 's', 'e'] then some (.bool false)
  else if word = ['N', 'o', 'n', 'e'] then some .null
  else none

/-- A text as a value. -/
def textStep : Step (List Char) → Step Value
  | .ok (chars, rest) => .ok (.text (String.ofList chars), rest)
  | .error fault => .error fault

/-- Reads a word: a constant, or a prefix letter with the string it belongs to. -/
def readWord (text : List Char) : Step Value :=
  let word := text.takeWhile continuesWord
  let rest := text.dropWhile continuesWord
  if rest.head?.any isQuote then
    match word with
    | [letter] =>
      if isStringPrefix letter then textStep (readStrings text)
      else .error ⟨text, .unsupportedPrefix (String.ofList word)⟩
    | _ => .error ⟨text, .unsupportedPrefix (String.ofList word)⟩
  else
    match constant? word with
    | some value => .ok (value, rest)
    | none => .error ⟨text, .unsupportedName (String.ofList word)⟩

/-- Reads a number after its sign. -/
def readSigned (negative : Bool) (text : List Char) : Step Value :=
  let number := skipBlanks text
  if number.head?.any beginsNumber then readNumber negative number
  else .error ⟨number, .signWithoutNumber⟩

/-- Reads comma separated items up to and with the closing bracket, and reports whether a comma
follows the last item. -/
def readItems (element : List Char → Step Value) (close : Char) :
    (fuel : Nat) → (trailing : Bool) → List Char → Step (List Value × Bool)
  | 0, _, text => .error ⟨text, .itemNotSeparated close⟩
  | fuel + 1, trailing, text =>
    let text := skipBlanks text
    if text.head? = some close then .ok (([], trailing), text.tail)
    else
      match element text with
      | .error fault => .error fault
      | .ok (item, rest) =>
        match skipBlanks rest with
        | [] => .error ⟨[], .itemNotSeparated close⟩
        | c :: rest =>
          if c = ',' then
            match readItems element close fuel true rest with
            | .ok ((items, trailing), rest) => .ok ((item :: items, trailing), rest)
            | .error fault => .error fault
          else if c = close then .ok (([item], false), rest)
          else .error ⟨c :: rest, .itemNotSeparated close⟩

/-- Reads a dictionary key with its colon. -/
def readKey (element : List Char → Step Value) (text : List Char) : Step String :=
  match element text with
  | .error fault => .error fault
  | .ok (.text key, rest) =>
    match skipBlanks rest with
    | ':' :: rest => .ok (key, rest)
    | ',' :: rest => .error ⟨',' :: rest, .setNotSupported⟩
    | '}' :: rest => .error ⟨'}' :: rest, .setNotSupported⟩
    | rest => .error ⟨rest, .colonMissing⟩
  | .ok _ => .error ⟨text, .keyNotText⟩

/-- Reads comma separated pairs up to and with the closing brace. -/
def readPairs (element : List Char → Step Value) :
    (fuel : Nat) → List Char → Step (List (String × Value))
  | 0, text => .error ⟨text, .itemNotSeparated '}'⟩
  | fuel + 1, text =>
    let text := skipBlanks text
    if text.head? = some '}' then .ok ([], text.tail)
    else
      match readKey element text with
      | .error fault => .error fault
      | .ok (key, rest) =>
        match element rest with
        | .error fault => .error fault
        | .ok (value, rest) =>
          match skipBlanks rest with
          | ',' :: rest =>
            match readPairs element fuel rest with
            | .ok (pairs, rest) => .ok ((key, value) :: pairs, rest)
            | .error fault => .error fault
          | '}' :: rest => .ok ([(key, value)], rest)
          | rest => .error ⟨rest, .itemNotSeparated '}'⟩

/-- Reads a bracketed literal from its opening bracket on. Round brackets around one item
without a comma only group. -/
def readBracketed (element : List Char → Step Value) : List Char → Step Value
  | '[' :: rest =>
    match readItems element ']' (rest.length + 1) false rest with
    | .ok ((items, _), rest) => .ok (.list items, rest)
    | .error fault => .error fault
  | '(' :: rest =>
    match readItems element ')' (rest.length + 1) false rest with
    | .ok (([item], false), rest) => .ok (item, rest)
    | .ok ((items, _), rest) => .ok (.list items, rest)
    | .error fault => .error fault
  | '{' :: rest =>
    match readPairs element (rest.length + 1) rest with
    | .ok (pairs, rest) => .ok (.dict (Entries.ofList pairs), rest)
    | .error fault => .error fault
  | text => .error ⟨text, .unexpectedEnd⟩

/-- Whether a character opens a bracket. -/
def isOpening (c : Char) : Bool :=
  c == '[' || c == '(' || c == '{'

/-- Reads a value after skipping blanks, with a given reader for bracketed literals. -/
def readWith (bracketed : List Char → Step Value) (text : List Char) : Step Value :=
  match skipBlanks text with
  | [] => .error ⟨[], .unexpectedEnd⟩
  | c :: rest =>
    if isOpening c then bracketed (c :: rest)
    else if isQuote c then textStep (readStrings (c :: rest))
    else if c = '-' then readSigned true rest
    else if c = '+' then readSigned false rest
    else if beginsNumber c then readNumber false (c :: rest)
    else if beginsWord c then readWord (c :: rest)
    else .error ⟨c :: rest, .unsupportedSyntax c⟩

/-- Reads a value in which at most `room` more brackets may be open at once. -/
def readValue : (room : Nat) → List Char → Step Value
  | 0 => readWith fun text => .error ⟨text, .nestingTooDeep⟩
  | room + 1 => readWith (readBracketed (readValue room))

/-- Reads a text that holds exactly one literal, with blanks around it. -/
def readWhole (text : List Char) : Except Fault Value :=
  if isBlankText text then .error ⟨[], .emptyExpression⟩
  else
    match readValue maxNesting text with
    | .error fault => .error fault
    | .ok (value, rest) =>
      match skipBlanks rest with
      | [] => .ok value
      | rest => .error ⟨rest, .trailingInput⟩

/-- The value that a literal denotes, or why and where it is refused. -/
def read (source : String) : Except Error Value :=
  (readWhole source.toList).mapError (Fault.located source.toList)

end NotebookLint.Literal
