import NotebookLint.Text.Hexadecimal
import NotebookLint.Yaml.Cursor

/-!
# Scalars that flow over lines

Quoted and plain scalars may go on over several lines. The spaces around a line break do not
count; a single break reads as a space, and of several all but the first stay.
-/

namespace NotebookLint.Yaml

/-- What stands between the characters of a scalar that count and the next one. -/
inductive Gap where
  /-- Nothing. -/
  | none
  /-- Spaces. -/
  | spaces (text : List Char)
  /-- Line breaks; the first is missing after an escaped one. -/
  | breaks (first more : List Char)
  deriving DecidableEq, Repr

namespace Gap

/-- A gap with a space more. Spaces around line breaks do not count. -/
def addSpace (c : Char) : Gap → Gap
  | .none => .spaces [c]
  | .spaces text => .spaces (text ++ [c])
  | .breaks first more => .breaks first more

/-- A gap with a line break more. -/
def addBreak (text : List Char) : Gap → Gap
  | .none | .spaces _ => .breaks text []
  | .breaks first more => .breaks first (more ++ text)

/-- What a gap reads as. -/
def text : Gap → List Char
  | .none => []
  | .spaces text => text
  | .breaks first more =>
    if first = ['\n'] then (if more.isEmpty then [' '] else more) else first ++ more

/-- Whether there is a line break in a gap. -/
def hasBreak : Gap → Bool
  | .breaks _ _ => true
  | _ => false

end Gap

/-- What the characters after a backslash stand for, and how many they are. -/
def unescape : List Char → Option (Char × Nat)
  | '0' :: _ => some ('\x00', 1)
  | 'a' :: _ => some ('\x07', 1)
  | 'b' :: _ => some ('\x08', 1)
  | 't' :: _ | '\t' :: _ => some ('\t', 1)
  | 'n' :: _ => some ('\n', 1)
  | 'v' :: _ => some ('\x0b', 1)
  | 'f' :: _ => some ('\x0c', 1)
  | 'r' :: _ => some ('\r', 1)
  | 'e' :: _ => some ('\x1b', 1)
  | ' ' :: _ => some (' ', 1)
  | '"' :: _ => some ('"', 1)
  | '/' :: _ => some ('/', 1)
  | '\\' :: _ => some ('\\', 1)
  | 'N' :: _ => some (Char.ofNat 0x85, 1)
  | '_' :: _ => some (Char.ofNat 0xA0, 1)
  | 'L' :: _ => some (Char.ofNat 0x2028, 1)
  | 'P' :: _ => some (Char.ofNat 0x2029, 1)
  | 'x' :: rest => named 2 rest
  | 'u' :: rest => named 4 rest
  | 'U' :: rest => named 8 rest
  | _ => none
where
  /-- The character that so many hexadecimal digits name. -/
  named (count : Nat) (rest : List Char) : Option (Char × Nat) :=
    (Text.hexPrefix count 0 rest).bind fun code =>
      if code.isValidChar then some (Char.ofNat code, count + 1) else none

/-- Reads a quoted scalar after its opening quote, with fuel for its characters: what it says,
and the place after its closing quote. -/
def quotedScalar (quote : Char) : (fuel : Nat) → Gap → Cursor → Option (List Char × Cursor)
  | 0, _, _ => none
  | fuel + 1, gap, cursor =>
    match cursor.rest with
    | [] => none
    | c :: rest =>
      let put (chars : List Char) (gap : Gap) (cursor : Cursor) : Option (List Char × Cursor) :=
        (quotedScalar quote fuel gap cursor).map fun (more, after) => (chars ++ more, after)
      if isSpace c then quotedScalar quote fuel (gap.addSpace c) (cursor.skip 1)
      else if isBreak c then
        let (text, next) := cursor.takeBreak
        quotedScalar quote fuel (gap.addBreak text) next
      else if cursor.seesDocumentMark then none
      else if c = quote then
        if quote = '\'' ∧ rest.head? = some '\'' then put (gap.text ++ [c]) .none (cursor.skip 2)
        else some (gap.text, cursor.skip 1)
      else if c = '\\' ∧ quote = '"' then
        if (cursor.skip 1).sees isBreak then
          put gap.text (.breaks [] []) (cursor.skip 1).takeBreak.2
        else
          (unescape rest).bind fun (char, count) =>
            put (gap.text ++ [char]) .none (cursor.skip (1 + count))
      else put (gap.text ++ [c]) .none (cursor.skip 1)

/-- The indicators that end a plain scalar inside brackets. -/
def flowIndicators : List Char := [',', '[', ']', '\x7b', '\x7d']

/-- Whether a plain scalar ends before the next character, which is no blank. -/
def endsPlain (inFlow : Bool) (indent : Int) (gap : Gap) (cursor : Cursor) : Bool :=
  (gap != .none &&
      ((!inFlow && decide ((cursor.column : Int) < indent)) || cursor.seesDocumentMark ||
        cursor.sees (· == '#'))) ||
    (cursor.sees (· == ':') && cursor.endsAt 1) ||
    (inFlow && cursor.sees flowIndicators.contains)

/-- Reads a plain scalar, with fuel for its characters: what it says, the place after it, and
whether line breaks were passed at its end. -/
def plainScalar (inFlow : Bool) (indent : Int) :
    (fuel : Nat) → Gap → Cursor → Option (List Char × Cursor × Bool)
  | 0, _, _ => none
  | fuel + 1, gap, cursor =>
    match cursor.rest with
    | [] => some ([], cursor, gap.hasBreak)
    | c :: rest =>
      if isSpace c then
        if c = '\t' ∧ gap.hasBreak ∧ (cursor.column : Int) < indent then none
        else plainScalar inFlow indent fuel (gap.addSpace c) (cursor.skip 1)
      else if isBreak c then
        let (text, next) := cursor.takeBreak
        plainScalar inFlow indent fuel (gap.addBreak text) next
      else if endsPlain inFlow indent gap cursor then some ([], cursor, gap.hasBreak)
      else if inFlow && c == ':' && rest.head?.any ('?' :: flowIndicators).contains then none
      else
        (plainScalar inFlow indent fuel .none (cursor.skip 1)).map fun (more, after) =>
          (gap.text ++ c :: more, after)

end NotebookLint.Yaml
