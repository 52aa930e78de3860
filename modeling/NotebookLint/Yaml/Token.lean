import NotebookLint.Literal.Number
import NotebookLint.Text.Hexadecimal
import NotebookLint.Text.Utf8
import NotebookLint.Yaml.BlockScalar
import NotebookLint.Yaml.FlowScalar

/-!
# YAML tokens

The tokens of a document. Indentation becomes tokens that open and close collections, and a
scalar on one line that a colon follows becomes a key: the token that announces the key is put in
before the scalar once the colon is met.
-/

namespace NotebookLint.Yaml

/-- How a scalar is written. -/
inductive ScalarForm where
  /-- Without quotes. -/
  | plain
  /-- Between quotes. -/
  | quoted
  /-- As a block of lines. -/
  | literal
  /-- As a block of lines that flow together. -/
  | folded
  deriving DecidableEq, Repr

/-- A token. -/
inductive Token where
  /-- The declaration of the version. -/
  | version (major minor : Nat)
  /-- The declaration of a tag handle. -/
  | tagHandle (handle start : String)
  /-- The mark at the beginning of a document. -/
  | documentStart
  /-- The mark at the end of a document. -/
  | documentEnd
  /-- The beginning of a block sequence. -/
  | blockSequenceStart
  /-- The beginning of a block mapping. -/
  | blockMappingStart
  /-- The end of a block collection. -/
  | blockEnd
  /-- The beginning of a sequence in brackets. -/
  | flowSequenceStart
  /-- The end of a sequence in brackets. -/
  | flowSequenceEnd
  /-- The beginning of a mapping in braces. -/
  | flowMappingStart
  /-- The end of a mapping in braces. -/
  | flowMappingEnd
  /-- The sign before an item of a block sequence. -/
  | blockEntry
  /-- The sign between items in brackets or braces. -/
  | flowEntry
  /-- The sign before a key. -/
  | key
  /-- The sign before a value. -/
  | value
  /-- The use of a name for a node. -/
  | alias (name : String)
  /-- The name of the following node. -/
  | anchor (name : String)
  /-- The tag of the following node. -/
  | tag (handle suffix : String)
  /-- A scalar. -/
  | scalar (form : ScalarForm) (text : String)
  deriving DecidableEq, Repr

/-- A token that may turn out to begin a key. -/
structure KeyCandidate where
  /-- The number of tokens before it. -/
  place : Nat
  /-- Whether nothing but a key may stand there. -/
  required : Bool
  /-- Where it begins: the number of characters, lines and columns before it. -/
  index : Nat
  /-- The number of lines before it. -/
  line : Nat
  /-- The number of characters before it on its line. -/
  column : Nat
  deriving DecidableEq, Repr

/-- The state of cutting a text into tokens. -/
structure Scan where
  /-- The unread text. -/
  cursor : Cursor
  /-- The tokens so far. -/
  tokens : Array Token
  /-- The column of the innermost block collection, or -1. -/
  indent : Int
  /-- The columns of the block collections around it, from the inside. -/
  outer : List Int
  /-- The key candidate of each open bracket from the inside, that of the block last. -/
  candidates : List (Option KeyCandidate)
  /-- Whether a key may begin here. -/
  keyAllowed : Bool

namespace Scan

/-- The state before a text. -/
def start (text : List Char) : Scan := ⟨.start text, #[], -1, [], [none], true⟩

/-- Whether a bracket or brace is open. -/
def inFlow (scan : Scan) : Bool := 1 < scan.candidates.length

/-- Adds a token. -/
def emit (scan : Scan) (token : Token) : Scan :=
  { scan with tokens := scan.tokens.push token }

/-- Passes characters of the line. -/
def skip (scan : Scan) (count : Nat) : Scan := { scan with cursor := scan.cursor.skip count }

/-- Sets whether a key may begin next. -/
def allowKey (scan : Scan) (allowed : Bool) : Scan := { scan with keyAllowed := allowed }

/-- Gives up the key candidate, which must not be a required one. -/
def dropCandidate (scan : Scan) : Option Scan :=
  match scan.candidates with
  | some candidate :: rest =>
    if candidate.required then none else some { scan with candidates := none :: rest }
  | _ => some scan

/-- Notes that a key may begin here. -/
def noteCandidate (scan : Scan) : Option Scan :=
  if scan.keyAllowed then
    (scan.dropCandidate).map fun scan =>
      let cursor := scan.cursor
      let required := !scan.inFlow && scan.indent == (cursor.column : Int)
      { scan with
        candidates :=
          some ⟨scan.tokens.size, required, cursor.index, cursor.line, cursor.column⟩ ::
            scan.candidates.tail }
  else some scan

/-- Whether a candidate can no longer be a key: it is on an earlier line or too long. -/
def isStale (cursor : Cursor) (candidate : KeyCandidate) : Bool :=
  candidate.line < cursor.line || candidate.index + 1024 < cursor.index

/-- Gives up the candidates that can no longer be keys. -/
def dropStale (scan : Scan) : Option Scan :=
  let stale (candidate : Option KeyCandidate) : Bool := candidate.any (isStale scan.cursor)
  if scan.candidates.any fun candidate =>
      stale candidate && candidate.any KeyCandidate.required then none
  else
    some { scan with
      candidates := scan.candidates.map fun candidate =>
        if stale candidate then none else candidate }

/-- Opens a block collection at a column unless one is open there; its token is put before the
token at a place. -/
def openBlock (scan : Scan) (column place : Nat) (token : Token) : Scan :=
  if !scan.inFlow && decide (scan.indent < (column : Int)) then
    { scan with
      tokens := scan.tokens.insertIdxIfInBounds place token
      indent := column
      outer := scan.indent :: scan.outer }
  else scan

/-- Closes the block collections that are deeper than a column, given the columns around them. -/
def closeBlocks (column : Int) : (outer : List Int) → (indent : Int) → Array Token →
    Array Token × Int × List Int
  | [], indent, tokens => (tokens, indent, [])
  | next :: outer, indent, tokens =>
    if column < indent then closeBlocks column outer next (tokens.push .blockEnd)
    else (tokens, indent, next :: outer)

/-- Closes the block collections that are deeper than a column. -/
def closeTo (scan : Scan) (column : Int) : Scan :=
  if scan.inFlow then scan
  else
    let (tokens, indent, outer) := closeBlocks column scan.outer scan.indent scan.tokens
    { scan with tokens := tokens, indent := indent, outer := outer }

/-- Passes blanks, comments and line breaks, with fuel for the lines. A tab is no blank where a
key may begin in a block. -/
def toNextToken : (fuel : Nat) → Scan → Scan
  | 0, scan => scan
  | fuel + 1, scan =>
    let cursor := scan.cursor
    let cursor :=
      if cursor.index == 0 && cursor.sees (· == '\ufeff') then cursor.skip 1 else cursor
    let tabs := scan.inFlow || !scan.keyAllowed
    let cursor := cursor.skipWhile fun c => c == ' ' || (tabs && c == '\t')
    let cursor := if cursor.sees (· == '#') then cursor.skipLine else cursor
    if cursor.sees isBreak then
      toNextToken fuel
        { scan with
          cursor := cursor.takeBreak.2, keyAllowed := scan.keyAllowed || !scan.inFlow }
    else { scan with cursor := cursor }

/-- A mark between documents. -/
def documentMark (scan : Scan) (token : Token) : Option Scan :=
  ((scan.closeTo (-1)).dropCandidate).map fun scan =>
    ((scan.allowKey false).skip 3).emit token

/-- An opening bracket or brace. -/
def openFlow (scan : Scan) (token : Token) : Option Scan :=
  scan.noteCandidate.map fun scan =>
    (({ scan with candidates := none :: scan.candidates }.allowKey true).skip 1).emit token

/-- A closing bracket or brace. -/
def closeFlow (scan : Scan) (token : Token) : Option Scan :=
  scan.dropCandidate.map fun scan =>
    let candidates := if scan.inFlow then scan.candidates.tail else scan.candidates
    (({ scan with candidates := candidates }.allowKey false).skip 1).emit token

/-- A comma. -/
def flowEntry (scan : Scan) : Option Scan :=
  scan.dropCandidate.map fun scan => ((scan.allowKey true).skip 1).emit .flowEntry

/-- The sign before an item or a key in a block, which may stand only where a key may. -/
def blockSign (scan : Scan) (collection token : Token) (keyAllowed : Bool) : Option Scan :=
  if !scan.inFlow && !scan.keyAllowed then none
  else
    ((scan.openBlock scan.cursor.column scan.tokens.size collection).dropCandidate).map fun scan =>
      ((scan.allowKey keyAllowed).skip 1).emit token

/-- A colon before a value. If a key candidate stands before it, that is the key. -/
def valueSign (scan : Scan) : Option Scan :=
  match scan.candidates with
  | some candidate :: rest =>
    let keyed := { scan with
      tokens := scan.tokens.insertIdxIfInBounds candidate.place .key
      candidates := none :: rest }
    let opened := keyed.openBlock candidate.column candidate.place .blockMappingStart
    some (((opened.allowKey false).skip 1).emit .value)
  | _ =>
    if !scan.inFlow && !scan.keyAllowed then none
    else
      let opened := scan.openBlock scan.cursor.column scan.tokens.size .blockMappingStart
      some (((opened.allowKey (!scan.inFlow)).skip 1).emit .value)

/-- A token that is read from the place of the state and may begin a key. -/
def nodeToken (scan : Scan) (read : Cursor → Option (Token × Cursor)) : Option Scan :=
  scan.noteCandidate.bind fun scan =>
    (read scan.cursor).map fun (token, after) =>
      ({ scan with cursor := after }.allowKey false).emit token

/-- The signs that may follow a name without a blank. -/
def nameEnds : List Char := ['?', ':', ',', ']', '\x7d', '%', '@', '\x60']

/-- The name after an ampersand or a star. -/
def readName (make : String → Token) (cursor : Cursor) : Option (Token × Cursor) :=
  let (name, after) := (cursor.skip 1).takeWhile isNameChar
  let isEnded := after.endsAt 0 || after.sees nameEnds.contains
  if name.isEmpty || !isEnded then none else some (make (String.ofList name), after)

/-- Whether a character may stand in a tag; commas and brackets only in a verbatim one. -/
def isTagChar (verbatim : Bool) (c : Char) : Bool :=
  isNameChar c || [';', '/', '?', ':', '@', '&', '=', '+', '$', '.', '!', '~', '*', '\'', '(', ')',
    '%'].contains c || (verbatim && [',', '[', ']'].contains c)

/-- The bytes of a tag with its percent escapes resolved. -/
def unescapeTag : List Char → Option (List UInt8)
  | [] => some []
  | '%' :: a :: b :: rest =>
    (Text.hexPrefix 2 0 [a, b]).bind fun byte =>
      (unescapeTag rest).map (UInt8.ofNat byte :: ·)
  | '%' :: _ => none
  | c :: rest => (unescapeTag rest).map (Text.encode [c] ++ ·)

/-- The characters of a tag, and the place after them. -/
def readTagText (verbatim : Bool) (cursor : Cursor) : Option (List Char × Cursor) :=
  let (text, after) := cursor.takeWhile (isTagChar verbatim)
  ((unescapeTag text).bind Text.decodeStrict).map fun text => (text, after)

/-- A tag handle: an exclamation mark, or a name between two of them. Without a second one the
name is no handle. -/
def readHandle (cursor : Cursor) : Option (List Char × Cursor) :=
  if cursor.sees (· == '!') then
    let (name, after) := (cursor.skip 1).takeWhile isNameChar
    if after.sees (· == '!') then some ('!' :: name ++ ['!'], after.skip 1)
    else some ('!' :: name, after)
  else none

/-- The parts of a tag. -/
def readTagParts (cursor : Cursor) : Option (List Char × List Char × Cursor) :=
  if (cursor.skip 1).sees (· == '<') then
    match readTagText true (cursor.skip 2) with
    | some (text, after) =>
      if !text.isEmpty && after.sees (· == '>') then some ([], text, after.skip 1) else none
    | none => none
  else
    match readHandle cursor with
    | none => none
    | some (handle, after) =>
      if 1 < handle.length && handle.getLast? == some '!' then
        (readTagText false after).bind fun (text, after) =>
          if text.isEmpty then none else some (handle, text, after)
      else
        (readTagText false after).map fun (text, after) =>
          let suffix := handle.drop 1 ++ text
          if suffix.isEmpty then ([], ['!'], after) else (['!'], suffix, after)

/-- A tag. -/
def readTag (inFlow : Bool) (cursor : Cursor) : Option (Token × Cursor) :=
  (readTagParts cursor).bind fun (handle, suffix, after) =>
    if after.endsAt 0 || (inFlow && after.sees (· == ',')) then
      some (.tag (String.ofList handle) (String.ofList suffix), after)
    else none

/-- A quoted scalar. -/
def readQuoted (quote : Char) (cursor : Cursor) : Option (Token × Cursor) :=
  (quotedScalar quote (cursor.rest.length + 1) .none (cursor.skip 1)).map fun (text, after) =>
    (.scalar .quoted (String.ofList text), after)

/-- A block scalar. -/
def blockScalarToken (scan : Scan) (folded : Bool) : Option Scan :=
  scan.dropCandidate.bind fun scan =>
    (blockScalar folded scan.indent (scan.cursor.skip 1)).map fun (text, after) =>
      ({ scan with cursor := after }.allowKey true).emit
        (.scalar (if folded then .folded else .literal) (String.ofList text))

/-- A plain scalar. After line breaks at its end a key may begin. -/
def plainToken (scan : Scan) : Option Scan :=
  scan.noteCandidate.bind fun scan =>
    (plainScalar scan.inFlow (scan.indent + 1) (scan.cursor.rest.length + 1) .none
        scan.cursor).map fun (text, after, broken) =>
      ({ scan with cursor := after }.allowKey broken).emit
        (.scalar .plain (String.ofList text))

/-- A decimal number of at most nine digits, and the place after it. -/
def readVersionPart (cursor : Cursor) : Option (Nat × Cursor) :=
  let (digits, after) := cursor.takeWhile Char.isDigit
  if 9 < digits.length then none
  else (Literal.natOfDigits 10 digits).map fun n => (n, after)

/-- The version in a directive. -/
def readVersion (cursor : Cursor) : Option (Token × Cursor) := do
  let (major, after) ← readVersionPart cursor
  if after.sees (· == '.') then
    let (minor, after) ← readVersionPart (after.skip 1)
    some (.version major minor, after)
  else none

/-- The tag handle in a directive. -/
def readTagDirective (cursor : Cursor) : Option (Token × Cursor) := do
  let (handle, after) ← readHandle cursor
  if handle ≠ ['!'] ∧ (handle.length = 1 ∨ handle.getLast? ≠ some '!') then none
  else if !after.sees isSpace then none
  else
    let (start, last) ← readTagText true (after.skipWhile isSpace)
    if start.isEmpty || !last.endsAt 0 then none
    else some (.tagHandle (String.ofList handle) (String.ofList start), last)

/-- A directive line. -/
def directive (scan : Scan) : Option Scan := do
  let scan ← (scan.closeTo (-1)).dropCandidate
  let (name, after) := (scan.cursor.skip 1).takeWhile isNameChar
  if !after.endsAt 0 then none
  else
    let place := after.skipWhile isSpace
    let (token, after) ← match String.ofList name with
      | "YAML" => readVersion place
      | "TAG" => readTagDirective place
      | _ => none
    let next ← after.skipToNextLine?
    some (({ scan with cursor := next }.allowKey false).emit token)

/-- Whether a plain scalar may begin with the next character. -/
def beginsPlain (scan : Scan) : Bool :=
  let blankAfter := scan.cursor.endsAt 1
  match scan.cursor.peek? with
  | none => false
  | some '-' => !(scan.cursor.skip 1).sees isSpace
  | some '?' | some ':' => !scan.inFlow && !blankAfter
  | some c => !isBreak c && !isSpace c && !leadingIndicators.contains c

/-- The token at the place of the state, which is no blank. -/
def nextToken (scan : Scan) (c : Char) : Option Scan :=
  let cursor := scan.cursor
  let sign := scan.inFlow || cursor.endsAt 1
  if cursor.column = 0 ∧ c = '%' then scan.directive
  else if cursor.seesMark "---" then scan.documentMark .documentStart
  else if cursor.seesMark "..." then scan.documentMark .documentEnd
  else if c = '[' then scan.openFlow .flowSequenceStart
  else if c = '\x7b' then scan.openFlow .flowMappingStart
  else if c = ']' then scan.closeFlow .flowSequenceEnd
  else if c = '\x7d' then scan.closeFlow .flowMappingEnd
  else if c = ',' then scan.flowEntry
  else if c = '-' ∧ cursor.endsAt 1 then scan.blockSign .blockSequenceStart .blockEntry true
  else if c = '?' ∧ sign then scan.blockSign .blockMappingStart .key (!scan.inFlow)
  else if c = ':' ∧ sign then scan.valueSign
  else if c = '*' then scan.nodeToken (readName .alias)
  else if c = '&' then scan.nodeToken (readName .anchor)
  else if c = '!' then scan.nodeToken (readTag scan.inFlow)
  else if c = '|' ∧ !scan.inFlow then scan.blockScalarToken false
  else if c = '>' ∧ !scan.inFlow then scan.blockScalarToken true
  else if c = '\'' ∨ c = '"' then scan.nodeToken (readQuoted c)
  else if scan.beginsPlain then scan.plainToken
  else none

/-- All tokens, with fuel for the characters. -/
def run : (fuel : Nat) → Scan → Option (List Token)
  | 0, _ => none
  | fuel + 1, scan =>
    match (toNextToken (scan.cursor.rest.length + 1) scan).dropStale with
    | none => none
    | some scan =>
      let scan := scan.closeTo scan.cursor.column
      match scan.cursor.rest with
      | [] => ((scan.closeTo (-1)).dropCandidate).map fun scan => scan.tokens.toList
      | c :: _ => (scan.nextToken c).bind (run fuel)

end Scan

/-- The tokens of a text, unless it is refused. -/
def tokens (text : List Char) : Option (List Token) :=
  if text.all isAllowed then Scan.run (text.length + 1) (.start text) else none

end NotebookLint.Yaml
