import NotebookLint.Literal.Reader
import NotebookLint.Proofs.Literal.Position

/-!
# Reading with a cursor

The reader of literals as it works on the bytes of its source: a cursor moves by byte counts, the
text ahead is a slice of the source, and loops and calls go on until something ends them. Everything
that could go wrong in this is checked and gets the reader stuck: a slice or a move beyond the end or
into a character, more open brackets than allowed or a bracket closed that was not open, a loop with
more rounds than the source has bytes, a call nested too deeply, and a reader that is called where
what it reads does not begin.
-/

namespace NotebookLint.Literal

open NotebookLint.Text

/-- Where the reader stands. -/
structure Cursor where
  /-- The number of bytes before it. -/
  pos : Nat
  /-- The number of open brackets. -/
  depth : Nat
  deriving DecidableEq, Repr

/-- A computation that moves a cursor and gives a result or an error, or gets stuck. -/
def Scan (α : Type) : Type :=
  Cursor → Option (Except Error α × Cursor)

namespace Scan

variable {α β σ : Type}

/-- A result without a move. -/
def done (value : α) : Scan α :=
  fun cursor => some (.ok value, cursor)

/-- One computation after another. An error ends it, and the cursor stays where it is then. -/
def andThen (scan : Scan α) (next : α → Scan β) : Scan β :=
  fun cursor =>
    match scan cursor with
    | some (.ok value, cursor) => next value cursor
    | some (.error error, cursor) => some (.error error, cursor)
    | none => none

instance : Monad Scan where
  pure := done
  bind := andThen

/-- Nothing that is meant to happen. -/
def stuck : Scan α :=
  fun _ => none

/-- The cursor. -/
def cursor : Scan Cursor :=
  fun cursor => some (.ok cursor, cursor)

/-- An error at a position. -/
def failAt (offset : Nat) (cause : Cause) : Scan α :=
  fun cursor => some (.error ⟨offset, cause⟩, cursor)

/-- An error at the cursor. -/
def fail (cause : Cause) : Scan α :=
  fun cursor => some (.error ⟨cursor.pos, cause⟩, cursor)

/-- The rounds of a loop until one of them has a result. -/
def loop (round : σ → Scan (σ ⊕ α)) : (fuel : Nat) → σ → Scan α
  | 0, _ => stuck
  | fuel + 1, state => do
    match ← round state with
    | .inl state => loop round fuel state
    | .inr value => return value

/-- What is left of a text without a number of bytes. -/
def cut (text : List Char) (bytes : Nat) : Scan (List Char) :=
  fun cursor => (splitBytes text bytes).map fun parts => (.ok parts.2, cursor)

/-- A computation after which one bracket less is open, with a result or an error. -/
def leaving (inner : Scan α) : Scan α :=
  fun cursor =>
    match inner cursor with
    | some (_, ⟨_, 0⟩) => none
    | some (result, ⟨pos, depth + 1⟩) => some (result, ⟨pos, depth⟩)
    | none => none

variable (source : List Char)

/-- Moves the cursor. -/
def moveTo (target : Cursor) : Scan Unit :=
  fun _ =>
    if (splitBytes source target.pos).isSome ∧ target.depth ≤ maxNesting then some (.ok (), target)
    else none

/-- The text from a position on. -/
def sliceFrom (pos : Nat) : Scan (List Char) :=
  cut source pos

/-- The text of a number of bytes from a position on. -/
def slice (pos bytes : Nat) : Scan (List Char) :=
  fun cursor =>
    (splitBytes source pos).bind fun parts =>
      (splitBytes parts.2 bytes).map fun parts => (.ok parts.1, cursor)

/-- Moves the cursor by a number of bytes. -/
def advance (bytes : Nat) : Scan Unit := do
  let here ← cursor
  moveTo source { here with pos := here.pos + bytes }

/-- The text ahead. -/
def ahead : Scan (List Char) := do
  let here ← cursor
  sliceFrom source here.pos

/-- The next character. -/
def peek : Scan (Option Char) := do
  let text ← ahead source
  return text.head?

/-- Takes the next character. -/
def bump : Scan (Option Char) := do
  match ← peek source with
  | none => return none
  | some c =>
    advance source c.utf8Size
    return some c

/-- Takes a character that has to come next. -/
def expect (wanted : Char) : Scan Unit := do
  match ← bump source with
  | none => stuck
  | some c => if c = wanted then return () else stuck

/-- Whether the cursor has reached the end. -/
def atEnd : Scan Bool := do
  let here ← cursor
  return decide (byteLength source ≤ here.pos)

/-- No loop has more rounds than this. -/
def rounds : Nat :=
  byteLength source + 1

/-- Takes one blank. -/
def blankRound (_ : Unit) : Scan (Unit ⊕ Unit) := do
  match ← peek source with
  | none => return .inr ()
  | some c =>
    if isBlank c then
      let _ ← bump source
      return .inl ()
    else return .inr ()

/-- Passes over blanks. -/
def skip : Scan Unit :=
  loop (blankRound source) (rounds source) ()

/-- The character that the next hexadecimal digits name. -/
def hexChars (count : Nat) : Scan (List Char) := do
  let text ← ahead source
  let digits := ((splitBytes text count).map Prod.fst).filter (·.all fun c => (hexValue c).isSome)
  match digits.bind (hexPrefix count 0) with
  | none => fail .badHexEscape
  | some code =>
    if code.isValidChar then
      advance source count
      return [Char.ofNat code]
    else fail .badUnicodeEscape

/-- What an escape stands for, after its backslash. -/
def escapeChars : Scan (List Char) := do
  match ← bump source with
  | none => fail .unterminatedEscape
  | some letter =>
    if letter = 'x' then hexChars source 2
    else if letter = 'u' then hexChars source 4
    else if letter = 'U' then hexChars source 8
    else
      match escape letter [] with
      | .ok (chars, _) => return chars
      | .error _ => stuck

/-- What a backslash in a body stands for, together with what belongs to it. -/
def afterBackslash (form : BodyForm) : Scan (List Char) := do
  if form.raw then
    match ← bump source with
    | none => return ['\\']
    | some letter => return ['\\', letter]
  else escapeChars source

/-- Takes one character or escape of a body, or its closing quotes. -/
def bodyRound (form : BodyForm) (start : Nat) (out : List Char) :
    Scan (List Char ⊕ List Char) := do
  let text ← ahead source
  if form.triple && [form.quote, form.quote, form.quote].isPrefixOf text then
    advance source 3
    return .inr out
  else
    match ← bump source with
    | none => failAt start .unterminatedString
    | some c =>
      if c = form.quote ∧ form.triple = false then return .inr out
      else if c = '\n' ∧ form.triple = false then failAt start .unterminatedString
      else if c = '\\' then
        let chars ← afterBackslash source form
        return .inl (out ++ chars)
      else return .inl (out ++ [c])

/-- Takes the prefix letter of a literal if there is one, and tells whether it is verbatim. -/
def rawPrefix : Scan Bool := do
  match ← peek source with
  | none => return false
  | some c =>
    if isStringPrefix c then
      let _ ← bump source
      return isRawPrefix c
    else return false

/-- Reads one string literal. -/
def string : Scan (List Char) := do
  let raw ← rawPrefix source
  let start ← cursor
  match ← bump source with
  | none => stuck
  | some quote =>
    if isQuote quote then
      let text ← sliceFrom source start.pos
      let triple := [quote, quote, quote].isPrefixOf text
      if triple then moveTo source { start with pos := start.pos + 3 }
      loop (bodyRound source ⟨quote, triple, raw⟩ start.pos) (rounds source) []
    else stuck

/-- Whether a string literal begins at the cursor. -/
def stringAhead : Scan Bool := do
  match ← peek source with
  | none => return false
  | some c =>
    if isQuote c then return true
    else if isStringPrefix c then
      let text ← ahead source
      let following ← cut text 1
      return following.head?.any isQuote
    else return false

/-- Reads one more adjacent string, or goes back to the end of the last one. -/
def adjacentRound (out : List Char) : Scan (List Char ⊕ List Char) := do
  let save ← cursor
  skip source
  if ← stringAhead source then
    let chars ← string source
    return .inl (out ++ chars)
  else
    let here ← cursor
    moveTo source { here with pos := save.pos }
    return .inr out

/-- Reads one or more adjacent strings. -/
def strings : Scan Value := do
  let first ← string source
  let chars ← loop (adjacentRound source) (rounds source) first
  return .text (String.ofList chars)

/-- The length of a number token that begins with a run. -/
def tokenLength (pos : Nat) (run : List Char) : Scan Nat := do
  let length := byteLength run
  if endsInExponentMark run then
    let tail ← sliceFrom source (pos + length)
    if tail.head? = some '+' ∨ tail.head? = some '-' then
      let digits ← cut tail 1
      return length + (1 + byteLength (digits.takeWhile isExponentChar))
    else return length
  else return length

/-- Reads an unsigned number and gives it the sign. -/
def number (negative : Bool) : Scan Value := do
  let start ← cursor
  let text ← ahead source
  let run ← slice source start.pos (byteLength (text.takeWhile isNumberChar))
  let length ← tokenLength source start.pos run
  let token ← slice source start.pos length
  if hasDoubleUnderscore token || token.getLast? == some '_' then
    fail (.badNumber (String.ofList token))
  else
    match numberValue negative ((token.filter (· != '_')).map Char.toLower) with
    | some value =>
      advance source length
      return value
    | none => fail (.badNumber (String.ofList token))

/-- Reads a signed number. -/
def signed : Scan Value := do
  let sign ← bump source
  skip source
  let next ← peek source
  if next.any beginsNumber then number source (sign == some '-')
  else fail .signWithoutNumber

/-- Reads a constant, or a string with its prefix letter. -/
def word : Scan Value := do
  let start ← cursor
  let text ← ahead source
  let length := byteLength (text.takeWhile continuesWord)
  let word ← slice source start.pos length
  let after ← sliceFrom source (start.pos + length)
  if after.head?.any isQuote then
    match word with
    | [letter] =>
      if isStringPrefix letter then strings source
      else fail (.unsupportedPrefix (String.ofList word))
    | _ => fail (.unsupportedPrefix (String.ofList word))
  else
    match constant? word with
    | some value =>
      advance source length
      return value
    | none => fail (.unsupportedName (String.ofList word))

/-- Opens a bracket, reads what is in it, and closes it again. -/
def nested (inner : Scan α) : Scan α := do
  let here ← cursor
  if maxNesting ≤ here.depth then fail .nestingTooDeep
  else
    moveTo source { here with depth := here.depth + 1 }
    leaving inner

/-- Takes the closing bracket, or reads one more item. -/
def closedOr (close : Char) (final : α) (item : Scan (σ ⊕ α)) : Scan (σ ⊕ α) := do
  skip source
  let next ← peek source
  if next = some close then
    let _ ← bump source
    return .inr final
  else item

/-- Takes the comma after an item, or sees the closing bracket. -/
def separator (close : Char) (behindComma atClose : σ) : Scan (σ ⊕ α) := do
  skip source
  match ← peek source with
  | none => fail (.itemNotSeparated close)
  | some c =>
    if c = ',' then
      let _ ← bump source
      return .inl behindComma
    else if c = close then return .inl atClose
    else fail (.itemNotSeparated close)

variable (element : Scan Value)

/-- Reads one item with the comma after it, or the closing bracket. -/
def itemRound (close : Char) (state : List Value × Bool) :
    Scan ((List Value × Bool) ⊕ (List Value × Bool)) :=
  closedOr source close state do
    let item ← element
    separator source close (state.1 ++ [item], true) (state.1 ++ [item], false)

/-- Reads comma separated items in brackets. -/
def sequence (opening close : Char) : Scan (List Value × Bool) :=
  nested source do
    expect source opening
    loop (itemRound source element close) (rounds source) ([], false)

/-- Reads a list. -/
def list : Scan Value := do
  let (items, _) ← sequence source element '[' ']'
  return .list items

/-- Reads what is in round brackets, which only group one item without a comma. -/
def parenthesized : Scan Value := do
  match ← sequence source element '(' ')' with
  | ([item], false) => return item
  | (items, _) => return .list items

/-- Reads a key with its colon. -/
def key : Scan String := do
  let start ← cursor
  match ← element with
  | .text key =>
    skip source
    match ← peek source with
    | none => fail .colonMissing
    | some c =>
      if c = ':' then
        let _ ← bump source
        return key
      else if c = ',' ∨ c = '}' then fail .setNotSupported
      else fail .colonMissing
  | _ => failAt start.pos .keyNotText

/-- Reads one pair with the comma after it, or the closing brace. -/
def pairRound (entries : Entries Value) : Scan (Entries Value ⊕ Entries Value) :=
  closedOr source '}' entries do
    let key ← key source element
    let value ← element
    let entries := Entries.put key value entries
    separator source '}' entries entries

/-- Reads a dictionary. -/
def dict : Scan Value :=
  nested source do
    expect source '{'
    let entries ← loop (pairRound source element) (rounds source) []
    return .dict entries

/-- Reads a value, with a given reader of the values in brackets. -/
def valueWith : Scan Value := do
  skip source
  match ← peek source with
  | none => fail .unexpectedEnd
  | some c =>
    if c = '[' then list source element
    else if c = '(' then parenthesized source element
    else if c = '{' then dict source element
    else if isQuote c then strings source
    else if c = '-' ∨ c = '+' then signed source
    else if beginsNumber c then number source false
    else if beginsWord c then word source
    else fail (.unsupportedSyntax c)

/-- Reads a value with at most this many calls of itself inside one another. -/
def value : (calls : Nat) → Scan Value
  | 0 => stuck
  | calls + 1 => valueWith source (value calls)

/-- Reads a source that holds exactly one literal. -/
def whole : Scan Value := do
  skip source
  if ← atEnd source then fail .emptyExpression
  else
    let value ← value source (maxNesting + 1)
    skip source
    if ← atEnd source then return value else fail .trailingInput

end Scan

/-- Reads a source from its beginning with no bracket open. -/
def scan (source : String) : Option (Except Error Value × Cursor) :=
  Scan.whole source.toList ⟨0, 0⟩

end NotebookLint.Literal
