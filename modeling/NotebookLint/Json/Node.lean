import NotebookLint.Json.Chars
import NotebookLint.Json.Number

/-!
# Scanned documents

A text is scanned into a tree without knowing what it should hold. Scanning never fails: where it
cannot go on, the tree ends in a stop that keeps both faults a reader could report there, the one
of a reader that wants the value and the one of a reader that passes over it. What a tree means,
and which of its faults matters, is up to the decoder that walks it from left to right.
-/

namespace NotebookLint.Json

/-- Why a scan stops, for the two kinds of reader. -/
structure Stop where
  /-- What a reader that wants the value reports. -/
  wanted : Fault
  /-- What a reader that passes over the value reports. -/
  passed : Fault
  deriving DecidableEq, Repr

/-- A stop that both kinds of reader report alike. -/
def Stop.plain (fault : Fault) : Stop := ⟨fault, fault⟩

/-- The key of a member. -/
structure Key where
  /-- Its text, or why it denotes none. -/
  text : Except Fault (List Char)
  /-- The unread text after it. -/
  after : Spot

/-- The unread text after a complete value, or why there is none. -/
abbrev Ending := Except Stop Spot

/-- A scanned value with the unread text at its place. -/
inductive Node where
  /-- The constant `null`. -/
  | null (after : Spot)
  /-- A truth value. -/
  | bool (value : Bool) (after : Spot)
  /-- A well-formed number, which may be out of range. -/
  | number (value : Except Fault Number) (after : Spot)
  /-- A closed string, whose escapes may denote nothing. -/
  | string (text : Except Fault (List Char)) (after : Spot)
  /-- An array from its bracket on. -/
  | array (start : Spot) (items : List Node) (ending : Ending)
  /-- An object from its brace on. -/
  | object (start : Spot) (members : List (Key × Node)) (ending : Ending)
  /-- No value. -/
  | broken (stop : Stop)

/-- The unread text after a node, or why there is none. -/
def Node.ending : Node → Ending
  | .null after => .ok after
  | .bool _ after => .ok after
  | .number _ after => .ok after
  | .string _ after => .ok after
  | .array _ _ ending => ending
  | .object _ _ ending => ending
  | .broken stop => .error stop

/-- The unread text after a complete node. -/
def Node.after (node : Node) : Spot :=
  match node.ending with
  | .ok after => after
  | .error _ => []

/-- Scans the rest of a constant. -/
def scanWord (node : Spot → Node) : (letters : List Char) → Spot → Node
  | [], text => node text
  | _ :: _, [] => .broken (.plain (.before [] .endInValue))
  | letter :: letters, c :: rest =>
    if c = letter then scanWord node letters rest else .broken (.plain (.at (c :: rest) .badIdent))

/-- Scans a string after its opening quote. -/
def scanString (text : Spot) : Except Stop (Except Fault (List Char) × Spot) :=
  match readChars 0 text, passChars 0 text with
  | .error wanted, .error passed => .error ⟨wanted, passed⟩
  | .ok _, .error passed => .error (.plain passed)
  | .error wanted, .ok after => .ok (.error wanted, after)
  | .ok (chars, _), .ok after => .ok (.ok chars, after)

/-- Scans a number. -/
def scanNumeral (text : Spot) : Node :=
  match scanNumber text with
  | .ok (numeral, after) => .number (numeral.value after) after
  | .error fault => .broken ⟨wantedNumberFault fault, fault⟩

/-- Where the next item of an array begins, or how the array ends: the unread text and whether
an item stands there. -/
def nextItem (first : Bool) (text : Spot) : Except Stop (Bool × Spot) :=
  match skipSpace text with
  | [] => .error (.plain (.at [] .endInList))
  | c :: rest =>
    if c = ']' then .ok (false, rest)
    else if first then .ok (true, c :: rest)
    else if c = ',' then
      match skipSpace rest with
      | [] => .error (.plain (.at [] .endInValue))
      | d :: more =>
        if d = ']' then .error ⟨.at (d :: more) .trailingComma, .at (d :: more) .valueMissing⟩
        else .ok (true, d :: more)
    else .error (.plain (.at (c :: rest) .listNotSeparated))

/-- Where the next key of an object begins, after its quote, or how the object ends. -/
def nextKey (first : Bool) (text : Spot) : Except Stop (Bool × Spot) :=
  match skipSpace text with
  | [] => .error (.plain (.at [] .endInObject))
  | c :: rest =>
    if c = '}' then .ok (false, rest)
    else if first then
      if c = '"' then .ok (true, rest) else .error (.plain (.at (c :: rest) .keyNotString))
    else if c = ',' then
      match skipSpace rest with
      | [] => .error ⟨.at [] .endInValue, .at [] .endInObject⟩
      | d :: more =>
        if d = '"' then .ok (true, more)
        else if d = '}' then
          .error ⟨.at (d :: more) .trailingComma, .at (d :: more) .keyNotString⟩
        else .error (.plain (.at (d :: more) .keyNotString))
    else .error (.plain (.at (c :: rest) .objectNotSeparated))

/-- Where the value of a member begins, given the text after its key. -/
def afterColon (text : Spot) : Except Stop Spot :=
  match skipSpace text with
  | ':' :: rest => .ok rest
  | [] => .error (.plain (.at [] .endInObject))
  | rest => .error (.plain (.at rest .colonMissing))

mutual

/-- Scans a value after skipping space. -/
def scanValue : (fuel : Nat) → Spot → Node
  | 0, text => .broken (.plain (.at text .valueMissing))
  | fuel + 1, text =>
    match skipSpace text with
    | [] => .broken (.plain (.at [] .endInValue))
    | c :: rest =>
      if c = 'n' then scanWord .null ['u', 'l', 'l'] rest
      else if c = 't' then scanWord (.bool true) ['r', 'u', 'e'] rest
      else if c = 'f' then scanWord (.bool false) ['a', 'l', 's', 'e'] rest
      else if c = '-' ∨ c.isDigit then scanNumeral (c :: rest)
      else if c = '"' then
        match scanString rest with
        | .ok (text, after) => .string text after
        | .error stop => .broken stop
      else if c = '[' then
        let (items, ending) := scanItems fuel true rest
        .array (c :: rest) items ending
      else if c = '{' then
        let (members, ending) := scanMembers fuel true rest
        .object (c :: rest) members ending
      else .broken (.plain (.at (c :: rest) .valueMissing))

/-- Scans the items of an array up to and with its closing bracket. -/
def scanItems : (fuel : Nat) → (first : Bool) → Spot → List Node × Ending
  | 0, _, text => ([], .error (.plain (.at text .endInList)))
  | fuel + 1, first, text =>
    match nextItem first text with
    | .error stop => ([], .error stop)
    | .ok (false, after) => ([], .ok after)
    | .ok (true, text) =>
      let item := scanValue fuel text
      match item.ending with
      | .error stop => ([item], .error stop)
      | .ok after =>
        let (items, ending) := scanItems fuel false after
        (item :: items, ending)

/-- Scans the members of an object up to and with its closing brace. -/
def scanMembers : (fuel : Nat) → (first : Bool) → Spot → List (Key × Node) × Ending
  | 0, _, text => ([], .error (.plain (.at text .endInObject)))
  | fuel + 1, first, text =>
    match nextKey first text with
    | .error stop => ([], .error stop)
    | .ok (false, after) => ([], .ok after)
    | .ok (true, text) =>
      match scanString text with
      | .error stop => ([], .error stop)
      | .ok (key, after) =>
        let value := match afterColon after with
          | .ok rest => scanValue fuel rest
          | .error stop => .broken stop
        match value.ending with
        | .error stop => ([(⟨key, after⟩, value)], .error stop)
        | .ok rest =>
          let (members, ending) := scanMembers fuel false rest
          ((⟨key, after⟩, value) :: members, ending)

end

/-- Scans a text. Of two steps one after another at least one reads a character, so twice the length
of the text bounds the steps. -/
def scan (text : List Char) : Node :=
  scanValue (2 * text.length + 1) text

mutual

/-- The first fault of a node that is passed over. -/
def Node.pass : Node → Except Fault Unit
  | .array _ items ending =>
    match passItems items with
    | .error fault => .error fault
    | .ok _ =>
      match ending with
      | .ok _ => .ok ()
      | .error stop => .error stop.passed
  | .object _ members ending =>
    match passMembers members with
    | .error fault => .error fault
    | .ok _ =>
      match ending with
      | .ok _ => .ok ()
      | .error stop => .error stop.passed
  | .broken stop => .error stop.passed
  | _ => .ok ()

/-- The first fault of items that are passed over. -/
def passItems : List Node → Except Fault Unit
  | [] => .ok ()
  | item :: items =>
    match item.pass with
    | .error fault => .error fault
    | .ok _ => passItems items

/-- The first fault of members that are passed over. -/
def passMembers : List (Key × Node) → Except Fault Unit
  | [] => .ok ()
  | (_, value) :: members =>
    match value.pass with
    | .error fault => .error fault
    | .ok _ => passMembers members

end

mutual

/-- The first fault of a node of any shape that is wanted as a whole, with the number of arrays
and objects that may still open. -/
def Node.verify : (room : Nat) → Node → Except Fault Unit
  | _, .number (.error fault) _ => .error fault
  | _, .string (.error fault) _ => .error fault
  | 0, .array start _ _ => .error (.at start .nestingTooDeep)
  | 0, .object start _ _ => .error (.at start .nestingTooDeep)
  | room + 1, .array _ items ending =>
    match verifyItems room items with
    | .error fault => .error fault
    | .ok _ =>
      match ending with
      | .ok _ => .ok ()
      | .error stop => .error stop.wanted
  | room + 1, .object _ members ending =>
    match verifyMembers room members with
    | .error fault => .error fault
    | .ok _ =>
      match ending with
      | .ok _ => .ok ()
      | .error stop => .error stop.wanted
  | _, .broken stop => .error stop.wanted
  | _, _ => .ok ()

/-- The first fault of items that are wanted. -/
def verifyItems : (room : Nat) → List Node → Except Fault Unit
  | _, [] => .ok ()
  | room, item :: items =>
    match item.verify room with
    | .error fault => .error fault
    | .ok _ => verifyItems room items

/-- The first fault of members that are wanted. -/
def verifyMembers : (room : Nat) → List (Key × Node) → Except Fault Unit
  | _, [] => .ok ()
  | room, (key, value) :: members =>
    match key.text with
    | .error fault => .error fault
    | .ok _ =>
      match value.verify room with
      | .error fault => .error fault
      | .ok _ => verifyMembers room members

end

end NotebookLint.Json
