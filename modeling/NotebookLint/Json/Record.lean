import NotebookLint.Json.Node

/-!
# Decoding scanned documents

Decoders walk a scanned tree from left to right and report the first fault they meet. A record is
written as an object, whose unknown members are passed over, or as an array of its fields in
order. A field is given at most once, and only a required one has to be given.
-/

namespace NotebookLint.Json

/-- Reads a value from a node, with the number of arrays and objects that may still open. -/
abbrev Decoder (α : Type) := (room : Nat) → Node → Except Fault α

/-- The number of arrays and objects that may be open at once. -/
def maxNesting : Nat := 127

/-- How a message names a number. -/
def Number.found : Number → Found
  | .integer value => .integer value
  | .float value => .float value

/-- The fault of a node that is not of the expected type, or its own fault if it has one. -/
def mismatch (expected : String) : Node → Fault
  | .null after => .before after (.invalidType .null expected)
  | .bool value after => .before after (.invalidType (.bool value) expected)
  | .number (.ok number) after => .before after (.invalidType number.found expected)
  | .number (.error fault) _ => fault
  | .string (.ok chars) after => .before after (.invalidType (.text chars) expected)
  | .string (.error fault) _ => fault
  | .array start _ _ => .before start (.invalidType .sequence expected)
  | .object start _ _ => .before start (.invalidType .map expected)
  | .broken stop => stop.wanted

/-- Reads a text. -/
def decodeText : Decoder String
  | _, .string (.ok chars) _ => .ok (String.ofList chars)
  | _, node => .error (mismatch "a string" node)

/-- The largest signed 64-bit number. -/
def maxInt64 : Int := (Nat.pow 2 63 : Int) - 1

/-- Reads a signed 64-bit number. -/
def decodeInt64 : Decoder Int
  | _, .number (.ok (.integer value)) after =>
    if value ≤ maxInt64 then .ok value
    else .error (.before after (.invalidValue (.integer value) "i64"))
  | _, node => .error (mismatch "i64" node)

/-- Reads `null` as nothing and everything else with the given decoder. -/
def decodeOption {α : Type} (decode : Decoder α) : Decoder (Option α)
  | _, .null _ => .ok none
  | room, node => (decode room node).map some

/-- Reads items in order. -/
def decodeItems {α : Type} (decode : Decoder α) (room : Nat) : List Node → Except Fault (List α)
  | [] => .ok []
  | item :: items =>
    match decode room item with
    | .error fault => .error fault
    | .ok value => (decodeItems decode room items).map (value :: ·)

/-- Reads an array. -/
def decodeList {α : Type} (decode : Decoder α) : Decoder (List α)
  | 0, .array start _ _ => .error (.at start .nestingTooDeep)
  | room + 1, .array _ items ending =>
    match decodeItems decode room items with
    | .error fault => .error fault
    | .ok values =>
      match ending with
      | .ok _ => .ok values
      | .error stop => .error stop.wanted
  | _, node => .error (mismatch "a sequence" node)

/-- The unread text after the end of an object, if it ends here, and from the next token on
otherwise: the place of a fault that has none of its own. -/
def closeObject (text : Spot) : Spot :=
  match skipSpace text with
  | '}' :: rest => rest
  | rest => rest

/-- The place of a fault without a place of its own inside an array. -/
def closeArray (text : Spot) : Spot :=
  match skipSpace text with
  | ']' :: rest => rest
  | ',' :: rest => skipSpace rest
  | rest => rest

/-- A field of a record: how its value, read from a node, changes the record. `close` places the
faults that have no place of their own. -/
structure Slot (α : Type) where
  /-- The name of the member. -/
  name : String
  /-- Whether the field has to be given. -/
  required : Bool
  /-- Reads the value into the record. -/
  fill : (close : Spot → Spot) → (room : Nat) → Node → α → Except Fault α

/-- A field whose faults all have a place. -/
def Slot.plain {α β : Type} (name : String) (required : Bool) (decode : Decoder β)
    (store : α → β → α) : Slot α :=
  ⟨name, required, fun _ room node record => (decode room node).map (store record)⟩

/-- The field that a key names. -/
def slotNamed {α : Type} (slots : List (Slot α)) (key : List Char) : Option (Slot α) :=
  slots.find? fun slot => slot.name = String.ofList key

/-- Reads members into a record, given the names of the fields that are already read. -/
def fillMembers {α : Type} (slots : List (Slot α)) (room : Nat) :
    List (Key × Node) → (seen : List String) → α → Except Fault (List String × α)
  | [], seen, record => .ok (seen, record)
  | (key, value) :: members, seen, record =>
    match key.text with
    | .error fault => .error fault
    | .ok chars =>
      match slotNamed slots chars with
      | none =>
        match value.pass with
        | .error fault => .error fault
        | .ok _ => fillMembers slots room members seen record
      | some slot =>
        if slot.name ∈ seen then
          .error (.before (closeObject key.after) (.duplicateField slot.name))
        else
          match slot.fill closeObject room value record with
          | .error fault => .error fault
          | .ok record => fillMembers slots room members (slot.name :: seen) record

/-- The fault of an array that goes on after the last field, given the text after that field. -/
def surplus (text : Spot) : Except Fault Unit :=
  match skipSpace text with
  | [] => .error (.at [] .endInList)
  | ']' :: _ => .ok ()
  | ',' :: rest =>
    match skipSpace rest with
    | ']' :: more => .error (.at (']' :: more) .trailingComma)
    | more => .error (.at more .trailingCharacters)
  | rest => .error (.at rest .trailingCharacters)

/-- Reads the items of an array as the fields of a record in order. `before` is the text after
the last item that was read, and `index` the number of items read. -/
def fillItems {α : Type} (shape : String) (room : Nat) (ending : Ending) :
    List (Slot α) → List Node → (index : Nat) → (before : Spot) → α → Except Fault α
  | [], _, _, before, record =>
    match surplus before with
    | .error fault => .error fault
    | .ok _ => .ok record
  | slot :: slots, [], index, before, record =>
    match ending with
    | .error stop => .error stop.wanted
    | .ok after =>
      if slot.required then .error (.before after (.invalidLength index shape))
      else fillItems shape room ending slots [] (index + 1) before record
  | slot :: slots, item :: items, index, _, record =>
    match slot.fill closeArray room item record with
    | .error fault => .error fault
    | .ok record => fillItems shape room ending slots items (index + 1) item.after record

/-- How a message counts the fields of a record. -/
def elementCount (count : Nat) : String :=
  toString count ++ (if count = 1 then " element" else " elements")

/-- Reads a record. -/
def decodeRecord {α : Type} (shape : String) (slots : List (Slot α)) (empty : α) : Decoder α
  | 0, .array start _ _ => .error (.at start .nestingTooDeep)
  | 0, .object start _ _ => .error (.at start .nestingTooDeep)
  | room + 1, .array start items ending =>
    fillItems (shape ++ " with " ++ elementCount slots.length) room ending slots items 0
      start.tail empty
  | room + 1, .object _ members ending =>
    match fillMembers slots room members [] empty with
    | .error fault => .error fault
    | .ok (seen, record) =>
      match ending with
      | .error stop => .error stop.wanted
      | .ok after =>
        match slots.find? fun slot => slot.required && !seen.contains slot.name with
        | some slot => .error (.before after (.missingField slot.name))
        | none => .ok record
  | _, node => .error (mismatch shape node)

/-- Reads a text that holds exactly one document. -/
def decode {α : Type} (decoder : Decoder α) (text : List Char) : Except Error α :=
  let node := scan text
  let result : Except Fault α :=
    match decoder maxNesting node with
    | .error fault => .error fault
    | .ok value =>
      match skipSpace node.after with
      | [] => .ok value
      | rest => .error (.at rest .trailingCharacters)
  result.mapError (Fault.located text)

end NotebookLint.Json
