import NotebookLint.Binary64.Shortest
import NotebookLint.Text.Quote
import NotebookLint.Text.Utf8

/-!
# Why a document is refused

The causes for which a JSON text is no document of the expected shape, and the place of a fault.
While reading, a place is the text that is still unread, with a number of bytes beyond it;
afterwards it is a line and a column, counted in bytes.
-/

namespace NotebookLint.Json

/-- What is left to read from a place on. -/
abbrev Spot := List Char

/-- What stands where something else is expected. -/
inductive Found where
  /-- The constant `null`. -/
  | null
  /-- A truth value. -/
  | bool (value : Bool)
  /-- A whole number. -/
  | integer (value : Int)
  /-- A number with a fraction or an exponent, or a whole number out of the 64-bit ranges. -/
  | float (value : Binary64)
  /-- A text. -/
  | text (chars : List Char)
  /-- An array. -/
  | sequence
  /-- An object. -/
  | map
  deriving DecidableEq, Repr

/-- How a message names what it found. -/
def Found.describe : Found → String
  | .null => "null"
  | .bool value => "boolean `" ++ toString value ++ "`"
  | .integer value => "integer `" ++ toString value ++ "`"
  | .float value => "floating point `" ++ Binary64.signedText value ++ "`"
  | .text chars => "string " ++ String.ofList (NotebookLint.Text.quoted chars)
  | .sequence => "sequence"
  | .map => "map"

/-- Why reading stops. -/
inductive Cause where
  /-- The text ends inside an array. -/
  | endInList
  /-- The text ends inside an object. -/
  | endInObject
  /-- The text ends inside a string. -/
  | endInString
  /-- The text ends where a value is expected. -/
  | endInValue
  /-- A key without a colon. -/
  | colonMissing
  /-- An item followed neither by a comma nor by the end of the array. -/
  | listNotSeparated
  /-- A member followed neither by a comma nor by the end of the object. -/
  | objectNotSeparated
  /-- A word other than the three constants. -/
  | badIdent
  /-- No value begins here. -/
  | valueMissing
  /-- A backslash before a character without meaning, or `\u` without four digits. -/
  | badEscape
  /-- A malformed number. -/
  | badNumber
  /-- A number too large for a double. -/
  | numberOutOfRange
  /-- The second half of a surrogate pair alone, or a first half with another first half. -/
  | loneSurrogate
  /-- A comma before the end of an array or object. -/
  | trailingComma
  /-- Something follows what should be the end. -/
  | trailingCharacters
  /-- The first half of a surrogate pair alone. -/
  | surrogateCut
  /-- A control character inside a string. -/
  | controlCharacter
  /-- A key that is not a string. -/
  | keyNotString
  /-- Arrays and objects nest too deeply. -/
  | nestingTooDeep
  /-- A value of another type than the expected one. -/
  | invalidType (found : Found) (expected : String)
  /-- A value of the expected type out of its range. -/
  | invalidValue (found : Found) (expected : String)
  /-- An array of fields that ends before a required one. -/
  | invalidLength (length : Nat) (expected : String)
  /-- A required member that is absent. -/
  | missingField (name : String)
  /-- A member that is given twice. -/
  | duplicateField (name : String)
  /-- A value that has none of the shapes a choice allows. -/
  | noVariant (choice : String)
  deriving DecidableEq, Repr

/-- The wording of a cause. -/
def Cause.message : Cause → String
  | .endInList => "EOF while parsing a list"
  | .endInObject => "EOF while parsing an object"
  | .endInString => "EOF while parsing a string"
  | .endInValue => "EOF while parsing a value"
  | .colonMissing => "expected `:`"
  | .listNotSeparated => "expected `,` or `]`"
  | .objectNotSeparated => "expected `,` or `\x7d`"
  | .badIdent => "expected ident"
  | .valueMissing => "expected value"
  | .badEscape => "invalid escape"
  | .badNumber => "invalid number"
  | .numberOutOfRange => "number out of range"
  | .loneSurrogate => "lone leading surrogate in hex escape"
  | .trailingComma => "trailing comma"
  | .trailingCharacters => "trailing characters"
  | .surrogateCut => "unexpected end of hex escape"
  | .controlCharacter => "control character (\\u0000-\\u001F) found while parsing a string"
  | .keyNotString => "key must be a string"
  | .nestingTooDeep => "recursion limit exceeded"
  | .invalidType found expected => "invalid type: " ++ found.describe ++ ", expected " ++ expected
  | .invalidValue found expected => "invalid value: " ++ found.describe ++ ", expected " ++ expected
  | .invalidLength length expected =>
    "invalid length " ++ toString length ++ ", expected " ++ expected
  | .missingField name => "missing field `" ++ name ++ "`"
  | .duplicateField name => "duplicate field `" ++ name ++ "`"
  | .noVariant choice => "data did not match any variant of untagged enum " ++ choice

/-- A cause and its place. -/
structure Fault where
  /-- The unread text the place is counted from. -/
  rest : Spot
  /-- How many bytes of the unread text lie before the place. -/
  bytes : Nat
  /-- What is wrong. -/
  cause : Cause
  deriving DecidableEq, Repr

/-- A fault directly before the unread text. -/
def Fault.before (rest : Spot) (cause : Cause) : Fault := ⟨rest, 0, cause⟩

/-- A fault at the first byte of the unread text, which counts as read. -/
def Fault.at (rest : Spot) (cause : Cause) : Fault := ⟨rest, 1, cause⟩

/-- A refused document: line, column and cause. -/
structure Error where
  /-- The line, counted from one. -/
  line : Nat
  /-- The bytes of the line before the place. -/
  column : Nat
  /-- What is wrong. -/
  cause : Cause
  deriving DecidableEq, Repr

/-- The full wording of a refusal. -/
def Error.message (error : Error) : String :=
  error.cause.message ++ " at line " ++ toString error.line ++ " column " ++ toString error.column

/-- The line and column after so many bytes of a text, starting from a line and a column. -/
def placeAfter : (bytes line column : Nat) → List Char → Nat × Nat
  | _, line, column, [] => (line, column)
  | bytes, line, column, c :: rest =>
    if bytes = 0 then (line, column)
    else if bytes < c.utf8Size then (line, column + bytes)
    else if c = '\n' then placeAfter (bytes - c.utf8Size) (line + 1) 0 rest
    else placeAfter (bytes - c.utf8Size) line (column + c.utf8Size) rest

/-- A fault in a text, with its place as line and column. -/
def Fault.located (text : List Char) (fault : Fault) : Error :=
  let bytes := Text.byteLength text - Text.byteLength fault.rest + fault.bytes
  let (line, column) := placeAfter bytes 1 0 text
  ⟨line, column, fault.cause⟩

/-- Whether a character may stand between two tokens. -/
def isSpace (c : Char) : Bool :=
  c == ' ' || c == '\n' || c == '\t' || c == '\r'

/-- The unread text from the next token on. -/
def skipSpace : Spot → Spot
  | [] => []
  | c :: rest => if isSpace c then skipSpace rest else c :: rest

/-- Skipping space cuts a suffix. -/
theorem skipSpace_suffix (text : Spot) : skipSpace text <:+ text := by
  induction text with
  | nil => exact List.suffix_refl _
  | cons c rest ih =>
    rw [skipSpace]
    split
    · exact ih.trans (List.suffix_cons c rest)
    · exact List.suffix_refl _

end NotebookLint.Json
