import NotebookLint.Text.Utf8

/-!
# Why a literal is refused

The causes for which a default is no literal, with their wording, and the step of a reader. A
reader's position is the text that is still unread: a position is then always a suffix of the
input, on a character boundary by construction.
-/

namespace NotebookLint.Literal

open NotebookLint.Text (byteLength byteLength_append)

/-- Why reading stops. -/
inductive Cause where
  /-- There is nothing but blanks. -/
  | emptyExpression
  /-- A value is missing at the end. -/
  | unexpectedEnd
  /-- Something follows the value. -/
  | trailingInput
  /-- No literal begins with this character. -/
  | unsupportedSyntax (found : Char)
  /-- A sign stands before something else than a number. -/
  | signWithoutNumber
  /-- A word other than a string prefix stands directly before a quote. -/
  | unsupportedPrefix (word : String)
  /-- A word other than the three constants. -/
  | unsupportedName (word : String)
  /-- A string has no closing quote, or a line ends before it. -/
  | unterminatedString
  /-- The text ends after a backslash. -/
  | unterminatedEscape
  /-- An escape lacks its hexadecimal digits. -/
  | badHexEscape
  /-- The digits of an escape name no character. -/
  | badUnicodeEscape
  /-- A number token that denotes no number in range. -/
  | badNumber (token : String)
  /-- Brackets nest too deeply. -/
  | nestingTooDeep
  /-- An item is followed neither by a comma nor by the closing bracket. -/
  | itemNotSeparated (close : Char)
  /-- A dictionary key that is not a text. -/
  | keyNotText
  /-- A braced item without a value. -/
  | setNotSupported
  /-- A key without a colon. -/
  | colonMissing
  deriving DecidableEq, Repr

/-- The wording of a cause. -/
def Cause.message : Cause → String
  | .emptyExpression => "empty expression"
  | .unexpectedEnd => "unexpected end of input"
  | .trailingInput => "unexpected trailing input"
  | .unsupportedSyntax found => "unsupported syntax `" ++ found.toString ++ "`"
  | .signWithoutNumber => "unary sign is only allowed before a number"
  | .unsupportedPrefix word => "unsupported string prefix `" ++ word ++ "`"
  | .unsupportedName word => "unsupported name `" ++ word ++ "`"
  | .unterminatedString => "unterminated string literal"
  | .unterminatedEscape => "unterminated escape sequence"
  | .badHexEscape => "invalid hex escape"
  | .badUnicodeEscape => "invalid unicode escape"
  | .badNumber token => "invalid number `" ++ token ++ "`"
  | .nestingTooDeep => "nesting too deep"
  | .itemNotSeparated close => "expected `,` or `" ++ close.toString ++ "`"
  | .keyNotText => "dict keys must be strings"
  | .setNotSupported => "sets are not supported"
  | .colonMissing => "expected `:` after dict key"

/-- A cause and the unread text at which it was found. -/
structure Fault where
  /-- The text from the place of the fault on. -/
  rest : List Char
  /-- What is wrong there. -/
  cause : Cause
  deriving DecidableEq, Repr

/-- What a reader gives: a result with the text after it, or a fault. -/
abbrev Step (α : Type) := Except Fault (α × List Char)

/-- A refused literal: the cause and the byte offset of its place. -/
structure Error where
  /-- The number of bytes before the fault. -/
  offset : Nat
  /-- What is wrong there. -/
  cause : Cause
  deriving DecidableEq, Repr

/-- The full wording of a refusal. -/
def Error.message (error : Error) : String :=
  error.cause.message ++ " at offset " ++ toString error.offset

/-- A fault in a source, with its place counted in bytes. -/
def Fault.located (source : List Char) (fault : Fault) : Error :=
  ⟨byteLength source - byteLength fault.rest, fault.cause⟩

/-- The place of a fault is counted by the bytes before it. -/
theorem Fault.located_append (before : List Char) (fault : Fault) :
    fault.located (before ++ fault.rest) = ⟨byteLength before, fault.cause⟩ := by
  rw [Fault.located, byteLength_append, Nat.add_sub_cancel_right]

end NotebookLint.Literal
