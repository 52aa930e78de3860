import NotebookLint.Json.Fault
import NotebookLint.Text.Hexadecimal

/-!
# Strings of a document

A string is read in two ways. Where its text is wanted, every escape must name a character; where
it is passed over, a `\u` escape only needs four hexadecimal digits. Passing over accepts every
string that reading accepts, and stops at the same closing quote.
-/

namespace NotebookLint.Json

open NotebookLint.Text (byteLength hexValue)

/-- The 16-bit unit that four hexadecimal digits name. -/
def unit (text : Spot) : Except Fault Nat :=
  if byteLength (text.take 4) < 4 then .error (.before [] .endInString)
  else
    match text with
    | a :: b :: c :: d :: _ =>
      match hexValue a, hexValue b, hexValue c, hexValue d with
      | some a, some b, some c, some d => .ok (((a * 16 + b) * 16 + c) * 16 + d)
      | _, _, _, _ => .error ⟨text, 4, .badEscape⟩
    | _ => .error ⟨text, 4, .badEscape⟩

/-- Whether a unit is the first half of a surrogate pair. -/
def isHighSurrogate (unit : Nat) : Bool := 0xD800 ≤ unit && unit ≤ 0xDBFF

/-- Whether a unit is the second half of a surrogate pair. -/
def isLowSurrogate (unit : Nat) : Bool := 0xDC00 ≤ unit && unit ≤ 0xDFFF

/-- The character of a one-letter escape. -/
def simpleEscape : Char → Option Char
  | '"' => some '"'
  | '\\' => some '\\'
  | '/' => some '/'
  | 'b' => some '\x08'
  | 'f' => some '\x0c'
  | 'n' => some '\n'
  | 'r' => some '\r'
  | 't' => some '\t'
  | _ => none

/-- The character that a first half of a surrogate pair makes with the escape after it, and the
number of characters of the whole escape after its backslash. -/
def readPair (high : Nat) (text : Spot) : Except Fault (Char × Nat) :=
  match text with
  | [] => .error (.before [] .endInString)
  | '\\' :: rest =>
    match rest with
    | [] => .error (.before [] .endInString)
    | 'u' :: digits =>
      match unit digits with
      | .error fault => .error fault
      | .ok low =>
        if isLowSurrogate low then
          .ok (Char.ofNat ((high - 0xD800) * 0x400 + (low - 0xDC00) + 0x10000), 11)
        else .error (.before (digits.drop 4) .loneSurrogate)
    | _ => .error (.at rest .surrogateCut)
  | _ => .error (.at text .surrogateCut)

/-- The character of an escape, given the text after its backslash, and the number of characters
that belong to it. -/
def readEscape (text : Spot) : Except Fault (Char × Nat) :=
  match text with
  | [] => .error (.before [] .endInString)
  | 'u' :: digits =>
    match unit digits with
    | .error fault => .error fault
    | .ok code =>
      if isLowSurrogate code then .error (.before (digits.drop 4) .loneSurrogate)
      else if isHighSurrogate code then readPair code (digits.drop 4)
      else .ok (Char.ofNat code, 5)
  | letter :: _ =>
    match simpleEscape letter with
    | some c => .ok (c, 1)
    | none => .error (.at text .badEscape)

/-- Reads the characters of a string up to and with its closing quote. The first `skip`
characters belong to an escape that is already read. -/
def readChars : (skip : Nat) → Spot → Except Fault (List Char × Spot)
  | _, [] => .error (.before [] .endInString)
  | skip + 1, _ :: rest => readChars skip rest
  | 0, c :: rest =>
    if c = '"' then .ok ([], rest)
    else if c = '\\' then
      match readEscape rest with
      | .error fault => .error fault
      | .ok (escaped, skip) =>
        match readChars skip rest with
        | .ok (chars, rest) => .ok (escaped :: chars, rest)
        | .error fault => .error fault
    else if c.toNat < 0x20 then .error (.at (c :: rest) .controlCharacter)
    else
      match readChars 0 rest with
      | .ok (chars, rest) => .ok (c :: chars, rest)
      | .error fault => .error fault

/-- The number of characters of an escape that is passed over, after its backslash. -/
def passEscape (text : Spot) : Except Fault Nat :=
  match text with
  | [] => .error (.before [] .endInString)
  | 'u' :: digits =>
    match unit digits with
    | .error fault => .error fault
    | .ok _ => .ok 5
  | letter :: _ =>
    match simpleEscape letter with
    | some _ => .ok 1
    | none => .error (.at text .badEscape)

/-- Passes over the characters of a string up to and with its closing quote. -/
def passChars : (skip : Nat) → Spot → Except Fault Spot
  | _, [] => .error (.before [] .endInString)
  | skip + 1, _ :: rest => passChars skip rest
  | 0, c :: rest =>
    if c = '"' then .ok rest
    else if c = '\\' then
      match passEscape rest with
      | .error fault => .error fault
      | .ok skip => passChars skip rest
    else if c.toNat < 0x20 then .error (.before (c :: rest) .controlCharacter)
    else passChars 0 rest

end NotebookLint.Json
