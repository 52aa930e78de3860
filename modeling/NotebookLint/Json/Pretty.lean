import NotebookLint.Binary64.Shortest
import NotebookLint.Entries

/-!
# Writing documents

Data are written as indented JSON: two spaces a level, one member a line, members in their
order. Texts keep every character but quotes, backslashes and controls.
-/

namespace NotebookLint.Json

/-- Data to be written. -/
inductive Data where
  /-- A text. -/
  | text (value : String)
  /-- A whole number. -/
  | number (value : Nat)
  /-- A finite double. -/
  | double (value : Binary64)
  /-- Named data in order. -/
  | object (members : List (String × Data))
  deriving Repr

/-- Four hexadecimal digits of a number below 65536. -/
def fourDigits (n : Nat) : List Char :=
  let digits := Nat.toDigits 16 n
  List.replicate (4 - digits.length) '0' ++ digits

/-- A character inside a string. -/
def escapedChar (c : Char) : List Char :=
  match c with
  | '"' => ['\\', '"']
  | '\\' => ['\\', '\\']
  | '\n' => ['\\', 'n']
  | '\r' => ['\\', 'r']
  | '\t' => ['\\', 't']
  | '\x08' => ['\\', 'b']
  | '\x0c' => ['\\', 'f']
  | _ => if c.toNat < 0x20 then '\\' :: 'u' :: fourDigits c.toNat else [c]

/-- A text as a string. -/
def stringText (text : String) : String :=
  "\"" ++ String.ofList (text.toList.flatMap escapedChar) ++ "\""

/-- The beginning of a line at a level. -/
def indentation (level : Nat) : String :=
  "\n" ++ String.ofList (List.replicate (2 * level) ' ')

mutual

/-- Data at a level of indentation. -/
def Data.pretty (level : Nat) : Data → String
  | .text value => stringText value
  | .number value => toString value
  | .double value => Binary64.signedText value
  | .object [] => "\x7b\x7d"
  | .object members =>
    "\x7b" ++ prettyMembers (level + 1) members ++ indentation level ++ "\x7d"

/-- Members at a level of indentation, each on its own line. -/
def prettyMembers (level : Nat) : List (String × Data) → String
  | [] => ""
  | (name, value) :: rest =>
    indentation level ++ stringText name ++ ": " ++ value.pretty level ++
      (if rest.isEmpty then "" else ",") ++ prettyMembers level rest

end

end NotebookLint.Json
