import NotebookLint.Json.Chars

/-!
# The grammar of documents

Which texts are documents and what they say, as relations on whole texts that no reader's position
enters. A document says a tree. Its strings are sequences of 16-bit units, as their escapes name
them, so that a string counts as one whether or not its units make a text; a text has the units of
its characters, and two texts with the same units are the same.
-/

namespace NotebookLint.Json

open NotebookLint.Text (hexValue)

/-- The 16-bit units of a character: one, or a surrogate pair. -/
def unitsOf (c : Char) : List Nat :=
  if c.toNat < 0x10000 then [c.toNat]
  else [0xD800 + (c.toNat - 0x10000) / 0x400, 0xDC00 + (c.toNat - 0x10000) % 0x400]

/-- The 16-bit units of characters. -/
def units (chars : List Char) : List Nat :=
  chars.flatMap unitsOf

/-- What a document says. -/
inductive Tree where
  /-- The constant `null`. -/
  | null
  /-- A truth value. -/
  | bool (value : Bool)
  /-- A number as it is written. -/
  | number (lexeme : List Char)
  /-- A string by its units. -/
  | string (units : List Nat)
  /-- An array with its items in order. -/
  | array (items : List Tree)
  /-- An object with its members in order, each with the units of its name. -/
  | object (members : List (List Nat × Tree))

/-- A text of nothing but space. -/
def IsSpace (text : List Char) : Prop :=
  ∀ c ∈ text, isSpace c

/-- A text of nothing but digits, with at least one. -/
def IsDigits (text : List Char) : Prop :=
  text ≠ [] ∧ ∀ c ∈ text, c.isDigit

/-- The part of a number from its point on. -/
inductive Fraction : List Char → Prop where
  /-- There is none. -/
  | absent : Fraction []
  /-- A point and digits. -/
  | digits {digits : List Char} (hdigits : IsDigits digits) : Fraction ('.' :: digits)

/-- The part of a number from its exponent mark on. -/
inductive Exponent : List Char → Prop where
  /-- There is none. -/
  | absent : Exponent []
  /-- A mark, perhaps a sign, and digits. -/
  | digits {mark : Char} {sign digits : List Char} (hmark : mark = 'e' ∨ mark = 'E')
      (hsign : sign = [] ∨ sign = ['+'] ∨ sign = ['-']) (hdigits : IsDigits digits) :
      Exponent (mark :: (sign ++ digits))

/-- The numbers. A zero before the point stands alone. -/
inductive IsNumber : List Char → Prop where
  /-- Perhaps a minus sign, digits, and perhaps a fraction and an exponent. -/
  | intro {sign whole fraction exponent : List Char} (hsign : sign = [] ∨ sign = ['-'])
      (hwhole : IsDigits whole) (hzero : whole.head? = some '0' → whole = ['0'])
      (hfraction : Fraction fraction) (hexponent : Exponent exponent) :
      IsNumber (sign ++ (whole ++ (fraction ++ exponent)))

/-- Four hexadecimal digits and the unit that they name. -/
inductive NamesUnit : List Char → Nat → Prop where
  /-- The digits from the highest to the lowest. -/
  | intro {a b c d : Char} {p q r s : Nat} (ha : hexValue a = some p) (hb : hexValue b = some q)
      (hc : hexValue c = some r) (hd : hexValue d = some s) :
      NamesUnit [a, b, c, d] (((p * 16 + q) * 16 + r) * 16 + s)

/-- What stands between the quotes of a string, and the units it denotes. -/
inductive Body : List Char → List Nat → Prop where
  /-- Nothing. -/
  | nil : Body [] []
  /-- A character that stands for itself. -/
  | plain {c : Char} {body : List Char} {units : List Nat} (hcontrol : 0x20 ≤ c.toNat)
      (hquote : c ≠ '"') (hbackslash : c ≠ '\\') (hbody : Body body units) :
      Body (c :: body) (unitsOf c ++ units)
  /-- An escape of one letter. -/
  | letter {letter c : Char} {body : List Char} {units : List Nat}
      (hletter : simpleEscape letter = some c) (hbody : Body body units) :
      Body ('\\' :: letter :: body) (unitsOf c ++ units)
  /-- An escape that names a unit. -/
  | unit {digits body : List Char} {unit : Nat} {units : List Nat} (hdigits : NamesUnit digits unit)
      (hbody : Body body units) : Body ('\\' :: 'u' :: (digits ++ body)) (unit :: units)

/-- A string from its quote to its quote. -/
inductive Quoted : List Char → List Nat → Prop where
  /-- A body between quotes. -/
  | intro {body : List Char} {units : List Nat} (hbody : Body body units) :
      Quoted ('"' :: (body ++ ['"'])) units

section Separated

variable {α : Type} (element : List Char → α → Prop)

/-- An element with space around it. -/
inductive Spaced : List Char → α → Prop where
  /-- Space, the element, and space. -/
  | intro {before body after : List Char} {value : α} (hbefore : IsSpace before)
      (hbody : element body value) (hafter : IsSpace after) :
      Spaced (before ++ (body ++ after)) value

/-- One or more elements with single commas between them. -/
inductive Separated : List Char → List α → Prop where
  /-- One element. -/
  | last {text : List Char} {value : α} (hlast : element text value) : Separated text [value]
  /-- An element with a comma after it, and more. -/
  | cons {text more : List Char} {value : α} {values : List α} (hfirst : element text value)
      (hmore : Separated more values) : Separated (text ++ ',' :: more) (value :: values)

/-- A member of an object: its name, a colon, and its value, with space around both. -/
inductive Member : List Char → List Nat × α → Prop where
  /-- A name and a value. -/
  | intro {name text : List Char} {units : List Nat} {value : α} (hname : Spaced Quoted name units)
      (hvalue : Spaced element text value) : Member (name ++ ':' :: text) (units, value)

end Separated

/-- The values and what they say. -/
inductive Denotes : List Char → Tree → Prop where
  /-- The constant `null`. -/
  | null : Denotes ['n', 'u', 'l', 'l'] .null
  /-- The constant `true`. -/
  | true : Denotes ['t', 'r', 'u', 'e'] (.bool true)
  /-- The constant `false`. -/
  | false : Denotes ['f', 'a', 'l', 's', 'e'] (.bool false)
  /-- A number. -/
  | number {text : List Char} (hnumber : IsNumber text) : Denotes text (.number text)
  /-- A string. -/
  | string {text : List Char} {units : List Nat} (hquoted : Quoted text units) :
      Denotes text (.string units)
  /-- An array without items. -/
  | emptyArray {space : List Char} (hspace : IsSpace space) :
      Denotes ('[' :: (space ++ [']'])) (.array [])
  /-- An array of items. -/
  | array {inner : List Char} {items : List Tree} (hinner : Separated (Spaced Denotes) inner items) :
      Denotes ('[' :: (inner ++ [']'])) (.array items)
  /-- An object without members. -/
  | emptyObject {space : List Char} (hspace : IsSpace space) :
      Denotes ('{' :: (space ++ ['}'])) (.object [])
  /-- An object of members. -/
  | object {inner : List Char} {members : List (List Nat × Tree)}
      (hinner : Separated (Member Denotes) inner members) :
      Denotes ('{' :: (inner ++ ['}'])) (.object members)

/-- A text that holds one value, with space around it. -/
def Document (text : List Char) (tree : Tree) : Prop :=
  Spaced Denotes text tree

end NotebookLint.Json
