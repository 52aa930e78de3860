import NotebookLint.Settings.File
import NotebookLint.Toml.Document

/-!
# Settings in TOML

Values are read as what they are and nothing else. The engine may be written by places, and the
form of the report as a table with nothing below its name.
-/

namespace NotebookLint.Toml

/-- Reads a text. -/
def textOf : Value → Option String
  | .text text => some text
  | _ => none

/-- The values of an array; the tables of repeated headers are one, too. -/
def itemsOf : Value → Option (List Value)
  | .array items => some items
  | .tables items => some (items.map (.table .header))
  | _ => none

/-- Reads a count. -/
def numberOf : Value → Option Nat
  | .integer n => if 0 ≤ n ∧ n.toNat ≤ Text.maxNatural then some n.toNat else none
  | _ => none

/-- Reads a truth value. -/
def flagOf : Value → Option Bool
  | .boolean b => some b
  | _ => none

/-- Whether a value holds nothing. -/
def isHollow : Value → Bool
  | .array items => items.isEmpty
  | .tables items => items.isEmpty
  | .table _ fields => fields.isEmpty
  | _ => false

/-- Reads the form of the report. -/
def modeOf : Value → Option OutputMode
  | .text name => OutputMode.ofName? name
  | .table _ [(name, value)] => if isHollow value then OutputMode.ofName? name else none
  | _ => none

/-- Reads a record. -/
def recordOf : Value → Option (RecordForm Value)
  | .table _ fields => some (.named fields)
  | value => (itemsOf value).map .positional

/-- Whether a whole number has at most 128 bits. -/
def isIntegerKept (n : Int) : Bool := -(Nat.pow 2 127 : Int) ≤ n && n < (Nat.pow 2 128 : Int)

mutual

/-- Whether all numbers in a value can be kept. -/
def isKept : Value → Bool
  | .integer n => isIntegerKept n
  | .float fits => fits
  | .array items => areKept items
  | .tables items => areTablesKept items
  | .table _ fields => areFieldsKept fields
  | _ => true

/-- Whether all numbers in a list of values can be kept. -/
def areKept : List Value → Bool
  | [] => true
  | item :: items => isKept item && areKept items

/-- Whether all numbers in the fields of a table can be kept. -/
def areFieldsKept : List (String × Value) → Bool
  | [] => true
  | (_, value) :: fields => isKept value && areFieldsKept fields

/-- Whether all numbers in a list of tables can be kept. -/
def areTablesKept : List (List (String × Value)) → Bool
  | [] => true
  | fields :: tables => areFieldsKept fields && areTablesKept tables

end

/-- How values are read. -/
def reader : ValueReader Value where
  text := textOf
  items := itemsOf
  number := numberOf
  flag := flagOf
  mode := modeOf
  record := recordOf
  isGiven _ := some true
  isIgnorable := isKept

/-- What a file says. -/
def settings (text : List Char) : Option FileSettings :=
  (document text).bind reader.settings

end NotebookLint.Toml
