/-!
# TOML tables

The values of a TOML document, and how its statements build tables up. A table remembers how it
came about, because that decides what may still be added to it: tables written in braces are
closed, a header may open a table only once, and dotted keys may extend only tables that dotted
keys or deeper headers have made.
-/

namespace NotebookLint.Toml

/-- How a table came about. -/
inductive Origin where
  /-- It has its own header, or it is the document. -/
  | header
  /-- A deeper header made it. -/
  | implied
  /-- Dotted keys made it. -/
  | dotted
  /-- It is written in braces. -/
  | braces
  deriving DecidableEq, Repr

/-- A value. -/
inductive Value where
  /-- A text. -/
  | text (value : String)
  /-- A whole number. -/
  | integer (value : Int)
  /-- Another number, and whether a double can hold it. -/
  | float (fits : Bool)
  /-- A truth value. -/
  | boolean (value : Bool)
  /-- A date or a time. -/
  | moment
  /-- Values in order. -/
  | array (items : List Value)
  /-- The tables of repeated headers in order. -/
  | tables (items : List (List (String × Value)))
  /-- A table. -/
  | table (origin : Origin) (entries : List (String × Value))

/-- The entries of a table in order. -/
abbrev Fields := List (String × Value)

/-- The value of a key. -/
def lookup (key : String) : Fields → Option Value
  | [] => none
  | (other, value) :: rest => if other = key then some value else lookup key rest

/-- Gives a key its value, in its old place when it has one. -/
def assign (key : String) (value : Value) : Fields → Fields
  | [] => [(key, value)]
  | (other, old) :: rest =>
    if other = key then (key, value) :: rest else (other, old) :: assign key value rest

/-- The tables made by a path of keys or by a path in a header. -/
def madeBy (dotted : Bool) : Origin := if dotted then .dotted else .implied

/-- Whether a path may lead on into a table. -/
def mayEnter (dotted : Bool) : Origin → Bool
  | .braces => false
  | .header => !dotted
  | .implied | .dotted => true

/-- Changes the table that a path leads to, making the missing tables on the way. A path leads
into the last of the tables of repeated headers. -/
def alter (dotted : Bool) (change : Origin → Fields → Option Fields) :
    (path : List String) → Origin → Fields → Option Fields
  | [], origin, fields => change origin fields
  | key :: path, _, fields =>
    match lookup key fields with
    | none =>
      (alter dotted change path (madeBy dotted) []).map fun inner =>
        assign key (.table (madeBy dotted) inner) fields
    | some (.table origin inner) =>
      if mayEnter dotted origin then
        (alter dotted change path origin inner).map fun inner =>
          assign key (.table origin inner) fields
      else none
    | some (.tables items) =>
      match items.getLast? with
      | none => none
      | some last =>
        (alter dotted change path .header last).map fun inner =>
          assign key (.tables (items.dropLast ++ [inner])) fields
    | some _ => none

/-- Gives a new key its value in a table; a dotted key may only end in a table that dotted keys
have made. -/
def define (isDotted : Bool) (key : String) (value : Value) (origin : Origin) (fields : Fields) :
    Option Fields :=
  if isDotted != (origin == .dotted) then none
  else if (lookup key fields).isSome then none
  else some (assign key value fields)

/-- A key as it is written, without its last part, and its last part. -/
structure Key where
  /-- The parts before the last one. -/
  path : List String
  /-- The last part. -/
  last : String
  deriving DecidableEq, Repr

/-- A key with its value. -/
abbrev Statement := Key × Value

/-- Takes statements in order into a table that is not itself made by dotted keys. -/
def take (statements : List Statement) (fields : Fields) : Option Fields :=
  statements.foldlM
    (fun fields (key, value) =>
      alter true (define (!key.path.isEmpty) key.last value) key.path .header fields)
    fields

/-- The header of a table. -/
structure Header where
  /-- Whether it may be repeated. -/
  repeated : Bool
  /-- The name of the table. -/
  name : Key
  deriving DecidableEq, Repr

/-- Takes a header and the statements below it into a document. -/
def takeSection (document : Fields) (part : Header × List Statement) : Option Fields :=
  let (header, statements) := part
  let key := header.name.last
  let place (_ : Origin) (fields : Fields) : Option Fields :=
    match header.repeated, lookup key fields with
    | true, none =>
      (take statements []).map fun inner => assign key (.tables [inner]) fields
    | true, some (.tables items) =>
      (take statements []).map fun inner => assign key (.tables (items ++ [inner])) fields
    | false, none =>
      (take statements []).map fun inner => assign key (.table .header inner) fields
    | false, some (.table .implied inner) =>
      (take statements inner).map fun inner => assign key (.table .header inner) fields
    | _, some _ => none
  alter false place header.name.path .header document

/-- The document that statements and sections in order make up. -/
def ofSections (statements : List Statement) (parts : List (Header × List Statement)) :
    Option Fields :=
  (take statements []).bind fun document => parts.foldlM takeSection document

end NotebookLint.Toml
