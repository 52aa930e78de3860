import NotebookLint.Settings.File
import NotebookLint.Yaml.Node
import NotebookLint.Yaml.Scalar

/-!
# Settings in YAML

A scalar is read as what the setting asks for: any scalar is a text, and a plain one may be a
number or a truth value. Where nothing is written a list or a record is empty. An open setting
may also be given as null.
-/

namespace NotebookLint.Yaml

/-- The beginning of the tags of the standard types. -/
def standardTag (name : String) : String := "tag:yaml.org,2002:" ++ name

/-- Whether a text is a spelling of null other than nothing. -/
def isNullWord (text : String) : Bool := ["null", "Null", "NULL", "~"].contains text

/-- Whether a scalar may be read as a standard type: it is plain, or a literal block with the tag
of the type. -/
def mayBe (type : String) (properties : Properties) (form : ScalarForm) : Bool :=
  form == .plain || (form == .literal && properties.tag == some (standardTag type))

/-- Reads a text. -/
def textOf (document : Document) (node : Node) : Option String :=
  match document.resolve node with
  | some (.scalar _ _ text) => some text
  | _ => none

/-- Whether a node is a plain scalar without text. -/
def isUnwritten : Node → Bool
  | .scalar _ .plain text => text.isEmpty
  | _ => false

/-- Reads a list. -/
def itemsOf (document : Document) (node : Node) : Option (List Node) :=
  match document.resolve node with
  | some (.sequence _ items) => some items
  | some other => if isUnwritten other then some [] else none
  | none => none

/-- Reads a count. -/
def numberOf (document : Document) (node : Node) : Option Nat :=
  match document.resolve node with
  | some (.scalar properties form text) =>
    if mayBe "int" properties form && text.toList.head? != some '-' then
      ((wholeNumber text.toList).map Int.toNat).filter (· ≤ Text.maxNatural)
    else none
  | _ => none

/-- Reads a truth value. -/
def flagOf (document : Document) (node : Node) : Option Bool :=
  match document.resolve node with
  | some (.scalar properties form text) =>
    if mayBe "bool" properties form then
      if ["true", "True", "TRUE"].contains text then some true
      else if ["false", "False", "FALSE"].contains text then some false
      else none
    else none
  | _ => none

/-- The name in a tag of one's own. -/
def ownTag? (tag : Option String) : Option String :=
  tag.bind fun tag =>
    match tag.toList with
    | ['!'] => some "!"
    | '!' :: name => some (String.ofList name)
    | _ => none

/-- Reads the form of the report: its name, or a tag with its name before nothing. -/
def modeOf (document : Document) (node : Node) : Option OutputMode :=
  match document.resolve node with
  | some (.scalar properties form text) =>
    match ownTag? properties.tag with
    | some name =>
      if form == .plain && (text.isEmpty || isNullWord text) then OutputMode.ofName? name else none
    | none => OutputMode.ofName? text
  | _ => none

/-- The fields of a mapping; every key is a scalar. -/
def fieldsOf (document : Document) (pairs : List (Node × Node)) : Option (List (String × Node)) :=
  pairs.mapM fun (key, value) => (textOf document key).map fun name => (name, value)

/-- Reads a record. -/
def recordOf (document : Document) (node : Node) : Option (RecordForm Node) :=
  match document.resolve node with
  | some (.mapping _ pairs) => (fieldsOf document pairs).map .named
  | some other => if isUnwritten other then some (.named []) else none
  | none => none

/-- Whether a node says anything where a setting may be left open: a plain null says nothing.
With the tag of null nothing but a null is taken. -/
def isGiven (document : Document) (node : Node) : Option Bool :=
  match document.resolve node with
  | some (.scalar ⟨_, none⟩ .plain text) => some (!text.isEmpty && !isNullWord text)
  | some (.scalar ⟨_, some tag⟩ .plain text) =>
    if tag = standardTag "null" then (if isNullWord text then some false else none) else some true
  | _ => some true

/-- How nodes are read. -/
def reader (document : Document) : ValueReader Node where
  text := textOf document
  items := itemsOf document
  number := numberOf document
  flag := flagOf document
  mode := modeOf document
  record := recordOf document
  isGiven := isGiven document
  isIgnorable _ := true

/-- What a file says. A blank file and an empty document say nothing. -/
def settings (text : List Char) : Option FileSettings :=
  if Text.isBlankText text then some .empty
  else
    (Document.ofText text).bind fun document =>
      match document.root with
      | none => some .empty
      | some root =>
        match recordOf document root with
        | some (.named fields) => (reader document).settings fields
        | _ => none

end NotebookLint.Yaml
