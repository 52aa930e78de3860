import NotebookLint.Declaration.LogicalLine

/-!
# Declarations of parameter defaults

A logical line of the form `name = expression` or `name: annotation = expression` declares a
parameter. The expression is kept as it is written; reading it as a literal is another matter.
-/

namespace NotebookLint

open NotebookLint.Text

/-- A declared parameter with its default as it is written. -/
structure Declaration where
  /-- The name before the equals sign. -/
  name : String
  /-- The expression after the equals sign, without blanks at its ends. -/
  raw : String
  deriving DecidableEq, Repr

namespace Declaration

/-- Whether a character begins a name: an ASCII letter or an underscore. -/
def beginsName (c : Char) : Bool :=
  c.isAlpha || c == '_'

/-- Whether a character continues a name: an ASCII letter, a digit or an underscore. -/
def continuesName (c : Char) : Bool :=
  c.isAlphanum || c == '_'

/-- What follows the equals sign of an assignment, given what follows the name: the sign itself,
or a colon, an annotation of at least one character without an equals sign, and the sign. -/
def afterEquals (text : List Char) : Option (List Char) :=
  match skipBlanks text with
  | '=' :: rest => some rest
  | ':' :: rest =>
    match rest.takeWhile (· != '='), rest.dropWhile (· != '=') with
    | _ :: _, _ :: expression => some expression
    | _, _ => none
  | _ => none

/-- The declaration that a trimmed logical line makes. A second equals sign directly after the
first makes a comparison, which declares nothing. -/
def ofLine (line : List Char) : Option Declaration :=
  let name := line.takeWhile continuesName
  if line.head?.any beginsName then
    match afterEquals (line.dropWhile continuesName) with
    | none => none
    | some expression =>
      match trim expression with
      | [] => none
      | '=' :: _ => none
      | raw => some ⟨String.ofList name, String.ofList raw⟩
  else none

/-- The declarations of a cell in order. -/
def ofCell (source : String) : List Declaration :=
  (logicalLines source.toList).filterMap fun line => ofLine (trim line)

end Declaration

end NotebookLint
