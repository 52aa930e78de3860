import NotebookLint.Text.Blank

/-!
# Notebooks

The part of a notebook document that the checks look at: cells with their kind, lines, execution
count and tags, and what the document says about its kernel and its language.
-/

namespace NotebookLint

open NotebookLint.Text

/-- What a cell holds. -/
inductive CellKind where
  /-- Code. -/
  | code
  /-- Prose. -/
  | markdown
  /-- Anything else, which no check matches. -/
  | other (name : String)
  deriving DecidableEq, Repr

/-- The kind with this name in a document. -/
def CellKind.ofName (name : String) : CellKind :=
  if name = "code" then .code
  else if name = "markdown" then .markdown
  else .other name

/-- A cell. -/
structure Cell where
  /-- What it holds. -/
  kind : CellKind
  /-- Its source in pieces, usually one a line. -/
  source : List String
  /-- When it was last executed, if ever. -/
  executionCount : Option Int
  /-- Its tags in order. -/
  tags : List String
  deriving DecidableEq, Repr

namespace Cell

/-- Whether a cell holds code. -/
def isCode (cell : Cell) : Bool := cell.kind = .code

/-- Whether a cell holds prose. -/
def isMarkdown (cell : Cell) : Bool := cell.kind = .markdown

/-- The number of lines, which is the number of pieces of the source. -/
def lineCount (cell : Cell) : Nat := cell.source.length

/-- Whether a cell carries a tag. -/
def hasTag (cell : Cell) (tag : String) : Bool := cell.tags.contains tag

/-- The source in one piece. -/
def text (cell : Cell) : String := String.join cell.source

end Cell

/-- What a document says about its kernel. -/
structure KernelSpec where
  /-- The name of the kernel. -/
  name : Option String
  /-- The language of the kernel. -/
  language : Option String
  deriving DecidableEq, Repr

/-- A notebook. -/
structure Notebook where
  /-- The cells in order. -/
  cells : List Cell
  /-- What is said about the kernel. -/
  kernelSpec : Option KernelSpec
  /-- What is said about the language: nothing, or its name if it is given. -/
  languageInfo : Option (Option String)
  deriving DecidableEq, Repr

/-- A text without the blanks around it; a blank text counts as absent. -/
def unlessBlank (text : String) : Option String :=
  let text := trimmed text
  if text.isEmpty then none else some text

namespace Notebook

/-- The cells that hold code. -/
def codeCells (notebook : Notebook) : List Cell := notebook.cells.filter Cell.isCode

/-- The cells that hold prose. -/
def markdownCells (notebook : Notebook) : List Cell := notebook.cells.filter Cell.isMarkdown

/-- The name of the kernel, if it is given and not blank. -/
def kernelName (notebook : Notebook) : Option String :=
  (notebook.kernelSpec.bind KernelSpec.name).bind unlessBlank

/-- The language: what the kernel says, and only if it says nothing what the language entry
says. Being blank is saying something, and the language is absent then. -/
def language (notebook : Notebook) : Option String :=
  let told := match notebook.kernelSpec.bind KernelSpec.language with
    | some language => some language
    | none => notebook.languageInfo.bind id
  told.bind unlessBlank

end Notebook

end NotebookLint
