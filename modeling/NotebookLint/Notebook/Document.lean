import NotebookLint.Json.Record
import NotebookLint.Notebook
import NotebookLint.Text.Line

/-!
# Reading notebook documents

The records of a notebook document and their fields. The source of a cell is one string, which is
cut after its line feeds, or a list of strings, which is kept as it is.
-/

namespace NotebookLint.Notebook

open NotebookLint.Json

/-- The texts of nodes that are all strings. -/
def stringItems : List Node → Option (List String)
  | [] => some []
  | .string (.ok chars) _ :: items => (stringItems items).map (String.ofList chars :: ·)
  | _ => none

/-- The pieces of a source. -/
def sourcePieces : Node → Option (List String)
  | .array _ items _ => stringItems items
  | .string (.ok chars) _ => some ((Text.linesWithEnds chars).map String.ofList)
  | _ => none

/-- The source field. A value that is no source is first read to its end. -/
def sourceSlot : Slot Cell where
  name := "source"
  required := false
  fill close room node cell :=
    match node.verify room with
    | .error fault => .error fault
    | .ok _ =>
      match sourcePieces node with
      | some pieces => .ok { cell with source := pieces }
      | none => .error (.before (close node.after) (.noVariant "Source"))

/-- Reads the tags from the metadata of a cell. -/
def decodeCellMetadata : Decoder (List String) :=
  decodeRecord "struct CellMetadata"
    [.plain "tags" false (decodeList decodeText) fun _ tags => tags] []

/-- Reads a cell. -/
def decodeCell : Decoder Cell :=
  decodeRecord "struct Cell"
    [.plain "cell_type" true decodeText fun cell name => { cell with kind := .ofName name },
      sourceSlot,
      .plain "execution_count" false (decodeOption decodeInt64)
        fun cell count => { cell with executionCount := count },
      .plain "metadata" false decodeCellMetadata fun cell tags => { cell with tags := tags }]
    ⟨.code, [], none, []⟩

/-- Reads what a document says about its kernel. -/
def decodeKernelSpec : Decoder KernelSpec :=
  decodeRecord "struct KernelSpec"
    [.plain "name" false (decodeOption decodeText) fun spec name => { spec with name := name },
      .plain "language" false (decodeOption decodeText)
        fun spec language => { spec with language := language }]
    ⟨none, none⟩

/-- Reads the name of the language. -/
def decodeLanguageInfo : Decoder (Option String) :=
  decodeRecord "struct LanguageInfo"
    [.plain "name" false (decodeOption decodeText) fun _ name => name] none

/-- Reads the metadata of a document. -/
def decodeMetadata : Decoder (Option KernelSpec × Option (Option String)) :=
  decodeRecord "struct NotebookMetadata"
    [.plain "kernelspec" false (decodeOption decodeKernelSpec)
        fun metadata spec => (spec, metadata.2),
      .plain "language_info" false (decodeOption decodeLanguageInfo)
        fun metadata info => (metadata.1, info)]
    (none, none)

/-- Reads a notebook. -/
def decodeNotebook : Decoder Notebook :=
  decodeRecord "struct Notebook"
    [.plain "cells" true (decodeList decodeCell)
        fun notebook cells => { notebook with cells := cells },
      .plain "metadata" false decodeMetadata fun notebook metadata =>
        { notebook with kernelSpec := metadata.1, languageInfo := metadata.2 }]
    ⟨[], none, none⟩

/-- The notebook that a text holds, or why it holds none. -/
def ofJson (text : String) : Except Json.Error Notebook :=
  decode decodeNotebook text.toList

end NotebookLint.Notebook
