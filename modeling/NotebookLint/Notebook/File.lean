import NotebookLint.Execution
import NotebookLint.FileTree
import NotebookLint.Notebook.Document

/-!
# Notebook files

A notebook is loaded by reading its file as text and the text as a document.
-/

namespace NotebookLint.Notebook

/-- The notebook of a text, or the error of a check that meets it. -/
def ofText (text : String) : Except CheckError Notebook :=
  (ofJson text).mapError fun error => .parse error.message

/-- The notebook in the file that a path leads to. -/
def load (tree : FileTree) (cwd path : String) : Except CheckError Notebook :=
  match tree.readText cwd path with
  | .error fault => .error (.io path fault.message)
  | .ok text => ofText text

end NotebookLint.Notebook
