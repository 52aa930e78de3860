import NotebookLint.Binary64
import NotebookLint.Entries

/-!
# Parameter values

The values that a parameter default can denote, and the bag of named values that is handed to
an execution engine.
-/

namespace NotebookLint

/-- A parameter value: a constant, a number, a text, a list, or a dictionary with text keys. -/
inductive Value where
  /-- The value without content. -/
  | null
  /-- A truth value. -/
  | bool (value : Bool)
  /-- A whole number. -/
  | int (value : Int)
  /-- A finite double. -/
  | float (value : Binary64)
  /-- A text. -/
  | text (value : String)
  /-- Values in order. -/
  | list (items : List Value)
  /-- Named values in order of first insertion. -/
  | dict (entries : List (String × Value))
  deriving Repr

/-- Parameters by name, in order of first declaration. -/
abbrev ParameterBag := Entries Value

end NotebookLint
