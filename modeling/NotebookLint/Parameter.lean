import NotebookLint.Declaration
import NotebookLint.Literal.Reader
import NotebookLint.Notebook

/-!
# Parameters of a notebook

Cells tagged `nbcheck-defaults` declare the defaults of a notebook's parameters. Their
declarations are found by the translator of the notebook's language, their expressions are read
as literals, and a later declaration of a name overrides an earlier one.
-/

namespace NotebookLint.Parameter

/-- The tag of cells that declare defaults. -/
def defaultsTag : String := "nbcheck-defaults"

/-- The tag of the cell after which an engine injects parameters. -/
def parametersTag : String := "parameters"

/-- The languages whose declarations can be found. -/
inductive Translator where
  /-- Assignments of the form `name = expression`. -/
  | python
  deriving DecidableEq, Repr

/-- The name of a language. -/
def Translator.language : Translator → String
  | .python => "python"

/-- The translator that a kernel or language name calls for, whatever the case of its ASCII
letters. -/
def translatorNamed (name : String) : Option Translator :=
  let lower := name.toList.map Char.toLower
  if "python".toList.isPrefixOf lower || lower = "ipython".toList || lower = "ipykernel".toList then
    some .python
  else none

/-- The translator of a notebook: by its kernel, and by its language if the kernel calls for
none. -/
def translator (notebook : Notebook) : Option Translator :=
  match notebook.kernelName.bind translatorNamed with
  | some found => some found
  | none => notebook.language.bind translatorNamed

/-- Why parameters cannot be extracted. -/
inductive Error where
  /-- There are defaults but no cell tagged for injection. -/
  | missingParametersCell
  /-- There are several cells tagged for injection. -/
  | ambiguousParametersCell (count : Nat)
  /-- The language is unknown. -/
  | noTranslator (kernel : String)
  /-- A default is no literal. -/
  | eval (name raw : String) (error : Literal.Error)
  deriving DecidableEq, Repr

/-- The wording of a refusal. -/
def Error.message : Error → String
  | .missingParametersCell => "No cell with \"parameters\" tag found!"
  | .ambiguousParametersCell count =>
    "found " ++ toString count ++ " cells with \"parameters\" tag, expected exactly one"
  | .noTranslator kernel => "no parameter translator for kernel `" ++ kernel ++ "`"
  | .eval name raw error =>
    "failed to evaluate parameter `" ++ name ++ "` with value `" ++ raw ++ "`: " ++ error.message

/-- The cells that declare defaults, in order. -/
def defaultCells (notebook : Notebook) : List Cell :=
  notebook.cells.filter fun cell => cell.hasTag defaultsTag

/-- The number of cells tagged for injection. -/
def parametersCellCount (notebook : Notebook) : Nat :=
  notebook.cells.countP fun cell => cell.hasTag parametersTag

/-- The declarations of a notebook in cell order, each cell scanned on its own. -/
def declarations (notebook : Notebook) : List Declaration :=
  (defaultCells notebook).flatMap fun cell => Declaration.ofCell cell.text

/-- Reads declared defaults into a bag, up to the first that is no literal. -/
def evaluate : List Declaration → ParameterBag → Except Error ParameterBag
  | [], bag => .ok bag
  | declaration :: rest, bag =>
    match Literal.read declaration.raw with
    | .ok value => evaluate rest (Entries.put declaration.name value bag)
    | .error error => .error (.eval declaration.name declaration.raw error)

/-- The parameters of a notebook. -/
def extract (notebook : Notebook) : Except Error ParameterBag :=
  if (defaultCells notebook).isEmpty then .ok []
  else
    match parametersCellCount notebook with
    | 0 => .error .missingParametersCell
    | 1 =>
      match translator notebook with
      | some .python => evaluate (declarations notebook) []
      | none =>
        .error (.noTranslator
          ((notebook.kernelName.orElse fun _ => notebook.language).getD "<unset>"))
    | count => .error (.ambiguousParametersCell count)

end NotebookLint.Parameter
