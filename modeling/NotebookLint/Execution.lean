import NotebookLint.Parameter
import NotebookLint.Verdict

/-!
# Executing notebooks

A notebook is executed by an engine, which is given the notebook's path, its kernel and its
parameters. Executing never fails in the sense of a check: whatever keeps a notebook from running
to its end is an error, of a kind that says who is to blame. That there is a directory for the
executed copy is taken for granted.
-/

namespace NotebookLint

/-- What an engine is asked to execute. -/
structure ExecutionRequest where
  /-- The path of the notebook. -/
  notebook : String
  /-- The kernel to run it with. -/
  kernel : Option String
  /-- The parameters to inject. -/
  parameters : ParameterBag
  deriving Repr

/-- What an engine answers. -/
inductive Outcome where
  /-- The notebook ran to its end. -/
  | completed
  /-- The notebook raised an error. -/
  | failed (errorType message : String)
  /-- The kernel is missing or unknown. -/
  | kernelUnavailable (kernel : Option String) (message : String)
  /-- The engine could not be started. -/
  | engineUnavailable (message : String)
  deriving DecidableEq, Repr

/-- An engine answers every request. -/
abbrev Engine := ExecutionRequest → Outcome

/-- Why a check could not decide on a file. -/
inductive CheckError where
  /-- The file could not be read. -/
  | io (path reason : String)
  /-- The file is no notebook. -/
  | parse (reason : String)
  /-- The parameters could not be extracted. -/
  | parameter (error : Parameter.Error)
  /-- The kernel is missing or unknown. -/
  | kernel (kernel : Option String) (message : String)
  /-- The notebook raised an error. -/
  | execution (errorType message : String)
  /-- The engine could not be started. -/
  | engine (message : String)
  deriving DecidableEq, Repr

namespace CheckError

/-- The kind of an error. -/
def kind : CheckError → ErrorKind
  | .io _ _ => .io
  | .parse _ => .parse
  | .parameter _ => .parameter
  | .kernel _ _ => .kernel
  | .execution _ _ => .execution
  | .engine _ => .engine

/-- The wording of an error. -/
def message : CheckError → String
  | .io path reason => "failed to read " ++ path ++ ": " ++ reason
  | .parse reason => "not a valid notebook: " ++ reason
  | .parameter error => error.message
  | .kernel name message =>
    "kernel `" ++ name.getD "<unset>" ++ "` unavailable: " ++ message
  | .execution errorType message => errorType ++ ": " ++ message
  | .engine message => "execution engine unavailable: " ++ message

/-- The verdict that an error leads to. -/
def verdict (error : CheckError) : Verdict := .error error.kind error.message

end CheckError

/-- What a run of the engine leaves behind. -/
structure Execution where
  /-- What the engine was asked: at most one request. -/
  requests : List ExecutionRequest
  /-- Nothing, or why the notebook did not run to its end. -/
  error : Option CheckError
  /-- What is logged as a warning. -/
  warnings : List String
  deriving Repr

namespace Execution

/-- The error that an answer amounts to. -/
def errorOf : Outcome → Option CheckError
  | .completed => none
  | .failed errorType message => some (.execution errorType message)
  | .kernelUnavailable kernel message => some (.kernel kernel message)
  | .engineUnavailable message => some (.engine message)

/-- The warnings that an answer about a notebook gives rise to. -/
def warningsOf (path : String) : Outcome → List String
  | .failed errorType _ => [path ++ " raised " ++ errorType]
  | .kernelUnavailable _ _ => [path ++ ": kernel unavailable"]
  | _ => []

/-- Executes a notebook. The engine is asked only if the parameters can be extracted. -/
def run (engine : Engine) (path : String) (withParameters : Bool) (notebook : Notebook) :
    Execution :=
  match if withParameters then Parameter.extract notebook else .ok [] with
  | .error error => ⟨[], some (.parameter error), []⟩
  | .ok parameters =>
    let request : ExecutionRequest := ⟨path, notebook.kernelName, parameters⟩
    let outcome := engine request
    ⟨[request], errorOf outcome, warningsOf path outcome⟩

end Execution

end NotebookLint
