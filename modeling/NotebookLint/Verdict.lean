/-!
# Verdicts

The outcome of one check on one file. A pass says nothing more, a fail says what is wrong, and an
error says what kept the check from deciding and of which kind that was.
-/

namespace NotebookLint

/-- What kept a check from deciding. -/
inductive ErrorKind where
  /-- The file could not be read. -/
  | io
  /-- The file is no notebook. -/
  | parse
  /-- The parameters could not be extracted. -/
  | parameter
  /-- The kernel is missing or unknown. -/
  | kernel
  /-- The notebook raised an error. -/
  | execution
  /-- The engine could not be started. -/
  | engine
  deriving DecidableEq, Repr

/-- The name of a kind. -/
def ErrorKind.name : ErrorKind → String
  | .io => "io"
  | .parse => "parse"
  | .parameter => "parameter"
  | .kernel => "kernel"
  | .execution => "execution"
  | .engine => "engine"

/-- The three outcomes of a check. -/
inductive Status where
  /-- The file is as it should be. -/
  | pass
  /-- The file is not as it should be. -/
  | fail
  /-- The check could not decide. -/
  | error
  deriving DecidableEq, Repr

/-- The name of a status in a text report. -/
def Status.title : Status → String
  | .pass => "Pass"
  | .fail => "Fail"
  | .error => "Error"

/-- The name of a status in a data report. -/
def Status.name : Status → String
  | .pass => "pass"
  | .fail => "fail"
  | .error => "error"

/-- The outcome of one check on one file, with an explanation. -/
structure Verdict where
  /-- The outcome. -/
  status : Status
  /-- What is wrong. -/
  detail : Option String
  /-- What kept the check from deciding. -/
  kind : Option ErrorKind
  deriving DecidableEq, Repr

namespace Verdict

/-- The verdict that a file is as it should be. -/
def pass : Verdict := ⟨.pass, none, none⟩

/-- The verdict that a file is not as it should be. -/
def fail (detail : String) : Verdict := ⟨.fail, some detail, none⟩

/-- The verdict that a check could not decide. -/
def error (kind : ErrorKind) (detail : String) : Verdict := ⟨.error, some detail, some kind⟩

/-- A pass if the condition holds, and a fail with the given detail otherwise. -/
def passIf (condition : Bool) (detail : String) : Verdict :=
  if condition then pass else fail detail

/-- Whether a verdict is a pass. -/
def isPass (verdict : Verdict) : Bool := verdict.status = .pass

end Verdict

end NotebookLint
