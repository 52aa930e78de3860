import NotebookLint.Execution

/-!
# Checks

The six checks by name, and the checks with what they need to decide. Five of them look at the
parsed notebook only; the sixth executes it.
-/

namespace NotebookLint

/-- The checks by name, in the order in which they are reported. -/
inductive CheckKind where
  /-- There are not too many code cells. -/
  | cellCount
  /-- The cells were executed in their order. -/
  | isAscending
  /-- There is a markdown cell. -/
  | hasMarkdown
  /-- No code cell has too many lines. -/
  | lineInCell
  /-- The code cells together do not have too many lines. -/
  | totalLineInNotebook
  /-- The notebook executes without error. -/
  | execute
  deriving DecidableEq, Repr

namespace CheckKind

/-- All kinds in the order in which they are reported. -/
def all : List CheckKind :=
  [.cellCount, .isAscending, .hasMarkdown, .lineInCell, .totalLineInNotebook, .execute]

/-- No kind is missing. -/
theorem mem_all (kind : CheckKind) : kind ∈ all := by
  cases kind <;> decide

/-- The name of a kind. -/
def name : CheckKind → String
  | .cellCount => "cell_count"
  | .isAscending => "is_ascending"
  | .hasMarkdown => "has_md"
  | .lineInCell => "line_in_cell"
  | .totalLineInNotebook => "total_line_in_nb"
  | .execute => "execute"

/-- The kind with this name, whatever the blanks around it, with `-` read as `_`. -/
def ofName? (name : String) : Option CheckKind :=
  let wanted := String.ofList ((Text.trim name.toList).map fun c => if c = '-' then '_' else c)
  all.find? fun kind => kind.name = wanted

end CheckKind

/-- A check with what it needs to decide. -/
inductive Check where
  /-- There are fewer than `max` code cells. -/
  | cellCount (max : Nat)
  /-- The execution counts of code cells increase. -/
  | isAscending
  /-- There is a markdown cell. -/
  | hasMarkdown
  /-- Every code cell has fewer than `max` lines. -/
  | lineInCell (max : Nat)
  /-- The code cells together have fewer than `max` lines. -/
  | totalLineInNotebook (max : Nat)
  /-- The notebook executes without error, with its declared defaults or without. -/
  | execute (withParameters : Bool)
  deriving DecidableEq, Repr

namespace Check

/-- The kind of a check. -/
def kind : Check → CheckKind
  | .cellCount _ => .cellCount
  | .isAscending => .isAscending
  | .hasMarkdown => .hasMarkdown
  | .lineInCell _ => .lineInCell
  | .totalLineInNotebook _ => .totalLineInNotebook
  | .execute _ => .execute

/-- The name of a check. -/
def name (check : Check) : String := check.kind.name

/-- The line that introduces a check in a report. -/
def description : Check → String
  | .cellCount max => "check cell count does not exceed " ++ toString max
  | .isAscending => "check the cell number (execution_count) is in ascending order"
  | .hasMarkdown => "check notebook has at least one markdown cell"
  | .lineInCell max =>
    "check all code cells in notebook have lines less than " ++ toString max
  | .totalLineInNotebook max =>
    "check sum of lines in all code cells does not exceed " ++ toString max
  | .execute true => "check notebook can be (parameterized) executed and no error raised"
  | .execute false => "check notebook can be executed and no error raised"

/-- The remedy that a report offers when a file fails a check. -/
def failureHint : Check → String
  | .cellCount _ => "Some of your notebooks have too many cells.\n" ++
      "Try to split these notebooks into multiple notebooks."
  | .isAscending => "Some of your notebooks are in the wrong order.\n" ++
      "Try to 'restart and run all' or rearrange your cells."
  | .hasMarkdown => "Some of your notebooks don't have any markdown cell.\n" ++
      "Try to add a markdown cell describing your notebook."
  | .lineInCell _ => "Some of your notebooks have cells with too many lines."
  | .totalLineInNotebook _ => "Some of your notebooks have too many lines.\n" ++
      "Consider splitting them into several notebooks with different purposes."
  | .execute _ => "Some of your notebooks failed to execute.\n" ++
      "Re-run your notebook and make sure no error is raised."

/-- The execution counts of the code cells that were executed, in cell order. -/
def executionCounts (notebook : Notebook) : List Int :=
  notebook.codeCells.filterMap Cell.executionCount

/-- The first two neighbours of which the second is not greater. -/
def firstDescent : List Int → Option (Int × Int)
  | first :: second :: rest =>
    if second ≤ first then some (first, second) else firstDescent (second :: rest)
  | _ => none

/-- The first code cell with at least `max` lines, with its place counted from `place`. -/
def firstLongCell (max : Nat) : (place : Nat) → List Cell → Option (Nat × Cell)
  | _, [] => none
  | place, cell :: cells =>
    if cell.isCode && max ≤ cell.lineCount then some (place, cell)
    else firstLongCell max (place + 1) cells

/-- The number of lines of all code cells. -/
def totalLines (notebook : Notebook) : Nat :=
  notebook.codeCells.foldl (fun lines cell => lines + cell.lineCount) 0

/-- Whether the number of code cells stays below the limit. -/
def judgeCellCount (max : Nat) (notebook : Notebook) : Verdict :=
  let count := notebook.codeCells.length
  .passIf (count < max) (toString count ++ " code cells (limit " ++ toString max ++ ")")

/-- Whether the execution counts increase. -/
def judgeAscending (notebook : Notebook) : Verdict :=
  match firstDescent (executionCounts notebook) with
  | none => .pass
  | some (first, second) =>
    .fail ("execution count " ++ toString second ++ " follows " ++ toString first)

/-- Whether there is a markdown cell. -/
def judgeMarkdown (notebook : Notebook) : Verdict :=
  .passIf (!notebook.markdownCells.isEmpty) "no markdown cell found"

/-- Whether the lines of every code cell stay below the limit. -/
def judgeLineInCell (max : Nat) (notebook : Notebook) : Verdict :=
  match firstLongCell max 1 notebook.cells with
  | none => .pass
  | some (place, cell) =>
    .fail ("cell " ++ toString place ++ " has " ++ toString cell.lineCount ++
      " lines (limit " ++ toString max ++ ")")

/-- Whether the lines of all code cells together stay below the limit. -/
def judgeTotalLines (max : Nat) (notebook : Notebook) : Verdict :=
  let total := totalLines notebook
  .passIf (total < max) (toString total ++ " lines in code cells (limit " ++ toString max ++ ")")

/-- What judging a file leaves behind besides the verdict. -/
structure Judgement where
  /-- The verdict. -/
  verdict : Verdict
  /-- What the engine was asked. -/
  requests : List ExecutionRequest
  /-- What is logged as a warning. -/
  warnings : List String
  deriving Repr

/-- A verdict that needed no engine. -/
def Judgement.plain (verdict : Verdict) : Judgement := ⟨verdict, [], []⟩

/-- The judgement of an execution: it passes or it is an error. -/
def Judgement.ofExecution (execution : Execution) : Judgement :=
  let verdict := match execution.error with
    | none => Verdict.pass
    | some error => error.verdict
  ⟨verdict, execution.requests, execution.warnings⟩

/-- Judges a parsed notebook. -/
def judge (engine : Engine) (path : String) (notebook : Notebook) : Check → Judgement
  | .cellCount max => .plain (judgeCellCount max notebook)
  | .isAscending => .plain (judgeAscending notebook)
  | .hasMarkdown => .plain (judgeMarkdown notebook)
  | .lineInCell max => .plain (judgeLineInCell max notebook)
  | .totalLineInNotebook max => .plain (judgeTotalLines max notebook)
  | .execute withParameters => .ofExecution (Execution.run engine path withParameters notebook)

/-- Judges a file, given what loading it gives: a file that does not load is an error for every
check alike. -/
def judgeFile (engine : Engine) (path : String) (loaded : Except CheckError Notebook)
    (check : Check) : Judgement :=
  match loaded with
  | .error error => .plain error.verdict
  | .ok notebook => check.judge engine path notebook

end Check

end NotebookLint
