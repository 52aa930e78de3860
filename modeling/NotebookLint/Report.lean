import NotebookLint.Check
import NotebookLint.Path

/-!
# Reports

The verdicts of all selected checks on all files, one section a check, and their totals. A section
holds one verdict for each file, in the order of the file names as texts.
-/

namespace NotebookLint

/-- The verdicts of one check by file. -/
structure Section where
  /-- The check. -/
  check : Check
  /-- The verdicts, in increasing order of the file names. -/
  results : List (String × Verdict)
  deriving DecidableEq, Repr

/-- The totals of a report. -/
structure Summary where
  /-- The number of passes. -/
  passed : Nat
  /-- The number of fails. -/
  failed : Nat
  /-- The number of errors. -/
  errors : Nat
  /-- The number of files. -/
  files : Nat
  /-- The number of checks. -/
  checks : Nat
  deriving DecidableEq, Repr

/-- A report. -/
structure Report where
  /-- The sections in the order of the checks. -/
  sections : List Section
  /-- The totals. -/
  summary : Summary
  deriving DecidableEq, Repr

/-- Puts a verdict in its place among verdicts in increasing order of the file names; a second
verdict for a file replaces the first. -/
def putResult (file : String) (verdict : Verdict) :
    List (String × Verdict) → List (String × Verdict)
  | [] => [(file, verdict)]
  | (other, old) :: rest =>
    if file = other then (file, verdict) :: rest
    else if file < other then (file, verdict) :: (other, old) :: rest
    else (other, old) :: putResult file verdict rest

/-- The section of a check with the verdicts of a list of files. -/
def Section.ofResults (check : Check) (results : List (String × Verdict)) : Section :=
  ⟨check, results.foldl (fun sorted result => putResult result.1 result.2 sorted) []⟩

/-- The number of verdicts of a status in a section. -/
def Section.count (part : Section) (status : Status) : Nat :=
  part.results.countP fun result => result.2.status = status

/-- The number of verdicts of a status in all of some sections. -/
def Section.total (status : Status) (sections : List Section) : Nat :=
  sections.foldr (fun part others => part.count status + others) 0

/-- The number of passes in a section. -/
def Section.passed (part : Section) : Nat :=
  part.results.countP fun result => result.2.isPass

namespace Report

/-- The report of sections about so many files. -/
def ofSections (sections : List Section) (files : Nat) : Report :=
  ⟨sections, ⟨Section.total .pass sections, Section.total .fail sections,
    Section.total .error sections, files, sections.length⟩⟩

/-- The errors with their checks and files, section by section. -/
def errors (report : Report) : List (Check × String × Verdict) :=
  report.sections.flatMap fun part =>
    (part.results.filter fun result => result.2.status = .error).map fun result =>
      (part.check, result.1, result.2)

/-- The exit status that a report calls for: zero exactly if nothing failed. -/
def exitCode (report : Report) : Nat :=
  if report.summary.failed = 0 ∧ report.summary.errors = 0 then 0 else 1

/-- The judgements of every check on every file, check by check. -/
def judgements (engine : Engine) (load : String → Except CheckError Notebook)
    (files : List String) (checks : List Check) : List (Check × List (String × Check.Judgement)) :=
  checks.map fun check =>
    (check, files.map fun file => (file, check.judgeFile engine file (load file)))

/-- The report of every check on every file. Each verdict comes from its own check and file only,
so neither the order of the files nor the number of workers matters. -/
def run (engine : Engine) (load : String → Except CheckError Notebook) (files : List String)
    (checks : List Check) : Report :=
  ofSections
    ((judgements engine load files checks).map fun (check, judged) =>
      Section.ofResults check (judged.map fun (file, judgement) => (file, judgement.verdict)))
    files.length

/-- What the engine is asked in the course of a run. -/
def requests (engine : Engine) (load : String → Except CheckError Notebook) (files : List String)
    (checks : List Check) : List ExecutionRequest :=
  (judgements engine load files checks).flatMap fun (_, judged) =>
    judged.flatMap fun (_, judgement) => judgement.requests

/-- What is logged as a warning in the course of a run. -/
def warnings (engine : Engine) (load : String → Except CheckError Notebook) (files : List String)
    (checks : List Check) : List String :=
  (judgements engine load files checks).flatMap fun (_, judged) =>
    judged.flatMap fun (_, judgement) => judgement.warnings

end Report

end NotebookLint
