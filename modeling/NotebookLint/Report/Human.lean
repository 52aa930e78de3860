import NotebookLint.Report
import NotebookLint.Report.Banner
import NotebookLint.Report.Elapsed

/-!
# The text report

For every check its section: how many files passed, the remedy if one failed, and the files that
did not pass, or all files if the report is verbose. Errors are listed again at the end with what
they say.
-/

namespace NotebookLint.Report

/-- How a text report is presented. -/
structure Presentation where
  /-- Whether files that pass are listed, and errors explained where they occur. -/
  verbose : Bool
  /-- Whether colours are used. -/
  color : Bool
  /-- The directory that files are shown relative to. -/
  base : Option String
  /-- The number of characters in a line. -/
  width : Nat
  deriving DecidableEq, Repr

/-- What is said when there is nothing to check. -/
def noNotebooksNotice : String := "FOUND 0 NOTEBOOKS! EXIT."

/-- The parts of the last line with their colours: the totals that are not zero, and the time. -/
def footerParts (summary : Summary) (milliseconds : Nat) : List (String × Look) :=
  let part (count : Nat) (word : String) (look : Look) : List (String × Look) :=
    if count = 0 then [] else [(toString count ++ " " ++ word ++ ", ", look)]
  part summary.passed "passed" [green] ++ part summary.failed "failed" [magenta] ++
    part summary.errors "error" [red] ++
    [("in " ++ secondsText milliseconds ++ "s", [yellow])]

/-- The last line. -/
def footer (options : Presentation) (summary : Summary) (milliseconds : Nat) : String :=
  let parts := footerParts summary milliseconds
  let title := " " ++ String.join (parts.map Prod.fst) ++ " "
  if options.color then
    paint true [yellow] (leftSigns options.width title) ++ " " ++
      String.join (parts.map fun part => paint true part.2 part.1) ++ " " ++
      paint true [yellow] (rightSigns options.width title)
  else banner options.width false title

/-- The look of a status. -/
def statusLook : Status → Look
  | .pass => [green, bold]
  | .fail => [red, bold]
  | .error => [red, onYellow, bold]

/-- The line that opens a section. -/
def sectionHead (options : Presentation) (part : Section) : String :=
  let passed := part.passed
  let total := part.results.length
  let look := if passed = total then [green, bold] else [red, bold]
  paint options.color [bold]
      ("[CHECKS: " ++ part.check.name ++ "]:  " ++ part.check.description ++ ":") ++
    " [" ++ paint options.color look (toString passed) ++ "/" ++ toString total ++ "]"

/-- The line about a file. -/
def fileLine (options : Presentation) (file : String) (verdict : Verdict) : String :=
  "  * " ++ Path.display options.base file ++ ": " ++
    paint options.color (statusLook verdict.status) verdict.status.title

/-- Whether the explanation of a verdict follows the line about its file. -/
def showsDetail (verbose : Bool) : Status → Bool
  | .pass => false
  | .fail => true
  | .error => verbose

/-- The lines about a file. -/
def fileLines (options : Presentation) (result : String × Verdict) : List String :=
  let verdict := result.2
  if verdict.isPass && !options.verbose then []
  else
    fileLine options result.1 verdict ::
      (match verdict.detail with
        | some detail =>
          if showsDetail options.verbose verdict.status then ["    * " ++ detail] else []
        | none => [])

/-- The lines of a section. -/
def sectionLines (options : Presentation) (part : Section) : List String :=
  sectionHead options part ::
    (if 0 < part.count .fail then [part.check.failureHint] else []) ++
    part.results.flatMap (fileLines options) ++ [""]

/-- The lines of an error in the list of errors. -/
def errorLines (options : Presentation) (error : Check × String × Verdict) : List String :=
  let (check, file, verdict) := error
  let kind := match verdict.kind with
    | some kind => " (" ++ kind.name ++ ")"
    | none => ""
  ["", paint options.color [bold]
      ("[" ++ check.name ++ "]: " ++ Path.display options.base file ++ ":" ++ kind),
    verdict.detail.getD "", repeated options.width '-']

/-- The list of errors. -/
def errorList (options : Presentation) (report : Report) : List String :=
  if report.summary.errors = 0 then []
  else
    "" :: banner options.width options.color " errors " ::
      report.errors.flatMap (errorLines options)

/-- The lines between the opening and the last line. -/
def bodyLines (options : Presentation) (report : Report) : List String :=
  if report.summary.files = 0 then [noNotebooksNotice]
  else
    ["", banner options.width options.color " summary ", ""] ++
      report.sections.flatMap (sectionLines options) ++ errorList options report

/-- The lines of a report. -/
def humanLines (options : Presentation) (milliseconds : Nat) (report : Report) : List String :=
  [banner options.width options.color " nbcheck starts! ",
    "Found " ++ toString report.summary.files ++ " notebooks, and select " ++
      toString report.summary.checks ++ " checks.",
    ""] ++
    bodyLines options report ++ ["", footer options report.summary milliseconds]

/-- The text of a report. -/
def human (options : Presentation) (milliseconds : Nat) (report : Report) : String :=
  String.intercalate "\n" (humanLines options milliseconds report)

end NotebookLint.Report
