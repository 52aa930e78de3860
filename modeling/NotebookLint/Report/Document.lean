import NotebookLint.Json.Pretty
import NotebookLint.Report.Human

/-!
# The data report

The verdicts by check and file, the totals and the time, as one JSON object. Files are named as
they are shown, so a section has one entry for all files that are shown alike.
-/

namespace NotebookLint.Report

open NotebookLint.Json (Data)

/-- A verdict as data; what is not said is left out. -/
def verdictData (verdict : Verdict) : Data :=
  .object
    (("status", .text verdict.status.name) ::
      (verdict.detail.map fun detail => ("detail", Data.text detail)).toList ++
      (verdict.kind.map fun kind => ("kind", Data.text kind.name)).toList)

/-- A section as data. -/
def sectionData (base : Option String) (part : Section) : Data :=
  .object (Entries.ofList
    (part.results.map fun result => (Path.display base result.1, verdictData result.2)))

/-- The totals as data. -/
def summaryData (summary : Summary) : Data :=
  .object [("passed", .number summary.passed), ("failed", .number summary.failed),
    ("errors", .number summary.errors), ("files", .number summary.files),
    ("checks", .number summary.checks)]

/-- A report as data. -/
def data (base : Option String) (milliseconds : Nat) (report : Report) : Data :=
  .object
    ([("results", .object (Entries.ofList
        (report.sections.map fun part => (part.check.name, sectionData base part)))),
      ("summary", summaryData report.summary),
      ("elapsed_secs", .double (roundedSeconds milliseconds))] ++
      (if report.summary.files = 0 then [("notice", .text noNotebooksNotice)] else []))

/-- The text of a data report. -/
def document (base : Option String) (milliseconds : Nat) (report : Report) : String :=
  (data base milliseconds report).pretty 0

end NotebookLint.Report
