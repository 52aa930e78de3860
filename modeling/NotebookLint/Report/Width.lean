import NotebookLint.Text.Natural

/-!
# The width of a report
-/

namespace NotebookLint.Report

/-- The number of characters in a line unless something else is asked for. -/
def defaultWidth : Nat := 80

/-- The width that a setting asks for: a positive count with any blanks around it. Anything else
leaves the default. -/
def widthOf (setting : Option String) : Nat :=
  match setting.bind fun text => Text.natural? (Text.trim text.toList) with
  | some 0 | none => defaultWidth
  | some width => width

end NotebookLint.Report
