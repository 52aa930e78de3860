import NotebookLint.CommandLine

/-!
# Help

The text that describes the command line, from one table of its flags and options: a short form
with one line for each, and a long form with a paragraph for each.
-/

namespace NotebookLint.CommandLine

/-- The name of the program. -/
def programName : String := "nbcheck"

/-- The text that names the version. -/
def versionText : String := programName ++ " 0.1.0\n"

/-- An entry of the help. -/
structure HelpEntry where
  /-- The letter after a single dash. -/
  letter : Option Char
  /-- The long name with its value. -/
  name : String
  /-- What it does, for the short form. -/
  purpose : String
  /-- What it does, for the long form. -/
  longPurpose : String
  /-- The values that it takes. -/
  values : List String

/-- An entry without a letter and a list of values. -/
def HelpEntry.plain (name purpose : String) : HelpEntry := ⟨none, name, purpose, purpose, []⟩

/-- The entries of the help. -/
def helpEntries : List HelpEntry :=
  [.plain "cell_count" "Check the number of code cells does not exceed --max_cell_count",
    .plain "is_ascending" "Check execution counts are in ascending order",
    .plain "has_md" "Check the notebook has at least one markdown cell",
    .plain "line_in_cell" "Check every code cell has fewer lines than --max_line_in_cell",
    .plain "total_line_in_nb"
      "Check code cells together have fewer lines than --max_total_line_in_nb",
    .plain "execute"
      "Check the notebook executes without error (with declared default parameters)",
    .plain "execute_without_parameters" "Run --execute without injecting parameters",
    .plain "max_cell_count <N>" "Maximum number of code cells (default: 20)",
    .plain "max_line_in_cell <N>" "Maximum lines per code cell (default: 300)",
    .plain "max_total_line_in_nb <N>" "Maximum lines across all code cells (default: 1000)",
    .plain "exclude_patterns <GLOB>..."
      ("Exclude notebooks matching these glob patterns (tooling dirs such as .git/ and " ++
        ".ipynb_checkpoints/ are always skipped)"),
    ⟨some 'v', "verbose", "List every file, including passing ones",
      "List every file, including passing ones", []⟩,
    ⟨none, "output <OUTPUT>", "Output mode: human|json (default: human)",
      "Output mode: human|json (default: human)", ["human", "json"]⟩,
    .plain "no-color" "Disable colored output",
    .plain "jobs <N>" "Number of worker threads (default: one per CPU)",
    .plain "log-level <LEVEL>" "Log level or filter spec (default: warn, env: NBCHECK_LOG)",
    .plain "config <FILE>" "Path to nbcheck.toml|yaml (default: searched upward)",
    ⟨some 'h', "help", "Print help (see more with '--help')",
      "Print help (see a summary with '-h')", []⟩,
    ⟨some 'V', "version", "Print version", "Print version", []⟩]

/-- The list of possible values. -/
def possibleValues (values : List String) : String :=
  "[possible values: " ++ String.intercalate ", " values ++ "]"

/-- The names of an entry. -/
def HelpEntry.names (entry : HelpEntry) : String :=
  (match entry.letter with
    | some letter => "  -" ++ letter.toString ++ ", --"
    | none => "      --") ++ entry.name

/-- The column at which the short form begins to say what an entry does. -/
def helpColumn : Nat :=
  (helpEntries.map fun entry => entry.names.length).foldl Nat.max 0 + 2

/-- A text filled up with spaces. -/
def filledTo (width : Nat) (text : String) : String :=
  text ++ String.ofList (List.replicate (width - text.length) ' ')

/-- The line of an entry in the short form. -/
def HelpEntry.line (entry : HelpEntry) : String :=
  filledTo helpColumn entry.names ++ entry.purpose ++
    (if entry.values.isEmpty then "" else " " ++ possibleValues entry.values)

/-- The lines of an entry in the long form. -/
def HelpEntry.paragraph (entry : HelpEntry) : List String :=
  let indent := filledTo 10 ""
  [entry.names, indent ++ entry.longPurpose] ++
    (if entry.values.isEmpty then [] else [indent, indent ++ possibleValues entry.values]) ++ [""]

/-- The line that shows how to call the program. -/
def usageLine : String := "Usage: " ++ programName ++ " [OPTIONS] [PATHS]..."

/-- What the paths are. -/
def pathsPurpose : String := "Notebooks or directories to run checks on"

/-- Calls of the program for example. -/
def exampleLines : List String :=
  ["Examples:",
    "  nbcheck . --cell_count --is_ascending",
    "  nbcheck a.ipynb b.ipynb --has_md",
    "  nbcheck a.ipynb b.ipynb --line_in_cell --max_line_in_cell 100",
    "  nbcheck notebooks/ --execute --exclude_patterns 'drafts/*'",
    ""]

/-- The lines of the short form. -/
def shortHelpLines : List String :=
  ["Check notebooks for structure and executability", "", usageLine, "", "Arguments:",
    "  [PATHS]...  " ++ pathsPurpose, "", "Options:"] ++
    helpEntries.map HelpEntry.line ++ [""] ++ exampleLines

/-- The lines of the long form. -/
def longHelpLines : List String :=
  ["nbcheck - check your notebook format. Select one or more checks and point it at " ++
      "notebooks or directories.",
    "", "Configuration precedence: CLI > nbcheck.toml > defaults.", "", usageLine, "",
    "Arguments:", "  [PATHS]...", filledTo 10 "" ++ pathsPurpose, "", "Options:"] ++
    helpEntries.flatMap HelpEntry.paragraph ++ exampleLines

/-- The text of the help. -/
def helpText (long : Bool) : String :=
  String.intercalate "\n" (if long then longHelpLines else shortHelpLines)

end NotebookLint.CommandLine
