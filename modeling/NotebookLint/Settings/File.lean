import NotebookLint.CommandLine

/-!
# Settings in a file

What a configuration file can say, and how it is read from the values of a file format. A file
that says nothing about a setting leaves it open. Entries with unknown names are passed over, but
a known name may be given only once.
-/

namespace NotebookLint

/-- What a file says about the engine. -/
structure EngineEntry where
  /-- The program. -/
  program : Option String
  /-- Its further arguments. -/
  arguments : List String
  deriving DecidableEq, Repr

/-- What a file says. -/
structure FileSettings where
  /-- The names of checks, for command lines that select none. -/
  checks : List String
  /-- The limit on the number of code cells. -/
  maxCellCount : Option Nat
  /-- The limit on the lines of a code cell. -/
  maxLineInCell : Option Nat
  /-- The limit on the lines of all code cells. -/
  maxTotalLineInNotebook : Option Nat
  /-- The patterns of paths to leave out. -/
  excludePatterns : List String
  /-- The form of the report. -/
  output : Option OutputMode
  /-- Whether to list every file. -/
  verbose : Option Bool
  /-- Whether to execute without injecting parameters. -/
  executeWithoutParameters : Option Bool
  /-- The number of workers. -/
  jobs : Option Nat
  /-- The engine. -/
  engine : Option EngineEntry
  deriving DecidableEq, Repr

/-- The two ways to write a record. -/
inductive RecordForm (V : Type) where
  /-- By names. -/
  | named (fields : List (String × V))
  /-- By places. -/
  | positional (values : List V)

/-- How the values of a file format are read as what a setting needs. -/
structure ValueReader (V : Type) where
  /-- Reads a text. -/
  text : V → Option String
  /-- Reads a list. -/
  items : V → Option (List V)
  /-- Reads a count. -/
  number : V → Option Nat
  /-- Reads a truth value. -/
  flag : V → Option Bool
  /-- Reads the form of the report. -/
  mode : V → Option OutputMode
  /-- Reads a record. -/
  record : V → Option (RecordForm V)
  /-- Whether a value says anything where a setting may be left open, unless it is refused. -/
  isGiven : V → Option Bool
  /-- Whether a value may stand below an unknown name. -/
  isIgnorable : V → Bool

namespace ValueReader

variable {V α : Type}

/-- Reads a value that may stand for nothing. -/
def optional (reader : ValueReader V) (read : V → Option α) (value : V) : Option (Option α) :=
  (reader.isGiven value).bind fun given => if given then (read value).map some else some none

/-- Reads a list of texts. -/
def texts (reader : ValueReader V) (value : V) : Option (List String) :=
  (reader.items value).bind fun items => items.mapM reader.text

/-- The value of a name. -/
def find? (name : String) (fields : List (String × V)) : Option V :=
  (fields.find? fun field => field.1 = name).map Prod.snd

/-- Reads a setting that may be left open. -/
def openField (reader : ValueReader V) (read : V → Option α) (name : String)
    (fields : List (String × V)) : Option (Option α) :=
  match find? name fields with
  | none => some none
  | some value => reader.optional read value

/-- Reads a list of texts, which is empty unless it is given. -/
def textsField (reader : ValueReader V) (name : String) (fields : List (String × V)) :
    Option (List String) :=
  match find? name fields with
  | none => some []
  | some value => reader.texts value

/-- Whether fields may be read as a record: known names are given once, and what stands below
other names may be passed over. -/
def isProper (reader : ValueReader V) (known : List String) (fields : List (String × V)) : Bool :=
  known.all (fun name => fields.countP (fun field => field.1 = name) ≤ 1) &&
    fields.all fun field => known.contains field.1 || reader.isIgnorable field.2

/-- The names of what can be said about the engine. -/
def engineNames : List String := ["engine", "args"]

/-- Reads what is said about the engine. By places the program has to be given. -/
def engine (reader : ValueReader V) (value : V) : Option EngineEntry := do
  match ← reader.record value with
  | .named fields =>
    if reader.isProper engineNames fields then
      let program ← reader.openField reader.text "engine" fields
      let arguments ← reader.textsField "args" fields
      some ⟨program, arguments⟩
    else none
  | .positional [] => none
  | .positional (program :: more) =>
    let program ← reader.optional reader.text program
    let arguments ← match more with
      | [] => some []
      | arguments :: _ => reader.texts arguments
    some ⟨program, arguments⟩

/-- The names of the settings. -/
def settingNames : List String :=
  ["checks", "max_cell_count", "max_line_in_cell", "max_total_line_in_nb", "exclude_patterns",
    "output", "verbose", "execute_without_parameters", "jobs", "execute"]

/-- Reads what a file says. -/
def settings (reader : ValueReader V) (fields : List (String × V)) : Option FileSettings := do
  if !reader.isProper settingNames fields then none
  else
    let checks ← reader.textsField "checks" fields
    let maxCellCount ← reader.openField reader.number "max_cell_count" fields
    let maxLineInCell ← reader.openField reader.number "max_line_in_cell" fields
    let maxTotalLineInNotebook ← reader.openField reader.number "max_total_line_in_nb" fields
    let excludePatterns ← reader.textsField "exclude_patterns" fields
    let output ← reader.openField reader.mode "output" fields
    let verbose ← reader.openField reader.flag "verbose" fields
    let executeWithoutParameters ←
      reader.openField reader.flag "execute_without_parameters" fields
    let jobs ← reader.openField reader.number "jobs" fields
    let engine ← reader.openField reader.engine "execute" fields
    some ⟨checks, maxCellCount, maxLineInCell, maxTotalLineInNotebook, excludePatterns, output,
      verbose, executeWithoutParameters, jobs, engine⟩

end ValueReader

/-- The file that says nothing. -/
def FileSettings.empty : FileSettings :=
  ⟨[], none, none, none, [], none, none, none, none, none⟩

end NotebookLint
