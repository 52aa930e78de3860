import NotebookLint.Check
import NotebookLint.Text.Natural

/-!
# The command line

What can be said on the command line, and what it means. A command line is first cut into
occurrences: flags, options with their values, and runs of paths. The occurrences are then taken
in one by one, so of several mistakes the one that is met first is reported. Words are texts, so
words that are not UTF-8 are left out, and of a mistake only its kind is told.
-/

namespace NotebookLint

/-- The form of the report. -/
inductive OutputMode where
  /-- A text. -/
  | human
  /-- A JSON document. -/
  | json
  deriving DecidableEq, Repr

/-- The name of a form. -/
def OutputMode.name : OutputMode → String
  | .human => "human"
  | .json => "json"

/-- The form with this name. -/
def OutputMode.ofName? : String → Option OutputMode
  | "human" => some .human
  | "json" => some .json
  | _ => none

namespace CommandLine

/-- A flag, which stands alone. -/
inductive Flag where
  /-- Selects a check. -/
  | check (kind : CheckKind)
  /-- Executes without injecting parameters. -/
  | executeWithoutParameters
  /-- Lists every file. -/
  | verbose
  /-- Does without colours. -/
  | noColor
  deriving DecidableEq, Repr

/-- An option, which is followed by its value or values. -/
inductive Setting where
  /-- The limit on the number of code cells. -/
  | maxCellCount
  /-- The limit on the lines of a code cell. -/
  | maxLineInCell
  /-- The limit on the lines of all code cells. -/
  | maxTotalLineInNotebook
  /-- Patterns of paths to leave out. -/
  | excludePatterns
  /-- The form of the report. -/
  | output
  /-- The number of workers. -/
  | jobs
  /-- What is logged. -/
  | logLevel
  /-- The configuration file. -/
  | config
  deriving DecidableEq, Repr

/-- Whether an option takes more than one value. -/
def Setting.isOpenEnded : Setting → Bool
  | .excludePatterns => true
  | _ => false

/-- What a long name stands for. -/
inductive Name where
  /-- A flag. -/
  | flag (flag : Flag)
  /-- An option. -/
  | setting (setting : Setting)
  /-- The request for help. -/
  | help
  /-- The request for the version. -/
  | version
  deriving DecidableEq, Repr

/-- The long names, with the second spellings of those that have one. -/
def longNames : List (String × Name) :=
  [("cell_count", .flag (.check .cellCount)), ("cell-count", .flag (.check .cellCount)),
    ("is_ascending", .flag (.check .isAscending)), ("is-ascending", .flag (.check .isAscending)),
    ("has_md", .flag (.check .hasMarkdown)), ("has-md", .flag (.check .hasMarkdown)),
    ("line_in_cell", .flag (.check .lineInCell)), ("line-in-cell", .flag (.check .lineInCell)),
    ("total_line_in_nb", .flag (.check .totalLineInNotebook)),
    ("total-line-in-nb", .flag (.check .totalLineInNotebook)),
    ("execute", .flag (.check .execute)),
    ("execute_without_parameters", .flag .executeWithoutParameters),
    ("execute-without-parameters", .flag .executeWithoutParameters),
    ("max_cell_count", .setting .maxCellCount), ("max-cell-count", .setting .maxCellCount),
    ("max_line_in_cell", .setting .maxLineInCell), ("max-line-in-cell", .setting .maxLineInCell),
    ("max_total_line_in_nb", .setting .maxTotalLineInNotebook),
    ("max-total-line-in-nb", .setting .maxTotalLineInNotebook),
    ("exclude_patterns", .setting .excludePatterns),
    ("exclude-patterns", .setting .excludePatterns),
    ("verbose", .flag .verbose), ("output", .setting .output), ("no-color", .flag .noColor),
    ("jobs", .setting .jobs), ("log-level", .setting .logLevel), ("config", .setting .config),
    ("help", .help), ("version", .version)]

/-- What a long name stands for, if it is one. -/
def longName? (name : List Char) : Option Name :=
  (longNames.find? fun entry => entry.1.toList = name).map Prod.snd

/-- What a letter after a single dash stands for, if it is one. -/
def shortName? : Char → Option Name
  | 'v' => some (.flag .verbose)
  | 'h' => some .help
  | 'V' => some .version
  | _ => none

/-- A mistake on the command line. -/
inductive Mistake where
  /-- There is no flag or option with this name. -/
  | unknownArgument
  /-- A value is missing or is none of the possible values. -/
  | invalidValue
  /-- A value is no number. -/
  | valueValidation
  /-- A flag or an option is given twice. -/
  | argumentConflict
  /-- A flag is given a value. -/
  | tooManyValues
  deriving DecidableEq, Repr

/-- The wording of a mistake. -/
def Mistake.message : Mistake → String
  | .unknownArgument => "there is no such option"
  | .invalidValue => "a value is missing or not possible"
  | .valueValidation => "a value is no number"
  | .argumentConflict => "an option is given twice"
  | .tooManyValues => "a flag takes no value"

/-- Why a command line asks for no run. -/
inductive Stop where
  /-- It asks for the version. -/
  | version
  /-- It asks for help, the long form or the short one. -/
  | help (long : Bool)
  /-- It is mistaken. -/
  | mistake (mistake : Mistake)
  deriving DecidableEq, Repr

/-- One thing said on the command line. -/
inductive Occurrence where
  /-- A flag. -/
  | flag (flag : Flag)
  /-- An option with its values. -/
  | setting (setting : Setting) (values : List String)
  /-- Paths. -/
  | paths (values : List String)
  deriving DecidableEq, Repr

/-- What has been begun and may still be continued by the next word. -/
inductive Pending where
  /-- Nothing. -/
  | nothing
  /-- An option with the values so far. -/
  | setting (setting : Setting) (values : List String)
  /-- Paths so far. -/
  | paths (values : List String)
  deriving DecidableEq, Repr

/-- What has been begun, as it is when nothing continues it. -/
def Pending.close : Pending → List Occurrence
  | .nothing => []
  | .setting option values => [.setting option values]
  | .paths values => [.paths values]

/-- What follows from words that mean nothing but themselves. -/
def Pending.takeWord (pending : Pending) (word : String) : List Occurrence × Pending :=
  match pending with
  | .setting option values =>
    if values.isEmpty || option.isOpenEnded then ([], .setting option (values ++ [word]))
    else ([.setting option values], .paths [word])
  | .paths values => ([], .paths (values ++ [word]))
  | .nothing => ([], .paths [word])

/-- What follows from the words after a lone double dash, which are all paths. -/
def Pending.takePaths (pending : Pending) (words : List String) : List Occurrence :=
  match pending, words with
  | .paths values, _ => [.paths (values ++ words)]
  | _, [] => pending.close
  | _, _ => pending.close ++ [.paths words]

/-- Reads the letters after a single dash: the flags before the end, and why it ends early. -/
def letters : List Char → List Occurrence × Option Stop
  | [] => ([], none)
  | c :: rest =>
    match shortName? c with
    | some (.flag flag) =>
      let (occurrences, stop) := letters rest
      (.flag flag :: occurrences, stop)
    | some .help => ([], some (.help false))
    | some .version => ([], some .version)
    | some (.setting _) | none => ([], some (.mistake .unknownArgument))

/-- A long name and the value that is attached to it, if there is one. -/
def splitAttached (text : List Char) : List Char × Option String :=
  match text.dropWhile (· != '=') with
  | [] => (text, none)
  | _ :: value => (text.takeWhile (· != '='), some (String.ofList value))

/-- Cuts words into occurrences, and says why it ends early if it does. What has been begun is
closed by the next flag or option that is known; an unknown one is reported before it. -/
def occurrences (pending : Pending) : List String → List Occurrence × Option Stop
  | [] => (pending.close, none)
  | word :: rest =>
    let followedBy (before : List Occurrence) (after : List Occurrence × Option Stop) :
        List Occurrence × Option Stop := (before ++ after.1, after.2)
    match word.toList with
    | ['-', '-'] => (pending.takePaths rest, none)
    | '-' :: '-' :: text =>
      let (name, attached) := splitAttached text
      match longName? name, attached with
      | none, _ => ([], some (.mistake .unknownArgument))
      | some (.setting setting), some value =>
        followedBy (pending.close ++ [.setting setting [value]]) (occurrences .nothing rest)
      | some (.setting setting), none =>
        followedBy pending.close (occurrences (.setting setting []) rest)
      | some _, some _ => ([], some (.mistake .tooManyValues))
      | some (.flag flag), none =>
        followedBy (pending.close ++ [.flag flag]) (occurrences .nothing rest)
      | some .help, none => (pending.close, some (.help true))
      | some .version, none => (pending.close, some .version)
    | '-' :: letter :: more =>
      match shortName? letter with
      | none => ([], some (.mistake .unknownArgument))
      | some _ =>
        match letters (letter :: more) with
        | (flags, some stop) => (pending.close ++ flags, some stop)
        | (flags, none) => followedBy (pending.close ++ flags) (occurrences .nothing rest)
    | _ =>
      let (before, pending) := pending.takeWord word
      followedBy before (occurrences pending rest)

end CommandLine

/-- A command line that asks for a run. -/
structure Arguments where
  /-- The paths in order. -/
  paths : List String
  /-- The checks whose flags are given, in the order of reports. -/
  checks : List CheckKind
  /-- Whether to execute without injecting parameters. -/
  executeWithoutParameters : Bool
  /-- The limit on the number of code cells. -/
  maxCellCount : Option Nat
  /-- The limit on the lines of a code cell. -/
  maxLineInCell : Option Nat
  /-- The limit on the lines of all code cells. -/
  maxTotalLineInNotebook : Option Nat
  /-- The patterns of paths to leave out, in order. -/
  excludePatterns : List String
  /-- Whether to list every file. -/
  verbose : Bool
  /-- The form of the report. -/
  output : Option OutputMode
  /-- Whether to do without colours. -/
  noColor : Bool
  /-- The number of workers. -/
  jobs : Option Nat
  /-- What is logged. -/
  logLevel : Option String
  /-- The configuration file. -/
  config : Option String
  deriving DecidableEq, Repr

namespace Arguments

open CommandLine

/-- The empty command line. -/
def empty : Arguments :=
  ⟨[], [], false, none, none, none, [], false, none, false, none, none, none⟩

/-- Takes in a flag, which must not have been given before. -/
def addFlag (given : Arguments) (flag : Flag) : Except Mistake Arguments :=
  match flag with
  | .check kind =>
    if given.checks.contains kind then .error .argumentConflict
    else
      .ok { given with checks := CheckKind.all.filter fun k => k = kind || given.checks.contains k }
  | .executeWithoutParameters =>
    if given.executeWithoutParameters then .error .argumentConflict
    else .ok { given with executeWithoutParameters := true }
  | .verbose =>
    if given.verbose then .error .argumentConflict else .ok { given with verbose := true }
  | .noColor =>
    if given.noColor then .error .argumentConflict else .ok { given with noColor := true }

/-- The one value of an option that has not been given before. -/
def single {α : Type} (before : Option α) (read : String → Except Mistake α) :
    List String → Except Mistake (Option α)
  | [] => .error .invalidValue
  | value :: _ =>
    if before.isSome then .error .argumentConflict else (read value).map some

/-- Reads a number. -/
def readNumber (value : String) : Except Mistake Nat :=
  match Text.natural? value.toList with
  | some number => .ok number
  | none => .error .valueValidation

/-- Reads the form of the report. -/
def readOutput (value : String) : Except Mistake OutputMode :=
  match OutputMode.ofName? value with
  | some mode => .ok mode
  | none => .error .invalidValue

/-- Reads a path, which is not empty. -/
def readPath (value : String) : Except Mistake String :=
  if value.isEmpty then .error .invalidValue else .ok value

/-- Takes in an option with its values. -/
def addSetting (given : Arguments) (setting : Setting) (values : List String) :
    Except Mistake Arguments :=
  match setting with
  | .maxCellCount =>
    (single given.maxCellCount readNumber values).map fun n => { given with maxCellCount := n }
  | .maxLineInCell =>
    (single given.maxLineInCell readNumber values).map fun n => { given with maxLineInCell := n }
  | .maxTotalLineInNotebook =>
    (single given.maxTotalLineInNotebook readNumber values).map fun n =>
      { given with maxTotalLineInNotebook := n }
  | .excludePatterns =>
    if values.isEmpty then .error .invalidValue
    else .ok { given with excludePatterns := given.excludePatterns ++ values }
  | .output =>
    (single given.output readOutput values).map fun mode => { given with output := mode }
  | .jobs => (single given.jobs readNumber values).map fun n => { given with jobs := n }
  | .logLevel =>
    (single given.logLevel .ok values).map fun level => { given with logLevel := level }
  | .config =>
    (single given.config readPath values).map fun path => { given with config := path }

/-- Takes in paths. -/
def addPaths (given : Arguments) (values : List String) : Except Mistake Arguments :=
  (values.mapM readPath).map fun paths => { given with paths := given.paths ++ paths }

/-- Takes in an occurrence. -/
def add (given : Arguments) : Occurrence → Except Mistake Arguments
  | .flag flag => given.addFlag flag
  | .setting setting values => given.addSetting setting values
  | .paths values => given.addPaths values

/-- What words ask for. -/
def parse (words : List String) : Except Stop Arguments :=
  let (said, stop) := occurrences .nothing words
  match said.foldlM add empty with
  | .error mistake => .error (.mistake mistake)
  | .ok given =>
    match stop with
    | some stop => .error stop
    | none => .ok given

end Arguments

end NotebookLint
