import NotebookLint.Settings.Fault
import NotebookLint.Settings.File

/-!
# Settings

The settings of a run come from the command line, from a file, and from defaults, in this order
of precedence; only the patterns of both the command line and the file are taken together, and
only a file speaks of the engine. The checks are selected from the settings in the order of
reports.
-/

namespace NotebookLint

/-- The numbers that checks compare with. -/
structure Limits where
  /-- The limit on the number of code cells. -/
  maxCellCount : Nat
  /-- The limit on the lines of a code cell. -/
  maxLineInCell : Nat
  /-- The limit on the lines of all code cells. -/
  maxTotalLineInNotebook : Nat
  deriving DecidableEq, Repr

/-- The limits unless something else is asked for. -/
def Limits.default : Limits := ⟨20, 300, 1000⟩

/-- The program that executes notebooks. -/
structure EngineSettings where
  /-- The program. -/
  program : String
  /-- Its further arguments. -/
  arguments : List String
  deriving DecidableEq, Repr

/-- The engine unless something else is asked for. -/
def EngineSettings.default : EngineSettings := ⟨"papermill", []⟩

/-- The settings of a run. -/
structure Settings where
  /-- The paths to look for notebooks. -/
  paths : List String
  /-- The checks as they are asked for. -/
  checks : List CheckKind
  /-- The limits. -/
  limits : Limits
  /-- Whether declared defaults are injected when a notebook is executed. -/
  executeWithParameters : Bool
  /-- The patterns of paths to leave out. -/
  excludePatterns : List String
  /-- The form of the report. -/
  output : OutputMode
  /-- Whether every file is listed. -/
  verbose : Bool
  /-- Whether to do without colours. -/
  noColor : Bool
  /-- The number of workers. -/
  jobs : Option Nat
  /-- The engine. -/
  engine : EngineSettings
  /-- The configuration file that contributed. -/
  configPath : Option String
  deriving DecidableEq, Repr

namespace Settings

/-- The settings unless something else is asked for. -/
def default : Settings :=
  ⟨[], [], .default, true, [], .human, false, false, none, .default, none⟩

/-- A number that has to be positive: what the command line says, only if that says nothing what
the file says, and the default last. -/
def limit (name : LimitName) (given inFile : Option Nat) (default : Nat) :
    Except SettingsError Nat :=
  match (given.orElse fun _ => inFile).getD default with
  | 0 => .error (.invalidLimit name)
  | n => .ok n

/-- The limits of a run. -/
def resolveLimits (given : Arguments) (file : FileSettings) : Except SettingsError Limits := do
  let cells ← limit .cellCount given.maxCellCount file.maxCellCount Limits.default.maxCellCount
  let lines ←
    limit .lineInCell given.maxLineInCell file.maxLineInCell Limits.default.maxLineInCell
  let total ← limit .totalLineInNotebook given.maxTotalLineInNotebook file.maxTotalLineInNotebook
    Limits.default.maxTotalLineInNotebook
  .ok ⟨cells, lines, total⟩

/-- The number of workers, which is positive if it is given. -/
def resolveJobs (given : Arguments) (file : FileSettings) : Except SettingsError (Option Nat) :=
  match given.jobs.orElse fun _ => file.jobs with
  | some 0 => .error (.invalidLimit .jobs)
  | jobs => .ok jobs

/-- The checks that are asked for: by flags, and only without flags by the file. -/
def resolveChecks (given : Arguments) (file : FileSettings) :
    Except SettingsError (List CheckKind) :=
  if given.checks.isEmpty then file.checks.mapM CheckKind.ofName else .ok given.checks

/-- The engine of a run; a blank program counts as not given. -/
def resolveEngine (file : FileSettings) : EngineSettings :=
  match file.engine with
  | none => .default
  | some entry =>
    ⟨(entry.program.filter fun program => !Text.isBlankText program.toList).getD
        EngineSettings.default.program,
      entry.arguments⟩

/-- The settings that a command line and a file make, in a working directory. Of several faults
the first in this order is reported: no path, an unknown check, a limit, the number of workers. -/
def ofArguments (given : Arguments) (cwd : String) (configPath : Option String)
    (file : FileSettings) : Except SettingsError Settings := do
  if given.paths.isEmpty then .error .noPaths
  else
    let checks ← resolveChecks given file
    let limits ← resolveLimits given file
    let jobs ← resolveJobs given file
    .ok
      { paths := given.paths.map (Path.join cwd)
        checks := checks
        limits := limits
        executeWithParameters :=
          !(given.executeWithoutParameters || file.executeWithoutParameters.getD false)
        excludePatterns := given.excludePatterns ++ file.excludePatterns
        output := (given.output.orElse fun _ => file.output).getD .human
        verbose := given.verbose || file.verbose.getD false
        noColor := given.noColor
        jobs := jobs
        engine := resolveEngine file
        configPath := configPath }

/-- A check with what the settings say that it needs. -/
def bind (settings : Settings) : CheckKind → Check
  | .cellCount => .cellCount settings.limits.maxCellCount
  | .isAscending => .isAscending
  | .hasMarkdown => .hasMarkdown
  | .lineInCell => .lineInCell settings.limits.maxLineInCell
  | .totalLineInNotebook => .totalLineInNotebook settings.limits.maxTotalLineInNotebook
  | .execute => .execute settings.executeWithParameters

/-- The selected checks in the order of reports, each once. There has to be one. -/
def select (settings : Settings) : Except SettingsError (List Check) :=
  match CheckKind.all.filter settings.checks.contains with
  | [] => .error .noCheckSelected
  | kinds => .ok (kinds.map settings.bind)

end Settings

end NotebookLint
