import NotebookLint.CommandLine.Help
import NotebookLint.Discovery
import NotebookLint.Engine.Process
import NotebookLint.Log.Filter
import NotebookLint.Notebook.File
import NotebookLint.Report.Document
import NotebookLint.Report.Width
import NotebookLint.Settings.Config

/-!
# Runs

What the program does with a command line, as a function of all it depends on. A run that is
refused, for its command line, its log filter or its settings, reads no notebook, asks no engine
and reports nothing.
-/

namespace NotebookLint

/-- What a run depends on besides its command line. -/
structure Surroundings where
  /-- The files. -/
  tree : FileTree
  /-- The working directory. -/
  cwd : String
  /-- The environment. -/
  environment : List (String × String)
  /-- Whether the output goes to a terminal. -/
  onTerminal : Bool
  /-- How programs are started. -/
  launch : Engine.Launcher
  /-- The directory for executed copies. -/
  scratch : String
  /-- How long the run takes. -/
  milliseconds : Nat
  /-- How a log filter looks for something in messages. -/
  search : Log.Search := .verbatim

/-- The value of a variable of the environment. -/
def Surroundings.environmentText? (surroundings : Surroundings) (name : String) : Option String :=
  (surroundings.environment.find? fun entry => entry.1 = name).map Prod.snd

/-- A logged warning. -/
structure Warning where
  /-- The module that warns. -/
  module : String
  /-- What it says. -/
  text : String
  deriving DecidableEq, Repr

/-- The line that shows a warning. -/
def Warning.line (warning : Warning) : String :=
  "WARN [" ++ warning.module ++ "] " ++ warning.text

/-- Why a run ends without a report. -/
inductive RunFault where
  /-- The log filter is refused. -/
  | log (spec : String) (faults : List Log.Fault)
  /-- The settings are refused. -/
  | settings (error : SettingsError)
  deriving DecidableEq, Repr

/-- The wording of a fault, with its causes. -/
def RunFault.message : RunFault → String
  | .log spec faults => "invalid log level `" ++ spec ++ "`: " ++ Log.faultsMessage faults
  | .settings error => error.finalMessage

/-- What a run is about to do. -/
structure Plan where
  /-- The settings. -/
  settings : Settings
  /-- The selected checks. -/
  checks : List Check
  /-- The patterns of paths to leave out. -/
  excluded : List ExcludePattern
  /-- What is logged. -/
  filter : Log.Filter

/-- How a run ends. -/
inductive RunEnd where
  /-- The command line asks for no run. -/
  | stopped (stop : CommandLine.Stop)
  /-- The run is refused. -/
  | refused (fault : RunFault)
  /-- The notebooks were checked. -/
  | reported (plan : Plan) (report : Report)

/-- All that a run leaves behind. -/
structure RunTrace where
  /-- How it ends. -/
  ending : RunEnd
  /-- What the engine was asked. -/
  requests : List ExecutionRequest
  /-- The warnings that are shown. -/
  warnings : List Warning
  /-- What is printed. -/
  output : String

namespace Run

/-- The plan of a run, or the first reason to refuse it: the log filter, the settings, the
selection of checks, the exclude patterns. -/
def plan (surroundings : Surroundings) (given : Arguments) : Except RunFault Plan := do
  let spec := Log.specOf given.logLevel (surroundings.environmentText? "NBCHECK_LOG")
  let filter ← (Log.Filter.parse surroundings.search spec).mapError (.log spec)
  let settings ←
    (Settings.resolve surroundings.tree surroundings.cwd given).mapError .settings
  let checks ← settings.select.mapError .settings
  let excluded ← (Exclusion.compile settings.excludePatterns).mapError .settings
  .ok ⟨settings, checks, excluded, filter⟩

/-- The notebooks of a plan. -/
def files (surroundings : Surroundings) (plan : Plan) : List String :=
  Exclusion.keep plan.excluded
    (Discovery.collect surroundings.tree surroundings.cwd plan.settings.paths)

/-- The engine of a plan. -/
def engine (surroundings : Surroundings) (plan : Plan) : Engine :=
  Engine.execute surroundings.launch
    ⟨plan.settings.engine.program, plan.settings.engine.arguments⟩ surroundings.scratch

/-- The directory that files are shown relative to. -/
def base (surroundings : Surroundings) : String :=
  (surroundings.tree.canonical? "/" surroundings.cwd).getD surroundings.cwd

/-- Whether colours are used: only on a terminal, and only if nothing speaks against it. -/
def usesColor (surroundings : Surroundings) (settings : Settings) : Bool :=
  settings.output == .human && !settings.noColor &&
    (surroundings.environmentText? "NO_COLOR").isNone && surroundings.onTerminal

/-- The text of a report in the form that the settings ask for. -/
def render (surroundings : Surroundings) (settings : Settings) (report : Report) : String :=
  let base := some (base surroundings)
  match settings.output with
  | .json => Report.document base surroundings.milliseconds report
  | .human =>
    Report.human
      ⟨settings.verbose, usesColor surroundings settings, base,
        Report.widthOf (surroundings.environmentText? "COLUMNS")⟩
      surroundings.milliseconds report

/-- The warnings of a plan's run, those that the log filter shows. -/
def warnings (surroundings : Surroundings) (plan : Plan) (files : List String)
    (texts : List String) : List Warning :=
  let missing : List Warning :=
    if files.isEmpty then [⟨"nbcheck", "no notebooks found under the given paths"⟩] else []
  let asked := texts.map fun text => (⟨"nbcheck::execute", text⟩ : Warning)
  (missing ++ asked).filter fun warning =>
    plan.filter.shows surroundings.search .warn warning.module warning.text

/-- Carries out a plan. -/
def carryOut (surroundings : Surroundings) (plan : Plan) : RunTrace :=
  let files := files surroundings plan
  let engine := engine surroundings plan
  let load := Notebook.load surroundings.tree surroundings.cwd
  let report := Report.run engine load files plan.checks
  { ending := .reported plan report
    requests := Report.requests engine load files plan.checks
    warnings :=
      warnings surroundings plan files (Report.warnings engine load files plan.checks)
    output := render surroundings plan.settings report ++ "\n" }

/-- What is printed when the command line asks for no run. -/
def stopOutput : CommandLine.Stop → String
  | .version => CommandLine.versionText
  | .help long => CommandLine.helpText long
  | .mistake _ => ""

/-- What the program does with a command line, given how it carries out a plan. -/
def performBy (carryOut : Plan → RunTrace) (surroundings : Surroundings) (words : List String) :
    RunTrace :=
  match Arguments.parse words with
  | .error stop => ⟨.stopped stop, [], [], stopOutput stop⟩
  | .ok given =>
    match plan surroundings given with
    | .error fault => ⟨.refused fault, [], [], ""⟩
    | .ok plan => carryOut plan

/-- What the program does with a command line. -/
def perform (surroundings : Surroundings) (words : List String) : RunTrace :=
  performBy (carryOut surroundings) surroundings words

end Run

/-- The exit status of an ending: zero for help and for reports without a failure. -/
def RunEnd.exitCode : RunEnd → Nat
  | .stopped (.mistake _) => 1
  | .stopped _ => 0
  | .refused _ => 1
  | .reported _ report => report.exitCode

/-- The last words of a run that ends with a complaint instead of a report. -/
def RunEnd.lastWords : RunEnd → Option String
  | .stopped (.mistake mistake) => some ("error: " ++ mistake.message)
  | .refused fault => some ("error: " ++ fault.message)
  | _ => none

end NotebookLint
