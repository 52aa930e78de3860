import NotebookLint.Check
import NotebookLint.Exclusion
import NotebookLint.FileTree

/-!
# Refused settings

What is wrong with the settings of a run. A refusal ends the run before any notebook is read. Of a
malformed configuration file only its path is told, not what is wrong inside it.
-/

namespace NotebookLint

/-- A number that has to be positive. -/
inductive LimitName where
  /-- The limit on the number of code cells. -/
  | cellCount
  /-- The limit on the lines of a code cell. -/
  | lineInCell
  /-- The limit on the lines of all code cells. -/
  | totalLineInNotebook
  /-- The number of workers. -/
  | jobs
  deriving DecidableEq, Repr

/-- The name of a number as a setting. -/
def LimitName.text : LimitName → String
  | .cellCount => "max_cell_count"
  | .lineInCell => "max_line_in_cell"
  | .totalLineInNotebook => "max_total_line_in_nb"
  | .jobs => "jobs"

/-- Why settings are refused. -/
inductive SettingsError where
  /-- No path is given. -/
  | noPaths
  /-- No check is selected. -/
  | noCheckSelected
  /-- There is no check with this name. -/
  | unknownCheck (name : String)
  /-- A number that has to be positive is zero. -/
  | invalidLimit (name : LimitName)
  /-- An exclude pattern is invalid. -/
  | invalidPattern (pattern : String) (fault : PatternFault)
  /-- The configuration file cannot be read. -/
  | unreadableConfig (path : String) (fault : FileFault)
  /-- The configuration file is malformed. -/
  | malformedConfig (path : String)
  deriving DecidableEq, Repr

namespace SettingsError

/-- The wording of a refusal. -/
def message : SettingsError → String
  | .noPaths => "no notebook path given; pass at least one file or directory"
  | .noCheckSelected => "Please select at least one check!"
  | .unknownCheck name =>
    "unknown check `" ++ name ++ "` (expected one of: " ++
      String.intercalate ", " (CheckKind.all.map CheckKind.name) ++ ")"
  | .invalidLimit name => "`" ++ name.text ++ "` must be greater than 0"
  | .invalidPattern pattern fault =>
    "invalid exclude pattern `" ++ pattern ++ "`: " ++ fault.message
  | .unreadableConfig path fault =>
    "failed to read config file " ++ path ++ ": " ++ fault.message
  | .malformedConfig path => "invalid config file " ++ path

/-- The wording of a refusal at the end of a run, where the cause of a cause is repeated. -/
def finalMessage (error : SettingsError) : String :=
  match error with
  | .unreadableConfig _ fault => error.message ++ ": " ++ fault.message
  | _ => error.message

end SettingsError

/-- The patterns of texts, or the refusal of the first invalid one. -/
def Exclusion.compile (texts : List String) : Except SettingsError (List ExcludePattern) :=
  (Exclusion.parse texts).mapError fun refused => .invalidPattern refused.1 refused.2

/-- The kind of check with this name, or the refusal of the name. -/
def CheckKind.ofName (name : String) : Except SettingsError CheckKind :=
  match CheckKind.ofName? name with
  | some kind => .ok kind
  | none => .error (.unknownCheck name)

end NotebookLint
