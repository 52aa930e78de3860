import NotebookLint.Text.Blank

/-!
# Log filters

A log filter says up to which level each module's messages are shown. It is a list of parts
between commas: a level for all modules, a module, or a module with its level. The part with the
longest module name that begins the name of a module decides about it; of several such parts the
first. What stands after a slash is looked for in the messages. How it is understood, and whether it
is refused, is not decided here but by the search that a filter is read with.
-/

namespace NotebookLint.Log

open NotebookLint.Text

/-- The levels of messages, the gravest first; as the bound of a filter `off` shows nothing. -/
inductive Level where
  /-- Shows nothing. -/
  | off
  /-- Errors. -/
  | error
  /-- Warnings. -/
  | warn
  /-- Information. -/
  | info
  /-- Details. -/
  | debug
  /-- All details. -/
  | trace
  deriving DecidableEq, Repr

/-- The place of a level in the order. -/
def Level.rank : Level → Nat
  | .off => 0
  | .error => 1
  | .warn => 2
  | .info => 3
  | .debug => 4
  | .trace => 5

/-- The level with this name, whatever the case of its letters. -/
def Level.ofName? (name : List Char) : Option Level :=
  match String.ofList (name.map Char.toLower) with
  | "off" => some .off
  | "error" => some .error
  | "warn" => some .warn
  | "info" => some .info
  | "debug" => some .debug
  | "trace" => some .trace
  | _ => none

/-- A part of a filter. -/
structure Rule where
  /-- The beginning of the names of the modules that the part is about; empty for all. -/
  scope : List Char
  /-- The greatest level that is shown. -/
  bound : Level
  deriving DecidableEq, Repr

/-- Why a filter is refused. -/
inductive Fault where
  /-- It has more than one slash. -/
  | manySlashes (spec : String)
  /-- A part has more than one equals sign. -/
  | malformedPart (part : String)
  /-- The name of a module holds a blank. -/
  | blankInName (name : String)
  /-- There is no such level. -/
  | unknownLevel
  /-- What is to be looked for is refused for this reason. -/
  | badSearch (reason : String)
  deriving DecidableEq, Repr

/-- The wording of a fault. -/
def Fault.message : Fault → String
  | .manySlashes spec => "invalid log spec '" ++ spec ++ "' (too many '/'s), ignoring it"
  | .malformedPart part => "invalid part in log spec '" ++ part ++ "', ignoring it"
  | .blankInName name =>
    "ignoring invalid part in log spec '" ++ name ++ "' (contains a whitespace)"
  | .unknownLevel => "Invalid level filter"
  | .badSearch reason => "invalid regex filter - " ++ reason

/-- The wording of the faults of a filter. -/
def faultsMessage (faults : List Fault) : String :=
  "Failed to parse log specification: " ++ String.intercalate "; " (faults.map Fault.message)

/-- A filter. -/
structure Filter where
  /-- The parts, those about longer names first. -/
  rules : List Rule
  /-- What has to be found in a message for it to be shown, if anything. -/
  wanted : Option String
  deriving DecidableEq, Repr

/-- Whether a text occurs in another. -/
def occursIn (wanted : List Char) : List Char → Bool
  | [] => wanted.isEmpty
  | c :: rest => wanted.isPrefixOf (c :: rest) || occursIn wanted rest

/-- A way to look for something in messages. -/
structure Search where
  /-- Why something is refused, if it is. -/
  fault? : (wanted : String) → Option String
  /-- Whether something is found in a message. -/
  finds : (wanted message : String) → Bool

/-- The search for texts as they are written. -/
def Search.verbatim : Search :=
  ⟨fun _ => none, fun wanted message => occursIn wanted.toList message.toList⟩

/-- The pieces of a text between separators; there is always one more than separators. -/
def splitAt (separator : Char) : List Char → List (List Char)
  | [] => [[]]
  | c :: rest =>
    if c = separator then [] :: splitAt separator rest
    else
      match splitAt separator rest with
      | [] => [[c]]
      | piece :: pieces => (c :: piece) :: pieces

/-- Reads a part of a filter that is not blank. -/
def readRule (part : List Char) : Except Fault Rule :=
  let named (name : List Char) (rule : Rule) : Except Fault Rule :=
    if name.any isBlank then .error (.blankInName (String.ofList name)) else .ok rule
  match (splitAt '=' part).map trim with
  | [name] => named name (match Level.ofName? name with
    | some level => ⟨[], level⟩
    | none => ⟨name, .trace⟩)
  | [name, level] =>
    if level.isEmpty then named name ⟨name, .trace⟩
    else
      match named name ⟨name, .trace⟩, Level.ofName? level with
      | .error fault, _ => .error fault
      | .ok _, none => .error .unknownLevel
      | .ok rule, some bound => .ok { rule with bound := bound }
  | _ => .error (.malformedPart (String.ofList part))

/-- The results and the refusals of a list of readings. -/
def partition {α : Type} : List (Except Fault α) → List α × List Fault
  | [] => ([], [])
  | .ok value :: rest => let (values, faults) := partition rest; (value :: values, faults)
  | .error fault :: rest => let (values, faults) := partition rest; (values, fault :: faults)

/-- Puts a rule before those about shorter names and after all others. -/
def insertRule (rule : Rule) : List Rule → List Rule
  | [] => [rule]
  | other :: rest =>
    if other.scope.length < rule.scope.length then rule :: other :: rest
    else other :: insertRule rule rest

/-- The filter that a text describes, or all that is wrong with it. -/
def Filter.parse (search : Search) (spec : String) : Except (List Fault) Filter :=
  match splitAt '/' spec.toList with
  | rules :: more =>
    if 1 < more.length then .error [.manySlashes spec]
    else
      let parts := ((splitAt ',' rules).map trim).filter fun part => !part.isEmpty
      let (rules, faults) := partition (parts.map readRule)
      let wanted := more.head?.map String.ofList
      match faults ++ ((wanted.bind search.fault?).map Fault.badSearch).toList with
      | [] => .ok ⟨rules.foldl (fun sorted rule => insertRule rule sorted) [], wanted⟩
      | faults => .error faults
  | [] => .ok ⟨[], none⟩

/-- Whether a filter shows a message of a module. -/
def Filter.shows (search : Search) (filter : Filter) (level : Level) (module : String)
    (message : String) : Bool :=
  match filter.rules.find? fun rule => rule.scope.isPrefixOf module.toList with
  | some rule =>
    level.rank ≤ rule.bound.rank && filter.wanted.all fun wanted => search.finds wanted message
  | none => false

/-- What is shown unless something else is asked for. -/
def defaultSpec : String := "warn"

/-- The text of the filter: from the command line, only if that says nothing from the
environment, and the default if what is said is blank. -/
def specOf (commandLine environment : Option String) : String :=
  let said := trimmed ((commandLine.orElse fun _ => environment).getD "")
  if said.isEmpty then defaultSpec else said

end NotebookLint.Log
