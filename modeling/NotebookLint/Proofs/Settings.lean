import NotebookLint.Settings.Config

/-!
# Which setting prevails

What the command line says prevails over the configuration file, and the file over the defaults.
Files that differ only in what the command line overrides make the same settings or the same
refusal, also if one of them is wrong there: an overridden entry is never looked at. Patterns of
paths to leave out are taken together, and the engine is a matter of the file alone.

Of several faults the first one is reported: the file cannot be read or is malformed, no path is
given, the file names an unknown check, a number that has to be positive is zero.
-/

namespace NotebookLint

/-- The numbers that have to be positive, in the order in which they are looked at. -/
def LimitName.all : List LimitName := [.cellCount, .lineInCell, .totalLineInNotebook, .jobs]

/-- A number as the command line gives it. -/
def Arguments.number? (given : Arguments) : LimitName → Option Nat
  | .cellCount => given.maxCellCount
  | .lineInCell => given.maxLineInCell
  | .totalLineInNotebook => given.maxTotalLineInNotebook
  | .jobs => given.jobs

/-- A number as a file gives it. -/
def FileSettings.number? (file : FileSettings) : LimitName → Option Nat
  | .cellCount => file.maxCellCount
  | .lineInCell => file.maxLineInCell
  | .totalLineInNotebook => file.maxTotalLineInNotebook
  | .jobs => file.jobs

namespace Settings

/-- A number unless something else is asked for; the number of workers is left open. -/
def defaultNumber? : LimitName → Option Nat
  | .cellCount => some 20
  | .lineInCell => some 300
  | .totalLineInNotebook => some 1000
  | .jobs => none

/-- A number of a run. -/
def number? (settings : Settings) : LimitName → Option Nat
  | .cellCount => some settings.limits.maxCellCount
  | .lineInCell => some settings.limits.maxLineInCell
  | .totalLineInNotebook => some settings.limits.maxTotalLineInNotebook
  | .jobs => settings.jobs

/-- The number that prevails: the one of the command line, else the one of the file, else the
default. -/
def prevailing? (given : Arguments) (file : FileSettings) (name : LimitName) : Option Nat :=
  (given.number? name).or ((file.number? name).or (defaultNumber? name))

/-- The first number that prevails and is zero. -/
def firstZero? (given : Arguments) (file : FileSettings) : Option LimitName :=
  LimitName.all.find? fun name => prevailing? given file name = some 0

/-- The first name of a check in a file that is none, if the command line selects no check. -/
def firstUnknown? (given : Arguments) (file : FileSettings) : Option String :=
  if given.checks = [] then file.checks.find? fun name => (CheckKind.ofName? name).isNone else none

/-- The configuration file of a run: the one that is given, or the one that is found. -/
def configPath? (tree : FileTree) (cwd : String) (given : Arguments) : Option String :=
  match given.config with
  | some path => some (Path.join cwd path)
  | none => findConfig tree cwd

/-- What the configuration file of a run says; no file says nothing. -/
def configured (tree : FileTree) (cwd : String) (given : Arguments) :
    Except SettingsError FileSettings :=
  match configPath? tree cwd given with
  | none => .ok .empty
  | some path => loadConfig tree path

/-- The refusals for the sake of the configuration file of a run. -/
inductive ConfigFault (tree : FileTree) (cwd : String) (given : Arguments) :
    SettingsError → Prop where
  /-- The file cannot be read. -/
  | unreadable {path : String} {fault : FileFault} (hpath : configPath? tree cwd given = some path)
      (hread : tree.readText "/" path = .error fault) :
      ConfigFault tree cwd given (.unreadableConfig path fault)
  /-- The file can be read, but is malformed. -/
  | malformed {path text : String} (hpath : configPath? tree cwd given = some path)
      (hread : tree.readText "/" path = .ok text) (hparse : parseConfig path text.toList = none) :
      ConfigFault tree cwd given (.malformedConfig path)

/-- Whether files say the same wherever a command line leaves it to them. -/
structure AgreeWhereOpen (given : Arguments) (file other : FileSettings) : Prop where
  /-- Flags for checks override the checks of a file. -/
  checks : given.checks = [] → file.checks = other.checks
  /-- A number that is given overrides the one of a file. -/
  numbers : ∀ name, given.number? name = none → file.number? name = other.number? name
  /-- So does the form of the report. -/
  output : given.output = none → file.output = other.output
  /-- A flag that is set overrides what a file says. -/
  verbose : given.verbose = false → file.verbose = other.verbose
  /-- So does the flag to execute without parameters. -/
  executeWithoutParameters : given.executeWithoutParameters = false →
    file.executeWithoutParameters = other.executeWithoutParameters
  /-- The patterns of a file always count. -/
  excludePatterns : file.excludePatterns = other.excludePatterns
  /-- The engine of a file always counts. -/
  engine : file.engine = other.engine

/-- The refusals of a command line with a file that is read, each of them if none before it
applies. -/
inductive Refuses (given : Arguments) (file : FileSettings) : SettingsError → Prop where
  /-- No path is given. -/
  | noPaths (hpaths : given.paths = []) : Refuses given file .noPaths
  /-- The file names an unknown check, of which the first is reported. -/
  | unknownCheck {name : String} (hpaths : given.paths ≠ [])
      (hname : firstUnknown? given file = some name) : Refuses given file (.unknownCheck name)
  /-- A number that has to be positive is zero, of which the first is reported. -/
  | invalidLimit {name : LimitName} (hpaths : given.paths ≠ [])
      (hchecks : firstUnknown? given file = none) (hzero : firstZero? given file = some name) :
      Refuses given file (.invalidLimit name)

/-- Whether settings are those of a command line where it says something, and of a file where it
does not. -/
structure Merges (given : Arguments) (cwd : String) (configPath : Option String)
    (file : FileSettings) (settings : Settings) : Prop where
  /-- The paths are those of the command line, in the working directory. -/
  paths : settings.paths = given.paths.map (Path.join cwd)
  /-- The checks are those with flags, or those that the file names if there are none. -/
  checks : if given.checks = [] then file.checks.map CheckKind.ofName? = settings.checks.map some
    else settings.checks = given.checks
  /-- The numbers are those that prevail. -/
  numbers : ∀ name, settings.number? name = prevailing? given file name
  /-- No number is zero. -/
  positive : ∀ name, settings.number? name ≠ some 0
  /-- The patterns of the command line come first, then those of the file. -/
  excludePatterns : settings.excludePatterns = given.excludePatterns ++ file.excludePatterns
  /-- The form of the report is given, or in the file, or a text. -/
  output : some settings.output = given.output.or (file.output.or (some .human))
  /-- Every file is listed if either asks for it. -/
  verbose : settings.verbose = true ↔ given.verbose = true ∨ file.verbose = some true
  /-- Nothing is injected if either asks for it. -/
  executeWithParameters : settings.executeWithParameters = false ↔
    given.executeWithoutParameters = true ∨ file.executeWithoutParameters = some true
  /-- Colours are a matter of the command line. -/
  noColor : settings.noColor = given.noColor
  /-- The engine is a matter of the file. -/
  engine : settings.engine = resolveEngine file
  /-- The file is remembered. -/
  configPath : settings.configPath = configPath

section Overriding

variable {given : Arguments} {file other : FileSettings}

/-- What stands behind something given makes no difference. -/
theorem orElse_congr {α : Type} {given inFile inOther : Option α}
    (h : given = none → inFile = inOther) :
    (given.orElse fun _ => inFile) = given.orElse fun _ => inOther := by
  cases given with
  | none => exact h rfl
  | some value => rfl

/-- What stands behind a flag that is set makes no difference. -/
theorem or_congr_of_false {given inFile inOther : Bool} (h : given = false → inFile = inOther) :
    (given || inFile) = (given || inOther) := by
  cases given with
  | false => exact h rfl
  | true => rfl

/-- The checks of a file make no difference if there are flags for checks. -/
theorem resolveChecks_congr (h : AgreeWhereOpen given file other) :
    resolveChecks given file = resolveChecks given other := by
  rw [resolveChecks, resolveChecks]
  by_cases hchecks : given.checks = []
  · rw [h.checks hchecks]
  · have hgiven : ¬given.checks.isEmpty := by simpa using hchecks
    rw [if_neg hgiven, if_neg hgiven]

/-- The limits are looked at one after the other. -/
theorem resolveLimits_eq (given : Arguments) (file : FileSettings) :
    resolveLimits given file = (do
      let cells ← limit .cellCount (given.number? .cellCount) (file.number? .cellCount) 20
      let lines ← limit .lineInCell (given.number? .lineInCell) (file.number? .lineInCell) 300
      let total ← limit .totalLineInNotebook (given.number? .totalLineInNotebook)
        (file.number? .totalLineInNotebook) 1000
      .ok ⟨cells, lines, total⟩) :=
  rfl

/-- The limits of a file make no difference where they are given. -/
theorem resolveLimits_congr (h : AgreeWhereOpen given file other) :
    resolveLimits given file = resolveLimits given other := by
  have hlimit (name : LimitName) (default : Nat) :
      limit name (given.number? name) (file.number? name) default =
        limit name (given.number? name) (other.number? name) default := by
    rw [limit, limit, orElse_congr (h.numbers name)]
  rw [resolveLimits_eq, resolveLimits_eq, hlimit, hlimit, hlimit]

/-- The number of workers in a file makes no difference if it is given. -/
theorem resolveJobs_congr (h : AgreeWhereOpen given file other) :
    resolveJobs given file = resolveJobs given other := by
  have hjobs : (given.jobs.orElse fun _ => file.jobs) = given.jobs.orElse fun _ => other.jobs :=
    orElse_congr (h.numbers .jobs)
  rw [resolveJobs, resolveJobs, hjobs]

/-- Files that agree where a command line leaves it to them make the same settings with it, or the
same refusal. -/
theorem ofArguments_congr (h : AgreeWhereOpen given file other) (cwd : String)
    (configPath : Option String) :
    ofArguments given cwd configPath file = ofArguments given cwd configPath other := by
  have hverbose := or_congr_of_false fun hflag => congrArg (Option.getD · false) (h.verbose hflag)
  have hexecute := or_congr_of_false fun hflag =>
    congrArg (Option.getD · false) (h.executeWithoutParameters hflag)
  have hengine : resolveEngine file = resolveEngine other := by
    rw [resolveEngine, resolveEngine, h.engine]
  rw [ofArguments, ofArguments, resolveChecks_congr h, resolveLimits_congr h, resolveJobs_congr h,
    hverbose, hexecute, hengine, h.excludePatterns, orElse_congr h.output]

end Overriding

section Faults

variable {given : Arguments} {file : FileSettings}

/-- Names of checks are read up to the first that is unknown. -/
theorem mapM_ofName_cases (names : List String) :
    (∃ name, names.find? (fun name => (CheckKind.ofName? name).isNone) = some name ∧
        names.mapM CheckKind.ofName = .error (.unknownCheck name)) ∨
      names.find? (fun name => (CheckKind.ofName? name).isNone) = none ∧
        ∃ kinds, names.mapM CheckKind.ofName = .ok kinds ∧
          names.map CheckKind.ofName? = kinds.map some := by
  induction names with
  | nil => exact .inr ⟨rfl, [], rfl, rfl⟩
  | cons name names ih =>
    rw [List.mapM_cons, CheckKind.ofName]
    cases hkind : CheckKind.ofName? name with
    | none => exact .inl ⟨name, by simp [hkind], rfl⟩
    | some kind =>
      have hskip : (name :: names).find? (fun name => (CheckKind.ofName? name).isNone) =
          names.find? fun name => (CheckKind.ofName? name).isNone := by
        simp [hkind]
      rw [hskip]
      rcases ih with ⟨unknown, hfind, hmap⟩ | ⟨hfind, kinds, hmap, hkinds⟩
      · exact .inl ⟨unknown, hfind, by rw [hmap]; rfl⟩
      · exact .inr ⟨hfind, kind :: kinds, by rw [hmap]; rfl, by simp [hkind, hkinds]⟩

/-- The checks are known, or the first unknown one is reported. -/
theorem resolveChecks_cases (given : Arguments) (file : FileSettings) :
    (∃ name, firstUnknown? given file = some name ∧
        resolveChecks given file = .error (.unknownCheck name)) ∨
      firstUnknown? given file = none ∧ ∃ checks, resolveChecks given file = .ok checks ∧
        if given.checks = [] then file.checks.map CheckKind.ofName? = checks.map some
        else checks = given.checks := by
  rw [firstUnknown?, resolveChecks]
  by_cases hnone : given.checks = []
  · have hempty : given.checks.isEmpty := by simp [hnone]
    simp only [if_pos hnone, if_pos hempty]
    exact mapM_ofName_cases file.checks
  · have hgiven : ¬given.checks.isEmpty := by simpa using hnone
    simp only [if_neg hnone, if_neg hgiven]
    exact .inr ⟨trivial, given.checks, rfl, rfl⟩

/-- A limit is the number that prevails, unless that is zero. -/
theorem limit_cases (given : Arguments) (file : FileSettings) (name : LimitName) {default : Nat}
    (hdefault : defaultNumber? name = some default) :
    prevailing? given file name = some 0 ∧
        limit name (given.number? name) (file.number? name) default =
          .error (.invalidLimit name) ∨
      ∃ n, prevailing? given file name = some (n + 1) ∧
        limit name (given.number? name) (file.number? name) default = .ok (n + 1) := by
  have hvalue : prevailing? given file name =
      some (((given.number? name).orElse fun _ => file.number? name).getD default) := by
    rw [prevailing?, hdefault]
    cases given.number? name <;> cases file.number? name <;> rfl
  rw [hvalue, limit]
  cases ((given.number? name).orElse fun _ => file.number? name).getD default with
  | zero => exact .inl ⟨rfl, rfl⟩
  | succ n => exact .inr ⟨n, rfl, rfl⟩

/-- The number of workers is the one that prevails, unless that is zero. -/
theorem resolveJobs_cases (given : Arguments) (file : FileSettings) :
    prevailing? given file .jobs = some 0 ∧
        resolveJobs given file = .error (.invalidLimit .jobs) ∨
      prevailing? given file .jobs ≠ some 0 ∧
        resolveJobs given file = .ok (prevailing? given file .jobs) := by
  have hvalue : (given.jobs.orElse fun _ => file.jobs) = prevailing? given file .jobs := by
    show _ = given.jobs.or (file.jobs.or none)
    cases given.jobs <;> cases file.jobs <;> rfl
  rw [resolveJobs, hvalue]
  rcases prevailing? given file .jobs with _ | _ | n
  · exact .inr ⟨nofun, rfl⟩
  · exact .inl ⟨rfl, rfl⟩
  · exact .inr ⟨by simp, rfl⟩

/-- The limits are those that prevail, or the first that is zero is reported; the number of workers
is looked at after them. -/
theorem resolveLimits_cases (given : Arguments) (file : FileSettings) :
    (∃ name, firstZero? given file = some name ∧
        resolveLimits given file = .error (.invalidLimit name)) ∨
      firstZero? given file =
          (if prevailing? given file .jobs = some 0 then some .jobs else none) ∧
        ∃ limits, resolveLimits given file = .ok limits ∧
          prevailing? given file .cellCount = some limits.maxCellCount ∧
          prevailing? given file .lineInCell = some limits.maxLineInCell ∧
          prevailing? given file .totalLineInNotebook = some limits.maxTotalLineInNotebook := by
  rw [resolveLimits_eq, firstZero?, LimitName.all]
  rcases limit_cases given file .cellCount rfl with ⟨hzero, hfirst⟩ | ⟨cells, hcells, hfirst⟩
  · exact .inl ⟨.cellCount, by simp [hzero], by rw [hfirst]; rfl⟩
  rcases limit_cases given file .lineInCell rfl with ⟨hzero, hsecond⟩ | ⟨lines, hlines, hsecond⟩
  · exact .inl ⟨.lineInCell, by simp [hcells, hzero], by rw [hfirst, hsecond]; rfl⟩
  rcases limit_cases given file .totalLineInNotebook rfl with
    ⟨hzero, hthird⟩ | ⟨total, htotal, hthird⟩
  · exact .inl ⟨.totalLineInNotebook, by simp [hcells, hlines, hzero],
      by rw [hfirst, hsecond, hthird]; rfl⟩
  refine .inr ⟨?_, ⟨cells + 1, lines + 1, total + 1⟩, ?_, hcells, hlines, htotal⟩
  · by_cases hjobs : prevailing? given file .jobs = some 0 <;>
      simp [hcells, hlines, htotal, hjobs]
  · rw [hfirst, hsecond, hthird]
    rfl

/-- Where no number is reported none that prevails is zero. -/
theorem prevailing?_ne_zero (hzero : firstZero? given file = none) (name : LimitName) :
    prevailing? given file name ≠ some 0 := by
  have hmem : name ∈ LimitName.all := by cases name <;> simp [LimitName.all]
  simpa using List.find?_eq_none.1 hzero name hmem

/-- The numbers of settings are those that prevail if the limits and the number of workers are. -/
theorem number?_of_limits {settings : Settings}
    (hcells : prevailing? given file .cellCount = some settings.limits.maxCellCount)
    (hlines : prevailing? given file .lineInCell = some settings.limits.maxLineInCell)
    (htotal : prevailing? given file .totalLineInNotebook =
      some settings.limits.maxTotalLineInNotebook)
    (hjobs : prevailing? given file .jobs = settings.jobs) (name : LimitName) :
    settings.number? name = prevailing? given file name := by
  cases name with
  | cellCount => exact hcells.symm
  | lineInCell => exact hlines.symm
  | totalLineInNotebook => exact htotal.symm
  | jobs => exact hjobs.symm

/-- Of the refusals of a command line with a file one applies at most. -/
theorem Refuses.unique {first second : SettingsError} (hfirst : Refuses given file first)
    (hsecond : Refuses given file second) : first = second := by
  cases hfirst <;> cases hsecond <;> simp_all

/-- A command line and a file make the settings that merge them, unless they are refused. -/
theorem ofArguments_cases (given : Arguments) (cwd : String) (configPath : Option String)
    (file : FileSettings) :
    (∃ error, Refuses given file error ∧
        ofArguments given cwd configPath file = .error error) ∨
      (∀ error, ¬Refuses given file error) ∧ ∃ settings,
        ofArguments given cwd configPath file = .ok settings ∧
          Merges given cwd configPath file settings := by
  -- The faults are looked at in the order in which they are reported.
  by_cases hpaths : given.paths = []
  · exact .inl ⟨_, .noPaths hpaths, by simp [ofArguments, hpaths]⟩
  have hgiven : ¬given.paths.isEmpty := by simpa using hpaths
  rw [ofArguments, if_neg hgiven]
  rcases resolveChecks_cases given file with
    ⟨name, hname, hresolve⟩ | ⟨hknown, checks, hchecks, hkinds⟩
  · exact .inl ⟨_, .unknownCheck hpaths hname, by rw [hresolve]; rfl⟩
  rcases resolveLimits_cases given file with
    ⟨name, hzero, hresolve⟩ | ⟨hzero, limits, hlimits, hcells, hlines, htotal⟩
  · exact .inl ⟨_, .invalidLimit hpaths hknown hzero, by rw [hchecks, hresolve]; rfl⟩
  rcases resolveJobs_cases given file with ⟨hjobs, hresolve⟩ | ⟨hjobs, hresolve⟩
  · rw [if_pos hjobs] at hzero
    exact .inl ⟨_, .invalidLimit hpaths hknown hzero, by rw [hchecks, hlimits, hresolve]; rfl⟩
  rw [if_neg hjobs] at hzero
  refine .inr ⟨?_, _, by rw [hchecks, hlimits, hresolve]; rfl, ?_⟩
  · intro error hrefuses
    cases hrefuses <;> simp_all
  exact
    { paths := rfl
      checks := hkinds
      numbers := number?_of_limits hcells hlines htotal rfl
      positive := fun name => by
        rw [number?_of_limits hcells hlines htotal rfl]
        exact prevailing?_ne_zero hzero name
      excludePatterns := rfl
      output := by cases given.output <;> cases file.output <;> rfl
      verbose := by cases file.verbose <;> simp
      executeWithParameters := by
        cases given.executeWithoutParameters <;> cases file.executeWithoutParameters <;> simp
      noColor := rfl
      engine := rfl
      configPath := rfl }

/-- A command line is refused with a file exactly if a refusal applies. -/
theorem ofArguments_eq_error_iff (given : Arguments) (cwd : String) (configPath : Option String)
    (file : FileSettings) (error : SettingsError) :
    ofArguments given cwd configPath file = .error error ↔ Refuses given file error := by
  rcases ofArguments_cases given cwd configPath file with
    ⟨actual, hrefuses, hresolve⟩ | ⟨hnone, settings, hresolve, -⟩
  · rw [hresolve, Except.error.injEq]
    exact ⟨fun h => h ▸ hrefuses, hrefuses.unique⟩
  · simp [hresolve, hnone]

/-- The settings that a command line and a file make merge them. -/
theorem merges_of_ofArguments {cwd : String} {configPath : Option String} {settings : Settings}
    (h : ofArguments given cwd configPath file = .ok settings) :
    Merges given cwd configPath file settings := by
  rcases ofArguments_cases given cwd configPath file with
    ⟨error, -, hresolve⟩ | ⟨-, actual, hresolve, hmerges⟩
  · rw [hresolve] at h
    cases h
  · rw [hresolve, Except.ok.injEq] at h
    exact h ▸ hmerges

end Faults

section Resolve

/-- The settings of a run are those of its command line with what its configuration file says. -/
theorem resolve_eq (tree : FileTree) (cwd : String) (given : Arguments) :
    resolve tree cwd given =
      (configured tree cwd given).bind (ofArguments given cwd (configPath? tree cwd given)) := by
  have hresolve : resolve tree cwd given = match configPath? tree cwd given with
      | none => ofArguments given cwd none .empty
      | some path => (loadConfig tree path).bind (ofArguments given cwd (some path)) := rfl
  rw [hresolve, configured]
  cases configPath? tree cwd given <;> rfl

/-- A configuration file says something unless it cannot be read or is malformed. -/
theorem configured_eq_error_iff (tree : FileTree) (cwd : String) (given : Arguments)
    (error : SettingsError) :
    configured tree cwd given = .error error ↔ ConfigFault tree cwd given error := by
  constructor
  · intro h
    cases hpath : configPath? tree cwd given with
    | none => simp [configured, hpath] at h
    | some path =>
      cases hread : tree.readText "/" path with
      | error fault =>
        obtain rfl : .unreadableConfig path fault = error := by
          simpa [configured, loadConfig, hpath, hread] using h
        exact .unreadable hpath hread
      | ok text =>
        cases hparse : parseConfig path text.toList with
        | some file => simp [configured, loadConfig, hpath, hread, hparse] at h
        | none =>
          obtain rfl : .malformedConfig path = error := by
            simpa [configured, loadConfig, hpath, hread, hparse] using h
          exact .malformed hpath hread hparse
  · rintro (⟨hpath, hread⟩ | ⟨hpath, hread, hparse⟩)
    · simp [configured, loadConfig, hpath, hread]
    · simp [configured, loadConfig, hpath, hread, hparse]

/-- The precedence of the command line over the configuration file over the defaults.
Configuration files that agree wherever the command line leaves it to them lead to the same
outcome. A run is refused for its configuration file, else for the first of the other faults, and
for nothing else. Settings that are made merge the command line and the file. -/
theorem resolve_precedence (tree : FileTree) (cwd : String) (given : Arguments) :
    (∀ (other : FileTree) (first second : FileSettings),
        configPath? other cwd given = configPath? tree cwd given →
        configured tree cwd given = .ok first → configured other cwd given = .ok second →
        AgreeWhereOpen given first second →
        resolve other cwd given = resolve tree cwd given) ∧
      (∀ error, resolve tree cwd given = .error error ↔
        ConfigFault tree cwd given error ∨
          ∃ file, configured tree cwd given = .ok file ∧ Refuses given file error) ∧
      ∀ settings, resolve tree cwd given = .ok settings →
        ∃ file, configured tree cwd given = .ok file ∧
          Merges given cwd (configPath? tree cwd given) file settings := by
  refine ⟨?overridden, ?refused, ?merged⟩
  case overridden =>
    intro other first second hpath hfirst hsecond hagree
    rw [resolve_eq, resolve_eq, hpath, hfirst, hsecond]
    exact (ofArguments_congr hagree cwd (configPath? tree cwd given)).symm
  case refused =>
    intro error
    rw [resolve_eq, ← configured_eq_error_iff]
    cases hfile : configured tree cwd given with
    | error fault => simp [Except.bind]
    | ok file => simpa [Except.bind] using ofArguments_eq_error_iff given cwd _ file error
  case merged =>
    intro settings hsettings
    rw [resolve_eq] at hsettings
    cases hfile : configured tree cwd given with
    | error fault =>
      rw [hfile] at hsettings
      cases hsettings
    | ok file =>
      rw [hfile] at hsettings
      exact ⟨file, rfl, merges_of_ofArguments hsettings⟩

/-- A result that is some value as an option is that value. -/
theorem eq_ok_of_toOption {ε α : Type} {result : Except ε α} {value : α}
    (h : result.toOption = some value) : result = .ok value := by
  cases result with
  | error fault => cases h
  | ok actual => exact congrArg _ (Option.some.inj h)

/-- An unknown check and a limit of zero make no difference below a flag and a limit that are
given. -/
theorem resolve_precedence_overridden :
    let tree (text : String) : FileTree :=
      .directory [("nbcheck.toml", .file (text.toList.map fun c => UInt8.ofNat c.toNat) false)]
    let given : Arguments :=
      ⟨["a"], [.hasMarkdown], false, some 9, none, none, [], false, none, false, none, none, none⟩
    let wrong := tree "checks = [\"nope\"]\nmax_cell_count = 0\njobs = 2"
    let outcome := resolve (tree "jobs = 2") "/" given
    resolve wrong "/" given = outcome ∧
      ∃ settings, outcome = .ok settings ∧ settings.number? .cellCount = some 9 ∧
        settings.number? .lineInCell = some 300 ∧ settings.number? .jobs = some 2 := by
  intro tree given wrong outcome
  let plain : FileSettings := ⟨[], none, none, none, [], none, none, none, some 2, none⟩
  let other : FileSettings := ⟨["nope"], some 0, none, none, [], none, none, none, some 2, none⟩
  have hplain : configured (tree "jobs = 2") "/" given = .ok plain :=
    eq_ok_of_toOption (by decide +kernel)
  have hother : configured wrong "/" given = .ok other := eq_ok_of_toOption (by decide +kernel)
  have hagree : AgreeWhereOpen given plain other :=
    { checks := nofun
      numbers := fun
        | .cellCount, h => nomatch h
        | .lineInCell, _ => rfl
        | .totalLineInNotebook, _ => rfl
        | .jobs, _ => rfl
      output := fun _ => rfl
      verbose := fun _ => rfl
      executeWithoutParameters := fun _ => rfl
      excludePatterns := rfl
      engine := rfl }
  obtain ⟨hsame, -, hmerged⟩ := resolve_precedence (tree "jobs = 2") "/" given
  obtain ⟨settings, hmade⟩ : ∃ settings, outcome = .ok settings :=
    ⟨_, by rw [show outcome = _ from resolve_eq _ _ _, hplain]; rfl⟩
  obtain ⟨file, hfile, hmerges⟩ := hmerged settings hmade
  obtain rfl : plain = file := Except.ok.inj (hplain.symm.trans hfile)
  exact ⟨hsame wrong plain other (by decide +kernel) hplain hother hagree, settings, hmade,
    hmerges.numbers .cellCount, hmerges.numbers .lineInCell, hmerges.numbers .jobs⟩

end Resolve

end Settings

end NotebookLint
