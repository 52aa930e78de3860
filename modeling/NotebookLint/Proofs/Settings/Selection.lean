import Mathlib.Data.List.Forall2
import NotebookLint.Proofs.Settings

/-!
# Which checks are selected

Checks are selected by flags, or by their names in a configuration file if there are no flags. A
name may be padded with blanks and may have `-` for any `_`. Both ways lead to the same: each check
that is asked for once, in the order of reports, with the numbers that prevail and in the variant
of the execution that is asked for.

Names that are those of checks are never refused for how they are written, how they are ordered or
how often they come. Another name is reported as it is written, and if there are several the first.
-/

namespace NotebookLint

open NotebookLint.Text

/-- Whether a name is the one of a check, with blanks around it and `-` for some of its `_`. -/
def Spells (name : String) (kind : CheckKind) : Prop :=
  ∃ before core after, isBlankText before ∧ isBlankText after ∧
    name.toList = before ++ (core ++ after) ∧
    List.Forall₂ (fun written c => written = c ∨ written = '-' ∧ c = '_') core kind.name.toList

/-- Whether a check is named in a list. -/
def IsNamed (names : List String) (kind : CheckKind) : Prop :=
  ∃ name ∈ names, Spells name kind

namespace CheckKind

/-- The names of checks hold no blanks, and are written with `_`. -/
theorem of_mem_name {kind : CheckKind} {c : Char} (h : c ∈ kind.name.toList) :
    isBlank c = false ∧ c ≠ '-' := by
  have hall : kind.name.toList.all fun c => !isBlank c && c != '-' := by
    cases kind <;> decide +kernel
  simpa using List.all_eq_true.mp hall c h

/-- A check is found by its name. -/
theorem find?_name (kind : CheckKind) : (all.find? fun other => other.name = kind.name) = some kind := by
  cases kind <;> decide +kernel

/-- Reading `-` as `_` leads back to a name that is written with `-` for some `_`. -/
theorem map_eq_of_forall₂ {written name : List Char}
    (h : List.Forall₂ (fun written c => written = c ∨ written = '-' ∧ c = '_') written name)
    (hname : '-' ∉ name) : (written.map fun c => if c = '-' then '_' else c) = name := by
  induction h with
  | nil => rfl
  | cons hfirst _ ih =>
    rw [List.mem_cons, not_or] at hname
    rw [List.map_cons, ih hname.2]
    congr 1
    rcases hfirst with rfl | ⟨rfl, rfl⟩
    · exact if_neg (Ne.symm hname.1)
    · rfl

/-- The check of a name is the one that the name spells. -/
theorem ofName?_eq_some_iff {name : String} {kind : CheckKind} :
    ofName? name = some kind ↔ Spells name kind := by
  constructor
  · intro h
    have hname := List.find?_some h
    rw [decide_eq_true_iff] at hname
    obtain ⟨before, after, hbefore, hafter, hgaps⟩ := exists_gaps name.toList
    refine ⟨before, _, after, hbefore, hafter, hgaps, ?_⟩
    rw [hname, String.toList_ofList, List.forall₂_map_right_iff, List.forall₂_same]
    intro c _
    by_cases hc : c = '-' <;> simp [hc]
  · rintro ⟨before, core, after, hbefore, hafter, hgaps, hcore⟩
    have hmap := map_eq_of_forall₂ hcore fun hdash => (of_mem_name hdash).2 rfl
    have hclean (c : Char) (hc : c ∈ core) : isBlank c = false := by
      have hread := List.mem_map_of_mem (f := fun c => if c = '-' then '_' else c) hc
      rw [hmap] at hread
      by_cases hdash : c = '-'
      · rw [hdash]
        rfl
      · rw [if_neg hdash] at hread
        exact (of_mem_name hread).1
    have htrim : trim name.toList = core := by
      rw [hgaps]
      exact trim_append hbefore hafter (fun c hc => hclean c (List.mem_of_head? hc))
        fun c hc => hclean c (List.mem_of_getLast? hc)
    rw [ofName?, htrim, hmap, String.ofList_toList]
    exact find?_name kind

end CheckKind

namespace Settings

/-- The selected checks have the kinds that are asked for in the order of reports. -/
theorem map_kind_bind (settings : Settings) (kinds : List CheckKind) :
    (kinds.map settings.bind).map Check.kind = kinds := by
  have hkind : Check.kind ∘ settings.bind = id := by
    funext kind
    cases kind <;> rfl
  rw [List.map_map, hkind, List.map_id]

/-- The selection holds the checks that are asked for, each once and at least one. -/
theorem select_eq_ok_iff (settings : Settings) (checks : List Check) :
    settings.select = .ok checks ↔ checks ≠ [] ∧
      checks = (CheckKind.all.filter settings.checks.contains).map settings.bind := by
  rw [select]
  split
  · rename_i hnone
    simp [hnone]
  · rename_i hkinds
    rw [Except.ok.injEq]
    constructor
    · rintro rfl
      exact ⟨by simpa using hkinds, rfl⟩
    · rintro ⟨-, rfl⟩
      rfl

/-- The selected checks are of different kinds. -/
theorem nodup_kinds_of_select {settings : Settings} {checks : List Check}
    (h : settings.select = .ok checks) : (checks.map Check.kind).Nodup := by
  obtain ⟨-, rfl⟩ := (select_eq_ok_iff settings checks).mp h
  rw [map_kind_bind]
  exact (by decide : CheckKind.all.Nodup).filter _

/-- Settings that ask for the same checks, with the same numbers and the same variant of the
execution, select the same. -/
theorem select_congr {settings other : Settings}
    (hchecks : ∀ kind, kind ∈ settings.checks ↔ kind ∈ other.checks)
    (hnumbers : ∀ name, settings.number? name = other.number? name)
    (hexecute : settings.executeWithParameters = other.executeWithParameters) :
    settings.select = other.select := by
  have hcells := Option.some.inj (hnumbers .cellCount)
  have hlines := Option.some.inj (hnumbers .lineInCell)
  have htotal := Option.some.inj (hnumbers .totalLineInNotebook)
  have hbind : settings.bind = other.bind := by
    funext kind
    cases kind <;> simp [bind, hcells, hlines, htotal, hexecute]
  have hcontains : settings.checks.contains = other.checks.contains := by
    funext kind
    simp [hchecks]
  rw [select, select, hbind, hcontains]

/-- The outcome of resolving the settings of a run and selecting its checks. -/
def selected (tree : FileTree) (cwd : String) (given : Arguments) :
    Except SettingsError (List Check) :=
  (resolve tree cwd given).bind select

/-- Whether a check has the number that prevails, or the variant of the execution that is asked
for. -/
def IsBound (given : Arguments) (file : FileSettings) : Check → Prop
  | .cellCount max => prevailing? given file .cellCount = some max
  | .lineInCell max => prevailing? given file .lineInCell = some max
  | .totalLineInNotebook max => prevailing? given file .totalLineInNotebook = some max
  | .execute withParameters => withParameters = false ↔
      given.executeWithoutParameters = true ∨ file.executeWithoutParameters = some true
  | .isAscending | .hasMarkdown => True

/-- What a run without flags selects by the names of checks in its configuration file. -/
structure SelectsNamed (tree : FileTree) (cwd : String) (given : Arguments) (file : FileSettings) :
    Prop where
  /-- The flags of the named checks, in whatever order they come, are taken in and select the
  same. -/
  same_as_flags : ∀ flags : List CheckKind, flags.Nodup →
    (∀ kind, kind ∈ flags ↔ IsNamed file.checks kind) →
    ∃ flagged, flags.foldlM (fun given kind => given.addFlag (.check kind)) given = .ok flagged ∧
      selected tree cwd flagged = selected tree cwd given
  /-- Each named check is selected once, in the order of reports and bound to what prevails. -/
  each_once : file.checks ≠ [] → ∃ checks, selected tree cwd given = .ok checks ∧
    (checks.map Check.kind).Sublist CheckKind.all ∧
    (∀ kind, kind ∈ checks.map Check.kind ↔ IsNamed file.checks kind) ∧
    ∀ check ∈ checks, IsBound given file check
  /-- That no check is selected is reported exactly of an empty list. -/
  none_iff : selected tree cwd given = .error .noCheckSelected ↔ file.checks = []

section Resolved

variable {tree : FileTree} {cwd : String} {given : Arguments} {file : FileSettings}

/-- No name is unknown if every name is one of a check. -/
theorem firstUnknown?_eq_none (hflags : given.checks = [])
    (hknown : ∀ name ∈ file.checks, ∃ kind, Spells name kind) : firstUnknown? given file = none := by
  rw [firstUnknown?, if_pos hflags, List.find?_eq_none]
  intro name hname
  obtain ⟨kind, hkind⟩ := hknown name hname
  rw [CheckKind.ofName?_eq_some_iff.mpr hkind]
  exact Bool.false_ne_true

/-- The first name that is not one of a check is the unknown one. -/
theorem firstUnknown?_eq_some (hflags : given.checks = []) {before after : List String} {name : String}
    (hchecks : file.checks = before ++ name :: after)
    (hbefore : ∀ earlier ∈ before, ∃ kind, Spells earlier kind) (hname : ∀ kind, ¬Spells name kind) :
    firstUnknown? given file = some name := by
  have hnone : CheckKind.ofName? name = none :=
    Option.eq_none_iff_forall_ne_some.mpr fun kind => mt CheckKind.ofName?_eq_some_iff.mp (hname kind)
  rw [firstUnknown?, if_pos hflags, List.find?_eq_some_iff_append]
  refine ⟨by rw [hnone]; rfl, before, after, hchecks, fun earlier hearlier => ?_⟩
  obtain ⟨kind, hkind⟩ := hbefore earlier hearlier
  rw [CheckKind.ofName?_eq_some_iff.mpr hkind]
  rfl

/-- Settings are made unless a path is missing, a name unknown or a number zero. -/
theorem exists_merges (hfile : configured tree cwd given = .ok file) (hpaths : given.paths ≠ [])
    (hknown : firstUnknown? given file = none)
    (hpositive : ∀ name, prevailing? given file name ≠ some 0) :
    ∃ settings, resolve tree cwd given = .ok settings ∧
      Merges given cwd (configPath? tree cwd given) file settings := by
  have hzero : firstZero? given file = none := by
    rw [firstZero?, List.find?_eq_none]
    exact fun name _ => by simpa using hpositive name
  rcases ofArguments_cases given cwd (configPath? tree cwd given) file with
    ⟨error, hrefuses, -⟩ | ⟨-, settings, hmade, hmerges⟩
  · cases hrefuses <;> simp_all
  · exact ⟨settings, by rw [resolve_eq, hfile]; exact hmade, hmerges⟩

/-- Without flags the checks of settings are those that the file names. -/
theorem Merges.mem_checks_iff {configPath : Option String} {settings : Settings}
    (hmerges : Merges given cwd configPath file settings) (hflags : given.checks = [])
    (kind : CheckKind) : kind ∈ settings.checks ↔ IsNamed file.checks kind := by
  have hchecks := hmerges.checks
  rw [if_pos hflags] at hchecks
  calc kind ∈ settings.checks ↔ some kind ∈ settings.checks.map some := by simp
    _ ↔ some kind ∈ file.checks.map CheckKind.ofName? := by rw [hchecks]
    _ ↔ IsNamed file.checks kind := by
      simp only [List.mem_map, CheckKind.ofName?_eq_some_iff, IsNamed]

/-- The checks of settings are bound to what prevails. -/
theorem Merges.isBound_bind {configPath : Option String} {settings : Settings}
    (hmerges : Merges given cwd configPath file settings) (kind : CheckKind) :
    IsBound given file (settings.bind kind) := by
  cases kind with
  | cellCount => exact (hmerges.numbers .cellCount).symm
  | lineInCell => exact (hmerges.numbers .lineInCell).symm
  | totalLineInNotebook => exact (hmerges.numbers .totalLineInNotebook).symm
  | execute => exact hmerges.executeWithParameters
  | isAscending | hasMarkdown => trivial

/-- Flags for different checks that are not set yet are taken in, whatever their order. -/
theorem foldlM_addFlag (given : Arguments) {flags : List CheckKind} (hdistinct : flags.Nodup)
    (hnew : ∀ kind ∈ flags, kind ∉ given.checks) :
    ∃ kinds, flags.foldlM (fun given kind => given.addFlag (.check kind)) given =
        .ok { given with checks := kinds } ∧
      ∀ kind, kind ∈ kinds ↔ kind ∈ given.checks ∨ kind ∈ flags := by
  induction flags generalizing given with
  | nil => exact ⟨given.checks, rfl, by simp⟩
  | cons first rest ih =>
    obtain ⟨hfirst, hrest⟩ := List.nodup_cons.mp hdistinct
    obtain ⟨hunset, hnew⟩ := List.forall_mem_cons.mp hnew
    let next : Arguments :=
      { given with checks := CheckKind.all.filter fun k => k = first || given.checks.contains k }
    have hstep : given.addFlag (.check first) = .ok next := if_neg (by simpa using hunset)
    have hnext (kind : CheckKind) : kind ∈ next.checks ↔ kind = first ∨ kind ∈ given.checks := by
      simp [next, CheckKind.mem_all]
    have hlater : ∀ kind ∈ rest, kind ∉ next.checks := by
      intro kind hkind hmem
      rcases (hnext kind).mp hmem with rfl | hmem
      · exact hfirst hkind
      · exact hnew kind hkind hmem
    obtain ⟨kinds, hfold, hkinds⟩ := ih next hrest hlater
    refine ⟨kinds, by rw [List.foldlM_cons, hstep]; exact hfold, fun kind => ?_⟩
    rw [hkinds, hnext, List.mem_cons]
    tauto

/-- Flags for the checks that a file names select the same as the file does without flags. -/
theorem selected_withFlags (hfile : configured tree cwd given = .ok file) (hpaths : given.paths ≠ [])
    (hflags : given.checks = []) (hknown : ∀ name ∈ file.checks, ∃ kind, Spells name kind)
    (hpositive : ∀ name, prevailing? given file name ≠ some 0) {kinds : List CheckKind}
    (hkinds : ∀ kind, kind ∈ kinds ↔ IsNamed file.checks kind) :
    selected tree cwd { given with checks := kinds } = selected tree cwd given := by
  by_cases hnone : kinds = []
  · rw [hnone, ← hflags]
  · obtain ⟨settings, hmade, hmerges⟩ :=
      exists_merges hfile hpaths (firstUnknown?_eq_none hflags hknown) hpositive
    -- With flags the names in the file are not looked at.
    have hunknown : firstUnknown? { given with checks := kinds } file = none := if_neg hnone
    have hsame : configured tree cwd { given with checks := kinds } = .ok file := hfile
    obtain ⟨flagged, hflagged, hboth⟩ := exists_merges hsame hpaths hunknown hpositive
    rw [selected, selected, hmade, hflagged]
    refine select_congr (fun kind => ?_) (fun name => ?_) ?_
    · have hchecks := hboth.checks
      rw [if_neg hnone] at hchecks
      rw [hchecks, hkinds, hmerges.mem_checks_iff hflags]
    · rw [hboth.numbers, hmerges.numbers]
      rfl
    · have hexecute := hboth.executeWithParameters.trans hmerges.executeWithParameters.symm
      exact Bool.eq_iff_iff.mpr (by simpa using not_congr hexecute)

/-- Names select each check that they name once, in the order of reports. -/
theorem selected_each_once (hfile : configured tree cwd given = .ok file) (hpaths : given.paths ≠ [])
    (hflags : given.checks = []) (hknown : ∀ name ∈ file.checks, ∃ kind, Spells name kind)
    (hpositive : ∀ name, prevailing? given file name ≠ some 0) (hnames : file.checks ≠ []) :
    ∃ checks, selected tree cwd given = .ok checks ∧
      (checks.map Check.kind).Sublist CheckKind.all ∧
      (∀ kind, kind ∈ checks.map Check.kind ↔ IsNamed file.checks kind) ∧
      ∀ check ∈ checks, IsBound given file check := by
  obtain ⟨settings, hmade, hmerges⟩ :=
    exists_merges hfile hpaths (firstUnknown?_eq_none hflags hknown) hpositive
  have hmem (kind : CheckKind) :
      kind ∈ CheckKind.all.filter settings.checks.contains ↔ IsNamed file.checks kind := by
    rw [List.mem_filter, List.contains_iff_mem, hmerges.mem_checks_iff hflags]
    exact and_iff_right kind.mem_all
  obtain ⟨name, hname⟩ := List.exists_mem_of_ne_nil _ hnames
  obtain ⟨kind, hkind⟩ := hknown name hname
  have hsome : CheckKind.all.filter settings.checks.contains ≠ [] :=
    List.ne_nil_of_mem ((hmem kind).mpr ⟨name, hname, hkind⟩)
  have hselect : settings.select =
      .ok ((CheckKind.all.filter settings.checks.contains).map settings.bind) :=
    (select_eq_ok_iff settings _).mpr ⟨by simpa using hsome, rfl⟩
  refine ⟨_, by rw [selected, hmade]; exact hselect, ?_, ?_, ?_⟩
  · rw [map_kind_bind]
    exact List.filter_sublist
  · rw [map_kind_bind]
    exact hmem
  · intro check hcheck
    obtain ⟨kind, -, rfl⟩ := List.mem_map.mp hcheck
    exact hmerges.isBound_bind kind

/-- An empty list of names selects no check, which is reported. -/
theorem selected_of_nil (hfile : configured tree cwd given = .ok file) (hpaths : given.paths ≠ [])
    (hflags : given.checks = []) (hpositive : ∀ name, prevailing? given file name ≠ some 0)
    (hnames : file.checks = []) : selected tree cwd given = .error .noCheckSelected := by
  have hknown : firstUnknown? given file = none := firstUnknown?_eq_none hflags (by simp [hnames])
  obtain ⟨settings, hmade, hmerges⟩ := exists_merges hfile hpaths hknown hpositive
  have hnone : settings.checks = [] := by
    refine List.eq_nil_iff_forall_not_mem.mpr fun kind => ?_
    rw [hmerges.mem_checks_iff hflags, IsNamed, hnames]
    simp
  have hselect : settings.select = .error .noCheckSelected := by
    rw [select, hnone]
    rfl
  rw [selected, hmade]
  exact hselect

/-- Names of checks in a configuration file select what flags for them select: each check once, in
the order of reports and bound to what prevails. The first name that is not one of a check is
reported as it is written, whatever else there is, and no check is selected. -/
theorem selected_by_names (hfile : configured tree cwd given = .ok file) (hpaths : given.paths ≠ [])
    (hflags : given.checks = []) :
    ((∀ name ∈ file.checks, ∃ kind, Spells name kind) →
        (∀ name, prevailing? given file name ≠ some 0) → SelectsNamed tree cwd given file) ∧
      ∀ before name after, file.checks = before ++ name :: after →
        (∀ earlier ∈ before, ∃ kind, Spells earlier kind) → (∀ kind, ¬Spells name kind) →
        selected tree cwd given = .error (.unknownCheck name) := by
  refine ⟨fun hknown hpositive => ?known, fun before name after hchecks hbefore hname => ?unknown⟩
  case known =>
    have heach := selected_each_once hfile hpaths hflags hknown hpositive
    refine ⟨fun flags hdistinct hkinds => ?_, heach, fun hnone => ?_,
      selected_of_nil hfile hpaths hflags hpositive⟩
    · obtain ⟨kinds, hfold, hmem⟩ := foldlM_addFlag given hdistinct (by simp [hflags])
      refine ⟨_, hfold, selected_withFlags hfile hpaths hflags hknown hpositive fun kind => ?_⟩
      rw [hmem, hflags, ← hkinds]
      simp
    · by_contra hnames
      obtain ⟨checks, hselected, -⟩ := heach hnames
      rw [hnone] at hselected
      cases hselected
  case unknown =>
    have hunknown := firstUnknown?_eq_some hflags hchecks hbefore hname
    have hrefused := (ofArguments_eq_error_iff given cwd (configPath? tree cwd given) file _).mpr
      (.unknownCheck hpaths hunknown)
    rw [selected, resolve_eq, hfile]
    simp only [Except.bind, hrefused]

/-- Two names of one check, padded and with `-`, select it once and behind the other check. A name
with a blank inside is reported with its padding. -/
theorem selected_by_names_padded :
    let tree (text : String) : FileTree :=
      .directory [("nbcheck.toml", .file (text.toList.map fun c => UInt8.ofNat c.toNat) false)]
    let given : Arguments :=
      ⟨["a"], [], false, none, none, none, [], false, none, false, none, none, none⟩
    let known := tree "checks = [\" has-md \", \"cell_count\", \"has_md\"]\nmax_cell_count = 7"
    let unknown := tree "checks = [\"execute\", \" has md\", \"nope\"]"
    (∃ file, configured known "/" given = .ok file ∧ SelectsNamed known "/" given file) ∧
      selected known "/" given = .ok [.cellCount 7, .hasMarkdown] ∧
      selected unknown "/" given = .error (.unknownCheck " has md") := by
  intro tree given known unknown
  let first : FileSettings :=
    ⟨[" has-md ", "cell_count", "has_md"], some 7, none, none, [], none, none, none, none, none⟩
  let second : FileSettings :=
    ⟨["execute", " has md", "nope"], none, none, none, [], none, none, none, none, none⟩
  have hfirst : configured known "/" given = .ok first := eq_ok_of_toOption (by decide +kernel)
  have hsecond : configured unknown "/" given = .ok second := eq_ok_of_toOption (by decide +kernel)
  have hknown : ∀ name ∈ first.checks, ∃ kind, Spells name kind := by
    simp only [← CheckKind.ofName?_eq_some_iff, ← Option.isSome_iff_exists]
    decide +kernel
  have hbefore : ∀ earlier ∈ ["execute"], ∃ kind, Spells earlier kind := by
    simp only [← CheckKind.ofName?_eq_some_iff, ← Option.isSome_iff_exists]
    decide +kernel
  have hname (kind : CheckKind) : ¬Spells " has md" kind := by
    rw [← CheckKind.ofName?_eq_some_iff]
    cases kind <;> decide +kernel
  have hpositive (name : LimitName) : prevailing? given first name ≠ some 0 := by
    cases name <;> decide
  have hselected : selected known "/" given = .ok [.cellCount 7, .hasMarkdown] := by
    rw [selected, resolve_eq, hfirst]
    exact eq_ok_of_toOption (by decide +kernel)
  exact ⟨⟨first, hfirst, (selected_by_names hfirst (by decide) rfl).1 hknown hpositive⟩, hselected,
    (selected_by_names hsecond (by decide) rfl).2 ["execute"] " has md" ["nope"] rfl hbefore hname⟩

end Resolved

end Settings

end NotebookLint
