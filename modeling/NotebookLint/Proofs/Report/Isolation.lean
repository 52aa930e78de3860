import NotebookLint.Proofs.Report.Pool

/-!
# Every verdict by itself

A report holds the verdict of every check on every file, each the one that the check comes to when
it is given that file alone. Neither the order of the files, nor the workers that judge them, nor
the other files make a difference, and the totals count what the report holds.

A file counts by the text of its path: two files with one path text would share a place in every
section, which the hypothesis on the files excludes.
-/

namespace NotebookLint

section Run

variable (engine : Engine) (load : String → Except CheckError Notebook)

/-- The verdict that a check comes to when it is given a file alone. -/
def Check.alone (check : Check) (file : String) : Verdict :=
  (check.judgeFile engine file (load file)).verdict

/-- The verdicts of a check on files, each alone. -/
def Check.aloneOn (check : Check) (files : List String) : List (String × Verdict) :=
  files.map fun file => (file, check.alone engine load file)

/-- The section of a check with the verdicts on files, each alone. -/
def Check.sectionOn (check : Check) (files : List String) : Section :=
  Section.ofResults check (check.aloneOn engine load files)

/-- The sections that pools of workers may leave for checks one after another. -/
inductive Evaluates (workers : Nat) (files : List String) : List Check → List Section → Prop where
  /-- No check is left. -/
  | nil : Evaluates workers files [] []
  /-- The files are judged by a pool for the first check, and then for the others. -/
  | cons {check : Check} {checks : List Check} {finished : List (String × Verdict)}
      {sections : List Section}
      (hpool : Pool.Runs workers (check.alone engine load) (.start files) (.ended finished))
      (hmore : Evaluates workers files checks sections) :
      Evaluates workers files (check :: checks) (Section.ofResults check finished :: sections)

end Run

namespace Report

/-- The verdicts that a report holds. -/
def verdicts (report : Report) : List Verdict :=
  report.sections.flatMap fun part => part.results.map Prod.snd

/-- The number of verdicts of a status that a report holds. -/
def countOf (report : Report) (status : Status) : Nat :=
  report.verdicts.countP fun verdict => verdict.status = status

/-- What a report holds of some files. -/
def restrict (report : Report) (files : List String) : Report :=
  ofSections
    (report.sections.map fun part =>
      ⟨part.check, part.results.filter fun result => files.contains result.1⟩)
    files.length

/-- Whether a report holds exactly the given verdict of every check on every file, and counts what
it holds. -/
structure Covers (verdict : Check → String → Verdict) (files : List String) (checks : List Check)
    (report : Report) : Prop where
  /-- There is one section for each check, in the order of the checks. -/
  checks_eq : report.sections.map Section.check = checks
  /-- A section has exactly the files. -/
  files_perm : ∀ part ∈ report.sections, (part.results.map Prod.fst).Perm files
  /-- The files stand in increasing order. -/
  increasing : ∀ part ∈ report.sections, Increasing part.results
  /-- Every verdict is the one of its check and file. -/
  verdict_eq : ∀ part ∈ report.sections, ∀ result ∈ part.results,
    result.2 = verdict part.check result.1
  /-- The passes are counted. -/
  passed_eq : report.summary.passed = report.countOf .pass
  /-- The fails are counted. -/
  failed_eq : report.summary.failed = report.countOf .fail
  /-- The errors are counted. -/
  errors_eq : report.summary.errors = report.countOf .error
  /-- There is one verdict for each check and file. -/
  total_eq : report.summary.passed + report.summary.failed + report.summary.errors =
    files.length * checks.length
  /-- The files and the checks are counted. -/
  sizes_eq : report.summary.files = files.length ∧ report.summary.checks = checks.length
  /-- The errors that are listed are those that are counted. -/
  errors_length : report.errors.length = report.summary.errors

/-- Every verdict has one of the three statuses. -/
theorem countP_status_add (verdicts : List Verdict) :
    (verdicts.countP fun verdict => verdict.status = .pass) +
        (verdicts.countP fun verdict => verdict.status = .fail) +
      (verdicts.countP fun verdict => verdict.status = .error) = verdicts.length := by
  induction verdicts with
  | nil => rfl
  | cons verdict rest ih =>
    rw [List.countP_cons, List.countP_cons, List.countP_cons, List.length_cons, ← ih]
    cases verdict.status <;> simp <;> omega

/-- The totals of sections count what these hold. -/
theorem countOf_ofSections (sections : List Section) (files : Nat) (status : Status) :
    (ofSections sections files).countOf status = Section.total status sections := by
  change (sections.flatMap fun part => part.results.map Prod.snd).countP _ = _
  induction sections with
  | nil => rfl
  | cons part rest ih =>
    rw [List.flatMap_cons, List.countP_append, ih, List.countP_map]
    rfl

/-- As many errors are listed as are counted. -/
theorem errors_length_ofSections (sections : List Section) (files : Nat) :
    (ofSections sections files).errors.length = (ofSections sections files).summary.errors := by
  change (sections.flatMap _).length = Section.total .error sections
  induction sections with
  | nil => rfl
  | cons part rest ih =>
    rw [List.flatMap_cons, List.length_append, ih, List.length_map, ← List.countP_eq_length_filter]
    rfl

section Run

variable (engine : Engine) (load : String → Except CheckError Notebook)

/-- The files of the verdicts of a check on files are these. -/
theorem map_fst_aloneOn (check : Check) (files : List String) :
    (check.aloneOn engine load files).map Prod.fst = files := by
  rw [Check.aloneOn, List.map_map]
  exact List.map_id files

/-- A run makes one section for each check of its verdicts on all files. -/
theorem run_eq (files : List String) (checks : List Check) :
    run engine load files checks =
      ofSections (checks.map fun check => check.sectionOn engine load files) files.length := by
  simp only [run, judgements, List.map_map, Function.comp_def, Check.sectionOn, Check.aloneOn,
    Check.alone]

variable {files : List String}

/-- The results of a section are the verdicts of its check. -/
theorem perm_aloneOn (hdistinct : files.Nodup) (check : Check) :
    (check.sectionOn engine load files).results.Perm (check.aloneOn engine load files) :=
  perm_ofResults check (by rwa [map_fst_aloneOn])

/-- A section has a verdict for each file, and there is a section for each check. -/
theorem length_verdicts (hdistinct : files.Nodup) (checks : List Check) (count : Nat) :
    (ofSections (checks.map fun check => check.sectionOn engine load files) count).verdicts.length =
      files.length * checks.length := by
  change (List.flatMap _ (checks.map _)).length = _
  rw [List.length_flatMap, List.map_map]
  have hlength (check : Check) : (check.sectionOn engine load files).results.length = files.length := by
    rw [(perm_aloneOn engine load hdistinct check).length_eq, Check.aloneOn, List.length_map]
  simp only [Function.comp_def, List.length_map, hlength, List.map_const', List.sum_replicate_nat]
  exact Nat.mul_comm _ _

/-- The report of a run holds exactly the verdicts of the checks on the files, each alone. -/
theorem covers_run (hdistinct : files.Nodup) (checks : List Check) :
    (run engine load files checks).Covers (Check.alone engine load) files checks := by
  rw [run_eq]
  have hcount := countOf_ofSections
    (checks.map fun check => check.sectionOn engine load files) files.length
  constructor
  case checks_eq =>
    change List.map Section.check (List.map _ checks) = checks
    rw [List.map_map]
    exact List.map_id checks
  case files_perm =>
    intro part hpart
    obtain ⟨check, -, rfl⟩ := List.mem_map.mp hpart
    have hperm := (perm_aloneOn engine load hdistinct check).map Prod.fst
    rwa [map_fst_aloneOn] at hperm
  case increasing =>
    intro part hpart
    obtain ⟨check, -, rfl⟩ := List.mem_map.mp hpart
    exact increasing_ofResults check _
  case verdict_eq =>
    intro part hpart result hresult
    obtain ⟨check, -, rfl⟩ := List.mem_map.mp hpart
    obtain ⟨file, -, rfl⟩ := List.mem_map.mp
      ((perm_aloneOn engine load hdistinct check).mem_iff.mp hresult)
    rfl
  case passed_eq => exact (hcount .pass).symm
  case failed_eq => exact (hcount .fail).symm
  case errors_eq => exact (hcount .error).symm
  case total_eq =>
    have htotal := countP_status_add
      (ofSections (checks.map fun check => check.sectionOn engine load files) files.length).verdicts
    rw [length_verdicts engine load hdistinct] at htotal
    rw [← htotal]
    exact congrArg₂ _ (congrArg₂ _ (hcount .pass).symm (hcount .fail).symm) (hcount .error).symm
  case sizes_eq => exact ⟨rfl, List.length_map ..⟩
  case errors_length => exact errors_length_ofSections _ _

/-- The order of the files makes no difference. -/
theorem run_perm (hdistinct : files.Nodup) (checks : List Check) {order : List String}
    (hperm : order.Perm files) : run engine load order checks = run engine load files checks := by
  rw [run_eq, run_eq, hperm.length_eq]
  congr 1
  refine List.map_congr_left fun check _ => ?_
  exact ofResults_perm check (by rwa [map_fst_aloneOn]) (hperm.map _)

/-- Other files make no difference. -/
theorem run_restrict (hdistinct : files.Nodup) (checks : List Check) {part : List String}
    (hpart : part.Sublist files) :
    run engine load part checks = (run engine load files checks).restrict part := by
  rw [run_eq, run_eq, restrict]
  congr 1
  change _ = List.map _ (List.map _ checks)
  rw [List.map_map]
  refine List.map_congr_left fun check _ => ?_
  have hnames : ((check.aloneOn engine load files).map Prod.fst).Nodup := by rwa [map_fst_aloneOn]
  rw [Function.comp_apply]
  refine .trans ?_ (ofResults_filter check hnames fun result => part.contains result.1)
  have hkept : (files.filter part.contains).Perm part :=
    (List.perm_ext_iff_of_nodup (hdistinct.filter _) (hpart.nodup hdistinct)).mpr fun file => by
      simpa using fun hfile => hpart.subset hfile
  have hfilter : (check.aloneOn engine load files).filter (fun result => part.contains result.1) =
      check.aloneOn engine load (files.filter part.contains) := by
    rw [Check.aloneOn, Check.aloneOn, List.filter_map]
    rfl
  rw [hfilter]
  exact ofResults_perm check (by rw [map_fst_aloneOn]; exact hdistinct.filter _) (hkept.symm.map _)

end Run

end Report

section Workers

variable {engine : Engine} {load : String → Except CheckError Notebook} {workers : Nat}
  {files : List String} {checks : List Check}

/-- Whatever the workers do, they leave the sections of a run. -/
theorem Evaluates.eq (hdistinct : files.Nodup) {sections : List Section}
    (h : Evaluates engine load workers files checks sections) :
    sections = checks.map fun check => check.sectionOn engine load files := by
  induction h with
  | nil => rfl
  | cons hpool _ ih =>
    rw [List.map_cons, ← ih]
    congr 1
    exact ofResults_perm _ (by rwa [Report.map_fst_aloneOn]) hpool.perm_finished

/-- Workers that are there leave some sections. -/
theorem exists_evaluates (hworkers : 0 < workers) :
    ∃ sections, Evaluates engine load workers files checks sections := by
  induction checks with
  | nil => exact ⟨[], .nil⟩
  | cons check checks ih =>
    obtain ⟨finished, hpool⟩ :=
      Pool.exists_runs_ended (check.alone engine load) hworkers (.start files)
    obtain ⟨sections, hmore⟩ := ih
    exact ⟨_, .cons hpool hmore⟩

end Workers

namespace Report

/-- No verdict is lost, duplicated or influenced by others: for files with distinct paths, the
report holds exactly the verdict of every check on every file alone and counts what it holds; the
order of the files makes no difference; whatever number of jobs is asked for, the workers leave some
sections, and whatever they leave makes the same report; and the report of some of the files is what
the report of all holds of them. -/
theorem run_isolated (engine : Engine) (load : String → Except CheckError Notebook)
    {files : List String} (hdistinct : files.Nodup) (checks : List Check) :
    (run engine load files checks).Covers (Check.alone engine load) files checks ∧
      (∀ order, order.Perm files →
        run engine load order checks = run engine load files checks) ∧
      (∀ jobs machine granted order, 0 < machine → order.Perm files →
        (∃ sections,
          Evaluates engine load (workersOf jobs machine granted) order checks sections) ∧
        ∀ sections, Evaluates engine load (workersOf jobs machine granted) order checks sections →
          ofSections sections order.length = run engine load files checks) ∧
      ∀ part, part.Sublist files →
        run engine load part checks = (run engine load files checks).restrict part := by
  refine ⟨covers_run engine load hdistinct checks, fun order => run_perm engine load hdistinct checks,
    fun jobs machine granted order hmachine hperm => ⟨?_, fun sections hsections => ?_⟩,
    fun part => run_restrict engine load hdistinct checks⟩
  · exact exists_evaluates (workersOf_pos jobs hmachine granted)
  · have horder : order.Nodup := hperm.nodup_iff.mpr hdistinct
    rw [hsections.eq horder, ← run_eq, run_perm engine load hdistinct checks hperm]

/-- A file that is missing is an error for both checks, and leaves the other file as it is alone. -/
theorem run_isolated_missing :
    let load (file : String) : Except CheckError Notebook :=
      if file = "a" then .ok ⟨[], none, none⟩ else .error (.io file "missing")
    let report := run (fun _ => .completed) load ["b", "a"] [.hasMarkdown, .execute false]
    ["b", "a"].Nodup ∧ report.summary = ⟨1, 1, 2, 2, 2⟩ ∧ report.errors.length = 2 ∧
      run (fun _ => .completed) load ["a"] [.hasMarkdown, .execute false] =
        report.restrict ["a"] := by
  intro load report
  have hdistinct : ["b", "a"].Nodup := by decide
  have hsummary : report.summary = ⟨1, 1, 2, 2, 2⟩ := by decide +kernel
  obtain ⟨hcovers, -, -, hrestrict⟩ :=
    run_isolated (fun _ => .completed) load hdistinct [.hasMarkdown, .execute false]
  refine ⟨hdistinct, hsummary, ?_, hrestrict ["a"] (by simp)⟩
  rw [hcovers.errors_length, hsummary]

end Report

end NotebookLint
