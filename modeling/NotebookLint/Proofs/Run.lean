import NotebookLint.Proofs.Discovery
import NotebookLint.Proofs.Execution
import NotebookLint.Proofs.Report.Isolation
import NotebookLint.Proofs.Settings.Selection
import NotebookLint.Run

/-!
# What the exit status of a run means

A run is accepted if its command line, its log filter, its settings, its selection of checks and its
exclude patterns are. An accepted run ends with status zero exactly if every selected check passes
every file that the search finds and no pattern excludes. A run that is not accepted ends before
anything is carried out: whatever would be done with a plan makes no difference to it.

The engine is taken to be a function of what it is asked. That loses nothing, since no notebook is
handed to it twice: an engine that changes its answers over time answers each request once.
-/

namespace NotebookLint

namespace Report

section Verdicts

variable {verdict : Check → String → Verdict} {files : List String} {checks : List Check}
  {report : Report}

/-- The verdicts of a report are those of the checks on the files. -/
theorem Covers.mem_verdicts_iff (h : report.Covers verdict files checks) {held : Verdict} :
    held ∈ report.verdicts ↔ ∃ check ∈ checks, ∃ file ∈ files, held = verdict check file := by
  rw [verdicts, List.mem_flatMap]
  constructor
  · rintro ⟨part, hpart, hheld⟩
    obtain ⟨result, hresult, rfl⟩ := List.mem_map.mp hheld
    refine ⟨part.check, ?_, result.1, ?_, h.verdict_eq part hpart result hresult⟩
    · rw [← h.checks_eq]
      exact List.mem_map_of_mem hpart
    · apply (h.files_perm part hpart).mem_iff.mp
      exact List.mem_map_of_mem hresult
  · rintro ⟨check, hcheck, file, hfile, rfl⟩
    rw [← h.checks_eq] at hcheck
    obtain ⟨part, hpart, rfl⟩ := List.mem_map.mp hcheck
    obtain ⟨result, hresult, rfl⟩ := List.mem_map.mp ((h.files_perm part hpart).mem_iff.mpr hfile)
    refine ⟨part, hpart, List.mem_map.mpr ⟨result, hresult, ?_⟩⟩
    exact h.verdict_eq part hpart result hresult

/-- A report without fails and errors holds nothing but passes. -/
theorem Covers.exitCode_eq_zero_iff (h : report.Covers verdict files checks) :
    report.exitCode = 0 ↔ ∀ check ∈ checks, ∀ file ∈ files, (verdict check file).isPass := by
  have hpass (held : Verdict) :
      held.isPass ↔ held.status ≠ .fail ∧ held.status ≠ .error := by
    rw [Verdict.isPass, decide_eq_true_iff]
    cases held.status <;> simp
  have hstatus (status : Status) : report.countOf status = 0 ↔
      ∀ check ∈ checks, ∀ file ∈ files, (verdict check file).status ≠ status := by
    rw [countOf, List.countP_eq_zero]
    constructor
    · intro hnone check hcheck file hfile
      have hheld := h.mem_verdicts_iff.mpr ⟨check, hcheck, file, hfile, rfl⟩
      simpa using hnone _ hheld
    · intro hnone held hheld
      obtain ⟨check, hcheck, file, hfile, rfl⟩ := h.mem_verdicts_iff.mp hheld
      simpa using hnone check hcheck file hfile
  have hcode : report.exitCode = 0 ↔ report.summary.failed = 0 ∧ report.summary.errors = 0 := by
    rw [exitCode]
    split <;> simp_all
  rw [hcode, h.failed_eq, h.errors_eq, hstatus, hstatus]
  constructor
  · rintro ⟨hfail, herror⟩ check hcheck file hfile
    exact (hpass _).mpr ⟨hfail check hcheck file hfile, herror check hcheck file hfile⟩
  · intro hall
    refine ⟨fun check hcheck file hfile => ?_, fun check hcheck file hfile => ?_⟩
    · exact ((hpass _).mp (hall check hcheck file hfile)).1
    · exact ((hpass _).mp (hall check hcheck file hfile)).2

end Verdicts

section Requests

variable (engine : Engine) (load : String → Except CheckError Notebook)

/-- The notebooks that the engine is handed when a check judges a file. -/
def handed (check : Check) (file : String) : List String :=
  (check.judgeFile engine file (load file)).requests.map ExecutionRequest.notebook

/-- Only an execution hands a notebook to the engine, and only the one it is about. -/
theorem handed_eq_nil_or (check : Check) (file : String) :
    handed engine load check file = [] ∨
      check.kind = .execute ∧ handed engine load check file = [file] := by
  rw [handed]
  cases load file with
  | error fault => exact .inl rfl
  | ok notebook =>
    cases check with
    | execute withParameters =>
      change (Execution.run engine file withParameters notebook).requests.map _ = [] ∨ _ ∧
        (Execution.run engine file withParameters notebook).requests.map _ = _
      cases hinjected : Execution.injected withParameters notebook with
      | ok parameters =>
        rw [Execution.run_of_injected hinjected]
        exact .inr ⟨rfl, rfl⟩
      | error fault =>
        rw [Execution.run_of_not_injected hinjected]
        exact .inl rfl
    | _ => exact .inl rfl

/-- The notebooks that the engine is handed, check by check. -/
theorem map_notebook_requests (files : List String) (checks : List Check) :
    (requests engine load files checks).map ExecutionRequest.notebook =
      checks.flatMap fun check => files.flatMap (handed engine load check) := by
  simp only [requests, judgements, List.flatMap_map, List.map_flatMap]
  rfl

/-- The notebooks that the engine is handed for one check are among the files. -/
theorem sublist_flatMap_handed (check : Check) (files : List String) :
    (files.flatMap (handed engine load check)).Sublist files := by
  induction files with
  | nil => exact List.Sublist.refl _
  | cons file files ih =>
    rw [List.flatMap_cons]
    rcases handed_eq_nil_or engine load check file with hnone | ⟨-, hone⟩
    · rw [hnone]
      exact ih.cons file
    · rw [hone]
      exact ih.cons_cons file

/-- Only the given files are handed to the engine. -/
theorem mem_files_of_mem_requests {files : List String} {checks : List Check}
    {request : ExecutionRequest} (h : request ∈ requests engine load files checks) :
    request.notebook ∈ files := by
  have hmem := List.mem_map_of_mem (f := ExecutionRequest.notebook) h
  rw [map_notebook_requests, List.mem_flatMap] at hmem
  obtain ⟨check, -, hfile⟩ := hmem
  exact (sublist_flatMap_handed engine load check files).subset hfile

/-- No notebook is handed to the engine twice. -/
theorem nodup_map_notebook_requests {files : List String} {checks : List Check}
    (hfiles : files.Nodup) (hchecks : (checks.map Check.kind).Nodup) :
    ((requests engine load files checks).map ExecutionRequest.notebook).Nodup := by
  rw [map_notebook_requests, List.nodup_flatMap]
  refine ⟨fun check _ => (sublist_flatMap_handed engine load check files).nodup hfiles, ?_⟩
  rw [List.nodup_iff_pairwise_ne, List.pairwise_map] at hchecks
  refine hchecks.imp fun {check other} hkinds => ?_
  -- Of two checks of different kinds at most one executes notebooks.
  intro file hcheck hother
  obtain ⟨first, -, hfirst⟩ := List.mem_flatMap.mp hcheck
  obtain ⟨second, -, hsecond⟩ := List.mem_flatMap.mp hother
  rcases handed_eq_nil_or engine load check first with hnone | ⟨hkind, -⟩
  · rw [hnone] at hfirst
    cases hfirst
  · rcases handed_eq_nil_or engine load other second with hnone | ⟨hotherKind, -⟩
    · rw [hnone] at hsecond
      cases hsecond
    · exact hkinds (hkind.trans hotherKind.symm)

end Requests

end Report

namespace Run

/-- Whether a command line asks for a text about the program: its version, or help. -/
def AsksForText (words : List String) : Prop :=
  Arguments.parse words = .error .version ∨ ∃ long, Arguments.parse words = .error (.help long)

/-- Whether a command line makes a plan, since nothing on the way to it is refused. -/
structure Accepts (surroundings : Surroundings) (words : List String) (given : Arguments)
    (plan : Plan) : Prop where
  /-- The command line is read. -/
  words : Arguments.parse words = .ok given
  /-- The log filter is valid. -/
  filter : Log.Filter.parse surroundings.search
    (Log.specOf given.logLevel (surroundings.environmentText? "NBCHECK_LOG")) = .ok plan.filter
  /-- The settings are resolved. -/
  settings : Settings.resolve surroundings.tree surroundings.cwd given = .ok plan.settings
  /-- There are checks to run. -/
  checks : plan.settings.select = .ok plan.checks
  /-- The exclude patterns are valid. -/
  excluded : Exclusion.compile plan.settings.excludePatterns = .ok plan.excluded

section Perform

variable {surroundings : Surroundings} {words : List String}

/-- A refusal is kept when it is reworded. -/
theorem mapError_eq_ok_iff {ε ε' α : Type} {reword : ε → ε'} {result : Except ε α} {value : α} :
    result.mapError reword = .ok value ↔ result = .ok value := by
  cases result <;> simp [Except.mapError]

/-- A plan is made if nothing is refused. -/
theorem plan_eq_ok_iff {given : Arguments} (hwords : Arguments.parse words = .ok given)
    (made : Plan) : plan surroundings given = .ok made ↔ Accepts surroundings words given made := by
  have hbind {ε α β : Type} (first : Except ε α) (next : α → Except ε β) (value : β) :
      (first >>= next) = .ok value ↔ ∃ part, first = .ok part ∧ next part = .ok value := by
    cases first <;> simp [bind, Except.bind]
  rw [plan]
  simp only [hbind, mapError_eq_ok_iff]
  constructor
  · rintro ⟨filter, hfilter, settings, hsettings, checks, hchecks, excluded, hexcluded, hmade⟩
    obtain rfl := Except.ok.inj hmade
    exact ⟨hwords, hfilter, hsettings, hchecks, hexcluded⟩
  · rintro ⟨-, hfilter, hsettings, hchecks, hexcluded⟩
    exact ⟨_, hfilter, _, hsettings, _, hchecks, _, hexcluded, rfl⟩

/-- A command line that asks for a text is answered with success. -/
theorem ending_of_asksForText (surroundings : Surroundings) (h : AsksForText words) :
    ∃ stop, (perform surroundings words).ending = .stopped stop ∧
      (RunEnd.stopped stop).exitCode = 0 := by
  rw [perform, performBy]
  rcases h with hversion | ⟨long, hhelp⟩
  · rw [hversion]
    exact ⟨.version, rfl, rfl⟩
  · rw [hhelp]
    exact ⟨.help long, rfl, rfl⟩

/-- A run that is refused ends without success, whatever would be done with a plan. -/
theorem performBy_of_refused (htext : ¬AsksForText words)
    (hrefused : ∀ given plan, ¬Accepts surroundings words given plan) :
    ∃ ending : RunEnd, ending.exitCode = 1 ∧ (∀ plan report, ending ≠ .reported plan report) ∧
      ∀ carryOut, performBy carryOut surroundings words = ⟨ending, [], [], ""⟩ := by
  cases hwords : Arguments.parse words with
  | error stop =>
    cases stop with
    | version => exact absurd (.inl hwords) htext
    | help long => exact absurd (.inr ⟨long, hwords⟩) htext
    | mistake mistake =>
      refine ⟨.stopped (.mistake mistake), rfl, by simp, fun carryOut => ?_⟩
      rw [performBy, hwords]
      rfl
  | ok given =>
    cases hplan : plan surroundings given with
    | error fault =>
      refine ⟨.refused fault, rfl, by simp, fun carryOut => ?_⟩
      rw [performBy, hwords]
      simp only [hplan]
    | ok made => exact absurd ((plan_eq_ok_iff hwords made).mp hplan) (hrefused given made)

/-- A plan that is made is carried out. -/
theorem Accepts.perform_eq {given : Arguments} {plan : Plan}
    (h : Accepts surroundings words given plan) :
    perform surroundings words = carryOut surroundings plan := by
  rw [perform, performBy, h.words]
  simp only [(plan_eq_ok_iff h.words plan).mpr h]

/-- Only a plan that is made leads to a report. -/
theorem exists_accepts_of_reported {plan : Plan} {report : Report}
    (h : (perform surroundings words).ending = .reported plan report) :
    ∃ given, Accepts surroundings words given plan := by
  by_cases htext : AsksForText words
  · obtain ⟨stop, hstop, -⟩ := ending_of_asksForText surroundings htext
    rw [hstop] at h
    cases h
  · by_cases haccepts : ∃ given made, Accepts surroundings words given made
    · obtain ⟨given, made, haccepts⟩ := haccepts
      rw [haccepts.perform_eq, carryOut, RunEnd.reported.injEq] at h
      rw [h.1] at haccepts
      exact ⟨given, haccepts⟩
    · push Not at haccepts
      obtain ⟨ending, -, hending, hperform⟩ := performBy_of_refused htext haccepts
      rw [perform, hperform] at h
      exact absurd h (hending plan report)

end Perform

section CarryOut

variable (surroundings : Surroundings) (plan : Plan)

/-- Whether every selected check passes every file that is found and not excluded. -/
def AllPass : Prop :=
  ∀ check ∈ plan.checks, ∀ file ∈ Exclusion.keep plan.excluded
      (Discovery.collect surroundings.tree surroundings.cwd plan.settings.paths),
    (check.alone (engine surroundings plan)
      (Notebook.load surroundings.tree surroundings.cwd) file).isPass

/-- No file is checked twice. -/
theorem nodup_files : (files surroundings plan).Nodup :=
  (Discovery.ordered_collect _ _ _).nodup.filter _

/-- The report of a run covers the files that are found and not excluded. -/
theorem covers_report :
    (Report.run (engine surroundings plan) (Notebook.load surroundings.tree surroundings.cwd)
        (files surroundings plan) plan.checks).Covers
      (Check.alone (engine surroundings plan) (Notebook.load surroundings.tree surroundings.cwd))
      (files surroundings plan) plan.checks :=
  Report.covers_run _ _ (nodup_files surroundings plan) plan.checks

/-- A plan is carried out with success exactly if all checks pass. -/
theorem exitCode_carryOut :
    (carryOut surroundings plan).ending.exitCode = 0 ↔ AllPass surroundings plan :=
  (covers_report surroundings plan).exitCode_eq_zero_iff

/-- An excluded path is neither judged nor handed to the engine. -/
theorem not_mem_of_excludes {path : String} (h : Exclusion.excludes plan.excluded path) :
    (∀ report, (carryOut surroundings plan).ending = .reported plan report →
      ∀ part ∈ report.sections, path ∉ part.results.map Prod.fst) ∧
    path ∉ (carryOut surroundings plan).requests.map ExecutionRequest.notebook := by
  have hfiles : path ∉ files surroundings plan := by
    intro hmem
    rw [files, Exclusion.keep, List.mem_filter, h] at hmem
    exact absurd hmem.2 (by simp)
  constructor
  · intro report hreport part hpart hmem
    obtain rfl : _ = report := (RunEnd.reported.inj hreport).2
    exact hfiles (((covers_report surroundings plan).files_perm part hpart).mem_iff.mp hmem)
  · intro hmem
    obtain ⟨request, hrequest, rfl⟩ := List.mem_map.mp hmem
    exact hfiles (Report.mem_files_of_mem_requests _ _ hrequest)

/-- A plan with checks of different kinds hands no notebook to the engine twice. -/
theorem nodup_map_notebook_carryOut (h : plan.settings.select = .ok plan.checks) :
    ((carryOut surroundings plan).requests.map ExecutionRequest.notebook).Nodup :=
  Report.nodup_map_notebook_requests _ _ (nodup_files surroundings plan)
    (Settings.nodup_kinds_of_select h)

end CarryOut

/-- Every run ends with status zero or one. -/
theorem exitCode_le_one (ending : RunEnd) : ending.exitCode ≤ 1 := by
  rcases ending with (_ | _ | _) | _ | ⟨_, report⟩
  case reported =>
    change report.exitCode ≤ 1
    rw [Report.exitCode]
    split <;> omega
  all_goals simp [RunEnd.exitCode]

/-- The exit status is zero exactly if the command line asks for a text or makes a plan of which all
checks pass, and one otherwise. A run that is refused prints nothing, asks the engine nothing, and
is the same whatever would be done with a plan. An excluded path is in no section of the report and
is not handed to the engine, and no path is handed to it twice. -/
theorem exitCode_perform (surroundings : Surroundings) (words : List String) :
    let trace := perform surroundings words
    (trace.ending.exitCode = 0 ↔ AsksForText words ∨
      ∃ given plan, Accepts surroundings words given plan ∧ AllPass surroundings plan) ∧
    (trace.ending.exitCode ≠ 0 → trace.ending.exitCode = 1) ∧
    (¬AsksForText words → (∀ given plan, ¬Accepts surroundings words given plan) →
      (∀ plan report, trace.ending ≠ .reported plan report) ∧ trace.output = "" ∧
        trace.requests = [] ∧ ∀ carryOut, performBy carryOut surroundings words = trace) ∧
    (∀ plan report, trace.ending = .reported plan report →
      (∀ path, Exclusion.excludes plan.excluded path →
        (∀ part ∈ report.sections, path ∉ part.results.map Prod.fst) ∧
          path ∉ trace.requests.map ExecutionRequest.notebook) ∧
        (trace.requests.map ExecutionRequest.notebook).Nodup) := by
  intro trace
  refine ⟨⟨fun hzero => ?_, ?_⟩, ?_, ?_, ?_⟩
  · by_cases htext : AsksForText words
    · exact .inl htext
    · by_cases haccepts : ∃ given plan, Accepts surroundings words given plan
      · obtain ⟨given, plan, haccepts⟩ := haccepts
        refine .inr ⟨given, plan, haccepts, ?_⟩
        rw [← exitCode_carryOut, ← haccepts.perform_eq]
        exact hzero
      · push Not at haccepts
        obtain ⟨ending, hone, -, hperform⟩ := performBy_of_refused htext haccepts
        change (performBy _ _ _).ending.exitCode = 0 at hzero
        rw [hperform, hone] at hzero
        cases hzero
  · rintro (htext | ⟨given, plan, haccepts, hpass⟩)
    · obtain ⟨stop, hstop, hcode⟩ := ending_of_asksForText surroundings htext
      rw [hstop, hcode]
    · change (perform surroundings words).ending.exitCode = 0
      rw [haccepts.perform_eq, exitCode_carryOut]
      exact hpass
  · intro hnonzero
    have hle := exitCode_le_one trace.ending
    omega
  · intro htext hrefused
    obtain ⟨ending, -, hending, hperform⟩ := performBy_of_refused htext hrefused
    have htrace : trace = ⟨ending, [], [], ""⟩ := hperform _
    rw [htrace]
    exact ⟨hending, rfl, rfl, hperform⟩
  · intro plan report hreported
    obtain ⟨given, haccepts⟩ := exists_accepts_of_reported hreported
    have htrace : trace = carryOut surroundings plan := haccepts.perform_eq
    rw [htrace] at hreported ⊢
    constructor
    · intro path hexcluded
      obtain ⟨hsections, hrequests⟩ := not_mem_of_excludes surroundings plan hexcluded
      exact ⟨hsections report hreported, hrequests⟩
    · exact nodup_map_notebook_carryOut surroundings plan haccepts.checks

end Run

end NotebookLint
