import Mathlib.Logic.Relation
import NotebookLint.Proofs.Report.Results

/-!
# Checking with several workers

The files of a check are judged by a pool of workers. A free worker takes any of the files that
wait, and any of the files being judged may be finished next; the results come in the order in which
files are finished. A verdict depends on its file alone, so that every order leaves the same
results, and with at least one worker every pool comes to its end.

The checks come one after another, each with a pool of its own.
-/

namespace NotebookLint

/-- The files of a check: those that wait, those being judged, and the results so far. -/
structure Pool where
  /-- The files that no worker has taken. -/
  waiting : List String
  /-- The files that workers are judging. -/
  running : List String
  /-- The results in the order in which files were finished. -/
  finished : List (String × Verdict)

namespace Pool

/-- The pool before any file is taken. -/
def start (files : List String) : Pool := ⟨files, [], []⟩

/-- The pool after all files are finished. -/
def ended (finished : List (String × Verdict)) : Pool := ⟨[], [], finished⟩

section Steps

variable (workers : Nat) (judge : String → Verdict)

/-- What may happen next. -/
inductive Step : Pool → Pool → Prop where
  /-- A free worker takes a file. -/
  | take {before after running : List String} {finished : List (String × Verdict)} {file : String}
      (hfree : running.length < workers) :
      Step ⟨before ++ file :: after, running, finished⟩ ⟨before ++ after, file :: running, finished⟩
  /-- A worker finishes its file. -/
  | finish {waiting before after : List String} {finished : List (String × Verdict)}
      {file : String} :
      Step ⟨waiting, before ++ file :: after, finished⟩
        ⟨waiting, before ++ after, finished ++ [(file, judge file)]⟩

/-- A run of the pool. -/
def Runs : Pool → Pool → Prop := Relation.ReflTransGen (Step workers judge)

end Steps

variable {workers : Nat} {judge : String → Verdict} {pool next : Pool}

/-- The results that a pool will leave, as far as they are settled: those of the files still to be
finished, and those so far. -/
def results (judge : String → Verdict) (pool : Pool) : List (String × Verdict) :=
  (pool.waiting ++ pool.running).map (fun file => (file, judge file)) ++ pool.finished

/-- No step changes the results that are to come, except for their order. -/
theorem Step.perm_results (h : Step workers judge pool next) :
    (next.results judge).Perm (pool.results judge) := by
  cases h with
  | @take before after running finished file hfree =>
    have hfiles : (before ++ after ++ file :: running).Perm (before ++ file :: after ++ running) := by
      simpa using List.perm_middle.append_left before
    exact (hfiles.map _).append_right finished
  | @finish waiting before after finished file =>
    have hfiles : (file :: (waiting ++ (before ++ after))).Perm (waiting ++ (before ++ file :: after)) := by
      simpa using (@List.perm_middle _ file (waiting ++ before) after).symm
    have hresult := (hfiles.map fun file => (file, judge file)).append_right finished
    refine List.Perm.trans ?_ hresult
    simp only [results, List.map_cons, List.cons_append, ← List.append_assoc]
    exact List.perm_append_singleton _ _

/-- A run leaves the results that were to come. -/
theorem Runs.perm_results (h : Runs workers judge pool next) :
    (next.results judge).Perm (pool.results judge) := by
  induction h with
  | refl => exact List.Perm.refl _
  | tail _ hstep ih => exact hstep.perm_results.trans ih

/-- What a pool leaves of some files is one result for each, in some order. -/
theorem Runs.perm_finished {files : List String} {finished : List (String × Verdict)}
    (h : Runs workers judge (start files) (ended finished)) :
    finished.Perm (files.map fun file => (file, judge file)) := by
  simpa [results, start, ended] using h.perm_results

/-- How much a pool has still to do. -/
def remaining (pool : Pool) : Nat := 2 * pool.waiting.length + pool.running.length

/-- Every step leaves less to do. -/
theorem Step.remaining_lt (h : Step workers judge pool next) : next.remaining < pool.remaining := by
  cases h with
  | take =>
    simp only [remaining, List.length_append, List.length_cons]
    omega
  | finish =>
    simp only [remaining, List.length_append, List.length_cons]
    omega

/-- A pool with a worker that has something to do can go on. -/
theorem exists_step (judge : String → Verdict) (hworkers : 0 < workers) (pool : Pool)
    (hbusy : pool.remaining ≠ 0) : ∃ next, Step workers judge pool next := by
  obtain ⟨waiting, running, finished⟩ := pool
  cases running with
  | cons file running => exact ⟨_, @Step.finish _ _ waiting [] running finished file⟩
  | nil =>
    cases waiting with
    | nil => exact absurd rfl hbusy
    | cons file waiting => exact ⟨_, @Step.take _ _ [] waiting [] finished file hworkers⟩

/-- A pool with a worker comes to its end from wherever it stands. -/
theorem exists_runs_ended (judge : String → Verdict) (hworkers : 0 < workers) (pool : Pool) :
    ∃ finished, Runs workers judge pool (ended finished) := by
  induction hsize : pool.remaining using Nat.strongRecOn generalizing pool with
  | ind size ih =>
    by_cases hbusy : pool.remaining = 0
    · obtain ⟨waiting, running, finished⟩ := pool
      simp only [remaining, Nat.add_eq_zero_iff, Nat.mul_eq_zero, List.length_eq_zero_iff] at hbusy
      obtain ⟨hwaiting, rfl⟩ := hbusy
      obtain rfl := hwaiting.resolve_left (by decide)
      exact ⟨finished, .refl⟩
    · obtain ⟨next, hstep⟩ := exists_step judge hworkers pool hbusy
      obtain ⟨finished, hruns⟩ := ih next.remaining (hsize ▸ hstep.remaining_lt) next rfl
      exact ⟨finished, .head hstep hruns⟩

end Pool

/-- The number of workers that judge: as many as are asked for, and as many as the machine offers if
none or zero are asked for or if a pool with so many cannot be had. -/
def workersOf (jobs : Option Nat) (machine : Nat) (granted : Bool) : Nat :=
  match jobs with
  | some (count + 1) => if granted then count + 1 else machine
  | _ => machine

/-- There is a worker if the machine offers one. -/
theorem workersOf_pos (jobs : Option Nat) {machine : Nat} (hmachine : 0 < machine) (granted : Bool) :
    0 < workersOf jobs machine granted := by
  unfold workersOf
  split
  · split
    · exact Nat.succ_pos _
    · exact hmachine
  · exact hmachine

end NotebookLint
