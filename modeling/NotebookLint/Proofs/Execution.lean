import NotebookLint.Check

/-!
# What an execution asks and answers

An execution asks the engine once if there is something to inject or nothing has to be, and not at
all if the parameters cannot be extracted; how it ends follows from the one answer. The requests
that it keeps are the whole of what it wants from the engine: engines that answer these alike make
the same execution, so that counting them counts the calls. Without parameters a notebook counts by
its kernel only.

The directory for the executed copy is taken to be there, since it is made before the engine is
asked and belongs to no notebook.
-/

namespace NotebookLint

namespace Execution

/-- The parameters that an execution injects: the declared ones, or none if it does without. -/
def injected (withParameters : Bool) (notebook : Notebook) : Except Parameter.Error ParameterBag :=
  if withParameters then Parameter.extract notebook else .ok []

/-- Whether an execution ends with an error of a kind. -/
def EndsWith (execution : Execution) (error : CheckError) (kind : ErrorKind) : Prop :=
  execution.error = some error ∧ error.kind = kind

/-- Whether an execution asks an engine what it should, and reports what the engine answers. -/
structure Faithful (engine : Engine) (path : String) (withParameters : Bool) (notebook : Notebook)
    (execution : Execution) : Prop where
  /-- The engine is asked once, without parameters or if they can be extracted. -/
  asked_once : (withParameters = false ∨ ∃ parameters, Parameter.extract notebook = .ok parameters) →
    execution.requests.length = 1
  /-- The engine is not asked if the parameters cannot be extracted. -/
  not_asked : withParameters = true → (∃ fault, Parameter.extract notebook = .error fault) →
    execution.requests = []
  /-- It is asked about this notebook with its kernel and exactly its parameters. -/
  request_eq : ∀ request ∈ execution.requests,
    request.notebook = path ∧ request.kernel = notebook.kernelName ∧
      if withParameters then Parameter.extract notebook = .ok request.parameters
      else request.parameters = []
  /-- There is no error exactly if the engine was asked and the notebook ran to its end. -/
  succeeds_iff : execution.error = none ↔
    ∃ request ∈ execution.requests, engine request = .completed
  /-- Parameters that cannot be extracted are an error of their own kind. -/
  parameter : withParameters = true → ∀ fault, Parameter.extract notebook = .error fault →
    execution.EndsWith (.parameter fault) .parameter
  /-- An error that the notebook raised keeps its type and its message. -/
  failed : ∀ request ∈ execution.requests, ∀ errorType message,
    engine request = .failed errorType message →
      execution.EndsWith (.execution errorType message) .execution
  /-- A kernel that is missing is an error of its own kind. -/
  kernel : ∀ request ∈ execution.requests, ∀ kernel message,
    engine request = .kernelUnavailable kernel message →
      execution.EndsWith (.kernel kernel message) .kernel
  /-- So is an engine that could not be started. -/
  engine : ∀ request ∈ execution.requests, ∀ message, engine request = .engineUnavailable message →
    execution.EndsWith (.engine message) .engine

/-- Only an answer that the notebook ran to its end is no error. -/
theorem errorOf_eq_none_iff (outcome : Outcome) : errorOf outcome = none ↔ outcome = .completed := by
  cases outcome <;> simp [errorOf]

section Run

variable {engine : Engine} {path : String} {withParameters : Bool} {notebook : Notebook}

/-- An execution with something to inject asks once and ends as it is answered. -/
theorem run_of_injected {parameters : ParameterBag}
    (hinjected : injected withParameters notebook = .ok parameters) :
    run engine path withParameters notebook =
      let request : ExecutionRequest := ⟨path, notebook.kernelName, parameters⟩
      ⟨[request], errorOf (engine request), warningsOf path (engine request)⟩ := by
  unfold run
  unfold injected at hinjected
  rw [hinjected]

/-- An execution whose parameters cannot be extracted ends without asking. -/
theorem run_of_not_injected {fault : Parameter.Error}
    (hinjected : injected withParameters notebook = .error fault) :
    run engine path withParameters notebook = ⟨[], some (.parameter fault), []⟩ := by
  unfold run
  unfold injected at hinjected
  rw [hinjected]

/-- When there is something to inject. -/
theorem injected_eq_ok_iff {parameters : ParameterBag} :
    injected withParameters notebook = .ok parameters ↔
      if withParameters then Parameter.extract notebook = .ok parameters else parameters = [] := by
  cases withParameters
  · simp [injected, eq_comm]
  · simp [injected]

/-- Only declared parameters can keep an execution from asking. -/
theorem injected_eq_error_iff {fault : Parameter.Error} :
    injected withParameters notebook = .error fault ↔
      withParameters = true ∧ Parameter.extract notebook = .error fault := by
  cases withParameters <;> simp [injected]

/-- An execution that asks is faithful. -/
theorem faithful_of_injected {parameters : ParameterBag}
    (hinjected : injected withParameters notebook = .ok parameters) :
    (run engine path withParameters notebook).Faithful engine path withParameters notebook := by
  have hnever (fault : Parameter.Error) (hwith : withParameters = true)
      (hfault : Parameter.extract notebook = .error fault) : False := by
    rw [injected_eq_error_iff.mpr ⟨hwith, hfault⟩] at hinjected
    cases hinjected
  rw [run_of_injected hinjected]
  constructor
  case asked_once => exact fun _ => rfl
  case not_asked =>
    rintro hwith ⟨fault, hfault⟩
    exact (hnever fault hwith hfault).elim
  case request_eq =>
    intro request hrequest
    obtain rfl := List.mem_singleton.mp hrequest
    exact ⟨rfl, rfl, injected_eq_ok_iff.mp hinjected⟩
  case succeeds_iff =>
    rw [errorOf_eq_none_iff]
    simp
  case parameter =>
    intro hwith fault hfault
    exact (hnever fault hwith hfault).elim
  case failed =>
    intro request hrequest errorType message hanswer
    obtain rfl := List.mem_singleton.mp hrequest
    exact ⟨congrArg errorOf hanswer, rfl⟩
  case kernel =>
    intro request hrequest kernel message hanswer
    obtain rfl := List.mem_singleton.mp hrequest
    exact ⟨congrArg errorOf hanswer, rfl⟩
  case engine =>
    intro request hrequest message hanswer
    obtain rfl := List.mem_singleton.mp hrequest
    exact ⟨congrArg errorOf hanswer, rfl⟩

/-- An execution that cannot ask is faithful. -/
theorem faithful_of_not_injected {fault : Parameter.Error}
    (hinjected : injected withParameters notebook = .error fault) :
    (run engine path withParameters notebook).Faithful engine path withParameters notebook := by
  obtain ⟨hwith, hfault⟩ := injected_eq_error_iff.mp hinjected
  rw [run_of_not_injected hinjected]
  constructor
  case asked_once =>
    rintro (hwithout | ⟨parameters, hparameters⟩)
    · rw [hwith] at hwithout
      cases hwithout
    · rw [hfault] at hparameters
      cases hparameters
  case parameter =>
    intro _ other hother
    rw [hfault] at hother
    cases hother
    exact ⟨rfl, rfl⟩
  all_goals simp

/-- Every execution is faithful: there is something to inject or there is not. -/
theorem faithful_run : (run engine path withParameters notebook).Faithful engine path withParameters
    notebook := by
  cases hinjected : injected withParameters notebook with
  | ok parameters => exact faithful_of_injected hinjected
  | error fault => exact faithful_of_not_injected hinjected

/-- Engines that answer the requests of an execution alike make the same execution. -/
theorem run_congr {other : Engine}
    (hanswers : ∀ request ∈ (run engine path withParameters notebook).requests,
      other request = engine request) :
    run other path withParameters notebook = run engine path withParameters notebook := by
  cases hinjected : injected withParameters notebook with
  | ok parameters =>
    rw [run_of_injected hinjected] at hanswers ⊢
    rw [run_of_injected hinjected]
    have hanswer := hanswers ⟨path, notebook.kernelName, parameters⟩ List.mem_cons_self
    simp only [hanswer]
  | error fault => rw [run_of_not_injected hinjected, run_of_not_injected hinjected]

/-- Without parameters only the kernel of a notebook makes a difference. -/
theorem run_without_parameters {other : Notebook} (hkernel : other.kernelName = notebook.kernelName) :
    run engine path false other = run engine path false notebook := by
  have hnone (any : Notebook) : injected false any = .ok [] := rfl
  rw [run_of_injected (hnone other), run_of_injected (hnone notebook), hkernel]

end Run

end Execution

open Execution in
/-- The execution check never passes a notebook that the engine did not run to its end, and never
fails one. -/
theorem Check.judge_execute (engine : Engine) (path : String) (notebook : Notebook)
    (withParameters : Bool) :
    let execution := run engine path withParameters notebook
    let verdict := ((Check.execute withParameters).judge engine path notebook).verdict
    (verdict.status = .pass ↔ ∃ request ∈ execution.requests, engine request = .completed) ∧
      verdict.status ≠ .fail := by
  intro execution verdict
  have hsucceeds : execution.error = none ↔ _ := faithful_run.succeeds_iff
  rw [← hsucceeds]
  have hverdict : verdict = (Judgement.ofExecution execution).verdict := rfl
  rw [hverdict, Judgement.ofExecution]
  cases execution.error with
  | none => simp [Verdict.pass]
  | some error => simp [CheckError.verdict, Verdict.error]

namespace Execution

/-- An execution asks the engine once, about its notebook with the kernel and exactly the parameters
of the notebook, or not at all if these cannot be extracted; it ends without an error, and the check
passes, exactly if the engine answers that the notebook ran to its end, and every other answer and
every refused extraction is an error of its own kind, never a fail. Nothing but the answer to this request
depends on the engine, and nothing but the kernel depends on the notebook if no parameters are
injected. -/
theorem run_asks_and_answers (engine : Engine) (path : String) (withParameters : Bool)
    (notebook : Notebook) :
    let execution := run engine path withParameters notebook
    let verdict := ((Check.execute withParameters).judge engine path notebook).verdict
    execution.Faithful engine path withParameters notebook ∧
      ((verdict.status = .pass ↔ ∃ request ∈ execution.requests, engine request = .completed) ∧
        verdict.status ≠ .fail) ∧
      (∀ other : Engine, (∀ request ∈ execution.requests, other request = engine request) →
        run other path withParameters notebook = execution) ∧
      ∀ other : Notebook, other.kernelName = notebook.kernelName →
        run engine path false other = run engine path false notebook := by
  refine ⟨faithful_run, Check.judge_execute engine path notebook withParameters, ?_, ?_⟩
  · intro other hanswers
    exact run_congr hanswers
  · intro other hkernel
    exact run_without_parameters hkernel

/-- A notebook with a default but no place to inject it is not executed with parameters, and is
executed like an empty one without. -/
theorem run_asks_and_answers_unplaced :
    let cell : Cell := ⟨.code, ["x = 1"], none, [Parameter.defaultsTag]⟩
    let notebook : Notebook := ⟨[cell], none, none⟩
    let engine : Engine := fun _ => .completed
    (run engine "a.ipynb" true notebook).requests = [] ∧
      (run engine "a.ipynb" true notebook).EndsWith (.parameter .missingParametersCell) .parameter ∧
      (run engine "a.ipynb" false notebook).requests.length = 1 ∧
      run engine "a.ipynb" false notebook = run engine "a.ipynb" false ⟨[], none, none⟩ := by
  intro cell notebook engine
  have hextract : Parameter.extract notebook = .error .missingParametersCell := rfl
  obtain ⟨hwith, -, -, -⟩ := run_asks_and_answers engine "a.ipynb" true notebook
  obtain ⟨hwithout, -, -, hkernel⟩ := run_asks_and_answers engine "a.ipynb" false notebook
  refine ⟨hwith.not_asked rfl ⟨_, hextract⟩, hwith.parameter rfl _ hextract,
    hwithout.asked_once (.inl rfl), ?_⟩
  exact (hkernel ⟨[], none, none⟩ rfl).symm

end Execution

end NotebookLint
