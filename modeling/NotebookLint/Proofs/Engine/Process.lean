import NotebookLint.Engine.Process

/-!
# What an engine that is a program answers

Without a kernel no program is started; otherwise one is, once, unless its arguments cannot even be
handed to the system. A notebook has run to its end exactly if the program exits with status zero.
A program that cannot be started is an answer of its own, which nothing that a started program does
can bring about: its messages are read only after it has failed, and whatever they say, the answer
is then that the notebook failed or that its kernel is missing.

How a program is started is left open, so that the statements hold for every way in which it can
behave: a launcher is any function from a program and its arguments to an ending, and the messages
are any bytes.
-/

namespace NotebookLint.Engine

/-- The programs that are started for a request, with their arguments. -/
def launches (command : Command) (scratch : String) (request : ExecutionRequest) :
    List (String × List String) :=
  let arguments := arguments command scratch request
  if request.kernel.isSome && !holdsNul command.program arguments then
    [(command.program, arguments)]
  else []

/-- The arguments that name the directory of a notebook. -/
inductive NamesDirectory (notebook : String) : List String → Prop where
  /-- The notebook lies in a directory that has a name. -/
  | named {directory : String} (hparent : Path.parent? notebook = some directory)
      (hnamed : directory ≠ "") : NamesDirectory notebook ["--cwd", directory]
  /-- The notebook lies in the working directory, or in none. -/
  | unnamed (hparent : ∀ directory, Path.parent? notebook = some directory → directory = "") :
      NamesDirectory notebook []

/-- The arguments that hand over parameters. -/
inductive HandsOver (parameters : ParameterBag) : List String → Prop where
  /-- There are parameters. -/
  | document (hparameters : parameters ≠ []) : HandsOver parameters ["-y", Yaml.document parameters]
  /-- There are none. -/
  | nothing (hparameters : parameters = []) : HandsOver parameters []

/-- Whether arguments are those of a request with a kernel: the notebook, the place for the executed
copy, the directory if it has a name, the kernel, the parameters if there are any, and then the
further arguments as they are. -/
def Spells (command : Command) (scratch : String) (request : ExecutionRequest)
    (arguments : List String) : Prop :=
  ∃ kernel directory parameters, request.kernel = some kernel ∧
    NamesDirectory request.notebook directory ∧ HandsOver request.parameters parameters ∧
    arguments = [request.notebook, Path.join scratch "output.ipynb"] ++ directory ++
      ["-k", kernel] ++ parameters ++ command.extraArguments

/-- Whether an outcome blames the notebook or its kernel. -/
inductive Blames : Outcome → Prop where
  /-- The notebook failed. -/
  | failed (errorType message : String) : Blames (.failed errorType message)
  /-- The kernel is missing. -/
  | kernelUnavailable (kernel : Option String) (message : String) :
      Blames (.kernelUnavailable kernel message)

/-- The outcome of a program that could not be started. -/
def notStarted (program reason : String) : Outcome :=
  .engineUnavailable ("failed to launch `" ++ program ++ "`: " ++ reason)

/-- Whether an outcome is the right one for what became of the program of a request. -/
structure Classifies (launch : Launcher) (command : Command) (scratch : String)
    (request : ExecutionRequest) (outcome : Outcome) : Prop where
  /-- Without a kernel nothing is started, and a kernel without a name is missing. -/
  without_kernel : request.kernel = none →
    launches command scratch request = [] ∧ outcome = .kernelUnavailable none noKernelMessage
  /-- What is started is the program of the engine with the arguments of the request. -/
  spells : ∀ call ∈ launches command scratch request,
    call.1 = command.program ∧ Spells command scratch request call.2
  /-- With a kernel the program is started once if its arguments can be handed over. -/
  once : request.kernel ≠ none →
    holdsNul command.program (arguments command scratch request) = false →
    (launches command scratch request).length = 1
  /-- The notebook has run to its end exactly if the program is started and exits with status
  zero. -/
  completed_iff : outcome = .completed ↔ ∃ call ∈ launches command scratch request, ∃ messages,
    launch call.1 call.2 = .ended (.code 0) messages
  /-- The engine is not there exactly if there is a kernel and the program could not be started,
  because its arguments cannot be handed over or for the reason that is given. -/
  unavailable_iff : (∃ message, outcome = .engineUnavailable message) ↔ request.kernel ≠ none ∧
    (launches command scratch request = [] ∧
        outcome = notStarted command.program "nul byte found in provided data" ∨
      ∃ call ∈ launches command scratch request, ∃ reason, launch call.1 call.2 = .refused reason ∧
        outcome = notStarted command.program reason)
  /-- Every other end of the program is a failure of the notebook or a missing kernel. -/
  blames : ∀ call ∈ launches command scratch request, ∀ status messages,
    launch call.1 call.2 = .ended status messages → status ≠ .code 0 → Blames outcome

section Arguments

variable {command : Command} {scratch : String} {request : ExecutionRequest}

/-- The directory is named as it should be. -/
theorem namesDirectory_directoryArguments (notebook : String) :
    NamesDirectory notebook (directoryArguments notebook) := by
  unfold directoryArguments
  cases hparent : Path.parent? notebook with
  | none => exact .unnamed fun directory h => by rw [hparent] at h; cases h
  | some directory =>
    dsimp only
    by_cases hempty : directory = ""
    · rw [if_pos (by simp [hempty])]
      refine .unnamed fun other h => ?_
      rw [hparent] at h
      exact (Option.some.inj h).symm.trans hempty
    · rw [if_neg (by simp [hempty])]
      exact .named hparent hempty

/-- Parameters are handed over as they should be. -/
theorem handsOver_parameterArguments (parameters : ParameterBag) :
    HandsOver parameters (parameterArguments parameters) := by
  unfold parameterArguments
  by_cases hempty : parameters = []
  · rw [if_pos (List.isEmpty_iff.mpr hempty)]
    exact .nothing hempty
  · rw [if_neg (by simpa using hempty)]
    exact .document hempty

/-- The arguments of a request with a kernel are those that they should be. -/
theorem spells_arguments {kernel : String} (hkernel : request.kernel = some kernel) :
    Spells command scratch request (arguments command scratch request) := by
  refine ⟨kernel, _, _, hkernel, namesDirectory_directoryArguments request.notebook,
    handsOver_parameterArguments request.parameters, ?_⟩
  rw [arguments, hkernel]
  rfl

end Arguments

section Outcomes

/-- What is blamed has not run to its end. -/
theorem Blames.ne_completed {outcome : Outcome} (h : Blames outcome) : outcome ≠ .completed := by
  cases h <;> simp

/-- What is blamed is not the engine. -/
theorem Blames.ne_engineUnavailable {outcome : Outcome} (h : Blames outcome) (message : String) :
    outcome ≠ .engineUnavailable message := by
  cases h <;> simp

/-- A failed run blames the notebook or its kernel, whatever its messages say. -/
theorem blames_classify (messages : List Char) (status : String) :
    Blames (classify messages status) := by
  unfold classify
  dsimp only
  -- one case for each way in which the messages can name a cause
  split
  · exact .kernelUnavailable _ _
  · split
    · exact .kernelUnavailable _ _
    · split
      · exact .failed _ _
      · split
        · exact .failed _ _
        · split
          · exact .failed _ _
          · exact .failed _ _

/-- A program that was not started is reported as that, one that exits with status zero has run the
notebook to its end, and any other end blames the notebook or its kernel. -/
theorem outcomeOf_cases (program : String) (ending : Launch) :
    (∃ reason, ending = .refused reason ∧
        outcomeOf program ending = notStarted program reason) ∨
      (∃ messages, ending = .ended (.code 0) messages ∧ outcomeOf program ending = .completed) ∨
      ∃ status messages, ending = .ended status messages ∧ status ≠ .code 0 ∧
        Blames (outcomeOf program ending) := by
  unfold outcomeOf
  split
  · exact .inl ⟨_, rfl, rfl⟩
  · exact .inr (.inl ⟨_, rfl, rfl⟩)
  · rename_i status messages hother
    exact .inr (.inr ⟨status, messages, rfl, hother, blames_classify _ _⟩)

end Outcomes

section Execute

variable {launch : Launcher} {command : Command} {scratch : String} {request : ExecutionRequest}

/-- Without a kernel nothing is started. -/
theorem launches_of_no_kernel (hkernel : request.kernel = none) :
    launches command scratch request = [] := by
  simp [launches, hkernel]

/-- Arguments with a null character are not handed over. -/
theorem launches_of_holdsNul
    (hnul : holdsNul command.program (arguments command scratch request) = true) :
    launches command scratch request = [] := by
  simp [launches, hnul]

/-- Otherwise the program is started with the arguments of the request. -/
theorem launches_of_kernel {kernel : String} (hkernel : request.kernel = some kernel)
    (hnul : holdsNul command.program (arguments command scratch request) = false) :
    launches command scratch request =
      [(command.program, arguments command scratch request)] := by
  simp [launches, hkernel, hnul]

/-- Without a kernel the kernel is missing. -/
theorem execute_of_no_kernel (hkernel : request.kernel = none) :
    execute launch command scratch request = .kernelUnavailable none noKernelMessage := by
  simp [execute, hkernel]

/-- Arguments with a null character keep the program from being started. -/
theorem execute_of_holdsNul {kernel : String} (hkernel : request.kernel = some kernel)
    (hnul : holdsNul command.program (arguments command scratch request) = true) :
    execute launch command scratch request =
      notStarted command.program "nul byte found in provided data" := by
  simp only [execute, hkernel, hnul, if_true]
  rfl

/-- Otherwise the answer is what the launch amounts to. -/
theorem execute_of_kernel {kernel : String} (hkernel : request.kernel = some kernel)
    (hnul : holdsNul command.program (arguments command scratch request) = false) :
    execute launch command scratch request =
      outcomeOf command.program (launch command.program (arguments command scratch request)) := by
  simp [execute, hkernel, hnul]

/-- A request without a kernel is answered as it should be. -/
theorem classifies_of_no_kernel (hkernel : request.kernel = none) :
    Classifies launch command scratch request (execute launch command scratch request) := by
  rw [execute_of_no_kernel hkernel]
  constructor
  case without_kernel => exact fun _ => ⟨launches_of_no_kernel hkernel, rfl⟩
  case once => exact fun h => absurd hkernel h
  all_goals simp [launches_of_no_kernel hkernel, hkernel]

/-- A request whose arguments cannot be handed over is answered as it should be. -/
theorem classifies_of_holdsNul {kernel : String} (hkernel : request.kernel = some kernel)
    (hnul : holdsNul command.program (arguments command scratch request) = true) :
    Classifies launch command scratch request (execute launch command scratch request) := by
  rw [execute_of_holdsNul hkernel hnul]
  constructor
  case without_kernel =>
    intro hnone
    rw [hkernel] at hnone
    cases hnone
  case once =>
    intro _ hhanded
    rw [hnul] at hhanded
    cases hhanded
  case unavailable_iff =>
    refine ⟨fun _ => ⟨by simp [hkernel], .inl ⟨launches_of_holdsNul hnul, rfl⟩⟩, ?_⟩
    exact fun _ => ⟨_, rfl⟩
  all_goals simp [launches_of_holdsNul hnul, notStarted]

/-- A request whose program is started is answered by how the program ends. -/
theorem classifies_of_launched {kernel : String} (hkernel : request.kernel = some kernel)
    (hnul : holdsNul command.program (arguments command scratch request) = false) :
    Classifies launch command scratch request (execute launch command scratch request) := by
  have hcalls := launches_of_kernel hkernel hnul
  rw [execute_of_kernel hkernel hnul]
  constructor
  case without_kernel =>
    intro hnone
    rw [hkernel] at hnone
    cases hnone
  case spells =>
    intro call hcall
    rw [hcalls] at hcall
    obtain rfl := List.mem_singleton.mp hcall
    exact ⟨rfl, spells_arguments hkernel⟩
  case once =>
    intro _ _
    rw [hcalls]
    rfl
  all_goals
    simp only [hcalls, List.mem_singleton, forall_eq, exists_eq_left]
    generalize launch command.program (arguments command scratch request) = ending
  case completed_iff =>
    rcases outcomeOf_cases command.program ending with
      ⟨reason, rfl, hanswer⟩ | ⟨messages, rfl, hanswer⟩ | ⟨status, messages, rfl, hstatus, hanswer⟩
    · simp [hanswer, notStarted]
    · simp [hanswer]
    · simp [hanswer.ne_completed, hstatus]
  case unavailable_iff =>
    rcases outcomeOf_cases command.program ending with
      ⟨reason, rfl, hanswer⟩ | ⟨messages, rfl, hanswer⟩ | ⟨status, messages, rfl, hstatus, hanswer⟩
    · simp [hanswer, notStarted, hkernel]
    · simp [hanswer]
    · simp [hanswer.ne_engineUnavailable]
  case blames =>
    rintro status messages rfl hstatus
    rcases outcomeOf_cases command.program (.ended status messages) with
      ⟨_, hended, _⟩ | ⟨_, hended, _⟩ | ⟨_, _, _, _, hanswer⟩
    · cases hended
    · cases hended
      exact absurd rfl hstatus
    · exact hanswer

/-- Only what the launches of a request are answered makes a difference. -/
theorem execute_congr {other : Launcher}
    (hanswers : ∀ call ∈ launches command scratch request,
      other call.1 call.2 = launch call.1 call.2) :
    execute other command scratch request = execute launch command scratch request := by
  cases hkernel : request.kernel with
  | none => rw [execute_of_no_kernel hkernel, execute_of_no_kernel hkernel]
  | some kernel =>
    cases hnul : holdsNul command.program (arguments command scratch request) with
    | true => rw [execute_of_holdsNul hkernel hnul, execute_of_holdsNul hkernel hnul]
    | false =>
      rw [launches_of_kernel hkernel hnul] at hanswers
      rw [execute_of_kernel hkernel hnul, execute_of_kernel hkernel hnul,
        hanswers _ (List.mem_singleton.mpr rfl)]

end Execute

/-- An engine that is a program answers every request as its program behaves: that the notebook ran
to its end exactly if there is a kernel and the program was started and exited with status zero, that
the engine is not there exactly if the program could not be started, and else that the notebook
failed or that its kernel is missing, whatever the messages of the program are. The program is
started with the arguments of the request, at most once, and its ending is all that the answer
depends on. -/
theorem execute_classifies (launch : Launcher) (command : Command) (scratch : String)
    (request : ExecutionRequest) :
    Classifies launch command scratch request (execute launch command scratch request) ∧
      ∀ other : Launcher,
        (∀ call ∈ launches command scratch request, other call.1 call.2 = launch call.1 call.2) →
        execute other command scratch request = execute launch command scratch request := by
  refine ⟨?_, fun other hanswers => execute_congr hanswers⟩
  cases hkernel : request.kernel with
  | none => exact classifies_of_no_kernel hkernel
  | some kernel =>
    cases hnul : holdsNul command.program (arguments command scratch request) with
    | true => exact classifies_of_holdsNul hkernel hnul
    | false => exact classifies_of_launched hkernel hnul

/-- A program that is killed with nothing said is no notebook that ran to its end, and what it was
started with are the notebook, the place for the copy, the directory, the kernel, the parameters and
the further arguments. -/
theorem execute_classifies_killed :
    let launch : Launcher := fun _ _ => .ended (.signal 9) []
    let command : Command := ⟨"papermill", ["--log-output"]⟩
    let request : ExecutionRequest := ⟨"/work/a.ipynb", some "python3", [("alpha", .int 1)]⟩
    launches command "/tmp" request = [("papermill", ["/work/a.ipynb", "/tmp/output.ipynb", "--cwd",
        "/work", "-k", "python3", "-y", "alpha: 1\n", "--log-output"])] ∧
      Blames (execute launch command "/tmp" request) ∧
      execute launch command "/tmp" request ≠ .completed ∧
      execute (fun _ arguments => if arguments = [] then .refused "" else .ended (.signal 9) [])
        command "/tmp" request = execute launch command "/tmp" request := by
  intro launch command request
  obtain ⟨hclassifies, hanswers⟩ := execute_classifies launch command "/tmp" request
  have hlaunches : launches command "/tmp" request = [("papermill", ["/work/a.ipynb",
      "/tmp/output.ipynb", "--cwd", "/work", "-k", "python3", "-y", "alpha: 1\n",
      "--log-output"])] := by decide +kernel
  have hblames : Blames (execute launch command "/tmp" request) :=
    hclassifies.blames _ (by rw [hlaunches]; exact List.mem_singleton.mpr rfl) (.signal 9) [] rfl
      (by decide)
  refine ⟨hlaunches, hblames, hblames.ne_completed, hanswers _ ?_⟩
  intro call hcall
  rw [hlaunches] at hcall
  obtain rfl := List.mem_singleton.mp hcall
  exact if_neg (by simp)

end NotebookLint.Engine
