import NotebookLint.Engine.Failure
import NotebookLint.Path
import NotebookLint.Text.Utf8
import NotebookLint.Yaml.Block

/-!
# Engines that are programs

An engine that is a program is started once for every notebook, with the notebook, a place for
the executed copy, the kernel and the parameters on its command line. It has done its work if it
exits with status zero; otherwise its messages say what went wrong.
-/

namespace NotebookLint.Engine

/-- The program that is started and its further arguments. -/
structure Command where
  /-- The program. -/
  program : String
  /-- Arguments after all others. -/
  extraArguments : List String
  deriving DecidableEq, Repr

/-- How a program ended. -/
inductive ExitStatus where
  /-- It exited with a status. -/
  | code (status : Nat)
  /-- It was ended by a signal. -/
  | signal (number : Nat)
  /-- It was ended by a signal and left an image of its memory. -/
  | dumped (number : Nat)
  deriving DecidableEq, Repr

/-- The names of the signals. -/
def signalName : Nat → Option String
  | 1 => some "SIGHUP"
  | 2 => some "SIGINT"
  | 3 => some "SIGQUIT"
  | 4 => some "SIGILL"
  | 5 => some "SIGTRAP"
  | 6 => some "SIGABRT"
  | 7 => some "SIGBUS"
  | 8 => some "SIGFPE"
  | 9 => some "SIGKILL"
  | 10 => some "SIGUSR1"
  | 11 => some "SIGSEGV"
  | 12 => some "SIGUSR2"
  | 13 => some "SIGPIPE"
  | 14 => some "SIGALRM"
  | 15 => some "SIGTERM"
  | 16 => some "SIGSTKFLT"
  | 17 => some "SIGCHLD"
  | 18 => some "SIGCONT"
  | 19 => some "SIGSTOP"
  | 20 => some "SIGTSTP"
  | 21 => some "SIGTTIN"
  | 22 => some "SIGTTOU"
  | 23 => some "SIGURG"
  | 24 => some "SIGXCPU"
  | 25 => some "SIGXFSZ"
  | 26 => some "SIGVTALRM"
  | 27 => some "SIGPROF"
  | 28 => some "SIGWINCH"
  | 29 => some "SIGIO"
  | 30 => some "SIGPWR"
  | 31 => some "SIGSYS"
  | _ => none

/-- The wording of a signal. -/
def signalText (number : Nat) : String :=
  "signal: " ++ toString number ++
    (match signalName number with
      | some name => " (" ++ name ++ ")"
      | none => "")

/-- The wording of a status. -/
def ExitStatus.text : ExitStatus → String
  | .code status => "exit status: " ++ toString status
  | .signal number => signalText number
  | .dumped number => signalText number ++ " (core dumped)"

/-- What becomes of starting a program. -/
inductive Launch where
  /-- It could not be started. -/
  | refused (reason : String)
  /-- It ran and left messages. -/
  | ended (status : ExitStatus) (messages : List UInt8)
  deriving DecidableEq, Repr

/-- Starts a program with arguments. -/
abbrev Launcher := (program : String) → (arguments : List String) → Launch

/-- The name of the executed copy. -/
def outputName : String := "output.ipynb"

/-- The directory of a notebook as an argument, unless it is the working directory. -/
def directoryArguments (notebook : String) : List String :=
  match Path.parent? notebook with
  | some directory => if directory.isEmpty then [] else ["--cwd", directory]
  | none => []

/-- The kernel as an argument. -/
def kernelArguments : Option String → List String
  | some kernel => ["-k", kernel]
  | none => []

/-- The parameters as an argument, unless there are none. -/
def parameterArguments (parameters : ParameterBag) : List String :=
  if parameters.isEmpty then [] else ["-y", Yaml.document parameters]

/-- The arguments for a request, given the directory for the executed copy. -/
def arguments (command : Command) (scratch : String) (request : ExecutionRequest) : List String :=
  [request.notebook, Path.join scratch outputName] ++ directoryArguments request.notebook ++
    kernelArguments request.kernel ++ parameterArguments request.parameters ++
    command.extraArguments

/-- Whether a program and its arguments can be handed to the system at all. -/
def holdsNul (program : String) (arguments : List String) : Bool :=
  (program :: arguments).any fun text => text.toList.contains '\x00'

/-- What a launch amounts to. -/
def outcomeOf (program : String) : Launch → Outcome
  | .refused reason => .engineUnavailable ("failed to launch `" ++ program ++ "`: " ++ reason)
  | .ended (.code 0) _ => .completed
  | .ended status messages => classify (Text.decodeLenient messages) status.text

/-- Executes a request by starting a program. Without a kernel nothing is started. -/
def execute (launch : Launcher) (command : Command) (scratch : String) : Engine := fun request =>
  match request.kernel with
  | none => .kernelUnavailable none noKernelMessage
  | some _ =>
    let arguments := arguments command scratch request
    outcomeOf command.program
      (if holdsNul command.program arguments then .refused "nul byte found in provided data"
        else launch command.program arguments)

end NotebookLint.Engine
