import NotebookLint.Engine.Process
import NotebookLint.FileTree
import NotebookLint.Glob
import NotebookLint.Text.Natural

/-!
# Engines that are scripts in a file tree

A run can be described without starting a process: the file tree says which programs there are,
and a program that is a small shell script says itself what it does. The scripts that are
understood choose by patterns on their arguments, write messages, and end with a status or by a
signal; whatever else a script holds is a command that is not found.
-/

namespace NotebookLint.Engine

namespace Script

/-- A part of a word. -/
inductive Part where
  /-- Text; when it is not quoted, a pattern may read its stars and brackets. -/
  | text (quoted : Bool) (text : List Char)
  /-- An argument of the script by its number; the script itself is number zero. -/
  | argument (number : Nat)
  /-- All arguments. -/
  | allArguments
  /-- The number of the running process. -/
  | process
  deriving DecidableEq, Repr

/-- A word. -/
abbrev Word := List Part

/-- A token of a script. -/
inductive Token where
  /-- A word. -/
  | word (word : Word)
  /-- The redirection of the output to the messages. -/
  | toMessages
  /-- The end of a command. -/
  | separator
  /-- The end of a branch. -/
  | branchEnd
  /-- The sign between patterns. -/
  | bar
  /-- The sign after patterns. -/
  | close
  deriving DecidableEq, Repr

/-- The part that a character after a dollar sign names. -/
def expansion : Char → Option Part
  | '@' | '*' => some .allArguments
  | '$' => some .process
  | c => if c.isDigit then some (.argument (c.toNat - '0'.toNat)) else none

/-- Reads double-quoted text up to the closing quote. -/
def doubleQuoted : List Char → Word × List Char
  | [] => ([], [])
  | '"' :: rest => ([], rest)
  | '\\' :: c :: rest =>
    let (parts, after) := doubleQuoted rest
    let text := if c = '"' ∨ c = '\\' ∨ c = '$' ∨ c = '\x60' then [c] else ['\\', c]
    (.text true text :: parts, after)
  | '$' :: c :: rest =>
    let (parts, after) := doubleQuoted rest
    (match expansion c with
      | some part => part :: parts
      | none => .text true ['$', c] :: parts, after)
  | c :: rest =>
    let (parts, after) := doubleQuoted rest
    (.text true [c] :: parts, after)

/-- Cuts a script into tokens, with fuel for its characters. -/
def tokens : (fuel : Nat) → (word : Option Word) → List Char → List Token
  | 0, word, _ | _, word, [] => (word.map Token.word).toList
  | fuel + 1, word, c :: rest =>
    let ended (token : List Token) (after : List Char) : List Token :=
      (word.map Token.word).toList ++ token ++ tokens fuel none after
    let extended (parts : Word) (after : List Char) : List Token :=
      tokens fuel (some (word.getD [] ++ parts)) after
    match c, rest with
    | '\n', _ => ended [.separator] rest
    | ' ', _ | '\t', _ => ended [] rest
    | ';', ';' :: after => ended [.branchEnd] after
    | ';', _ => ended [.separator] rest
    | '|', _ => ended [.bar] rest
    | ')', _ => ended [.close] rest
    | '>', '&' :: '2' :: after => ended [.toMessages] after
    | '1', '>' :: '&' :: '2' :: after =>
      if word.isNone then ended [.toMessages] after else extended [.text false ['1']] rest
    | '#', _ =>
      if word.isNone then tokens fuel none (rest.dropWhile (· != '\n'))
      else extended [.text false ['#']] rest
    | '\'', _ =>
      extended [.text true (rest.takeWhile (· != '\''))] ((rest.dropWhile (· != '\'')).drop 1)
    | '"', _ =>
      let (parts, after) := doubleQuoted rest
      extended (.text true [] :: parts) after
    | '\\', '\n' :: after => tokens fuel word after
    | '\\', next :: after => extended [.text true [next]] after
    | '$', next :: after =>
      match expansion next with
      | some part => extended [part] after
      | none => extended [.text false ['$']] rest
    | _, _ => extended [.text false [c]] rest

/-- A command. -/
inductive Command where
  /-- Words that begin with the name of what is to be done, and whether output goes to the
  messages. -/
  | simple (words : List Word) (toMessages : Bool)
  /-- The commands of the first branch that has a matching pattern. -/
  | choose (subject : Word) (branches : List (List Word × List Command))

/-- The text of a word that has no expansion. -/
def plainText : Word → Option (List Char)
  | [] => some []
  | .text _ text :: rest => (plainText rest).map (text ++ ·)
  | _ => none

/-- Whether a word is a plain one. -/
def isKeyword (keyword : String) (word : Word) : Bool :=
  plainText word = some keyword.toList

/-- The words of a command up to its end, and whether its output goes to the messages. -/
def simpleCommand : List Token → List Word × Bool × List Token
  | .word word :: rest =>
    let (words, toMessages, after) := simpleCommand rest
    (word :: words, toMessages, after)
  | .toMessages :: rest =>
    let (words, _, after) := simpleCommand rest
    (words, true, after)
  | rest => ([], false, rest)

/-- The patterns before a branch. -/
def patterns : List Token → List Word × List Token
  | .word word :: rest =>
    let (words, after) := patterns rest
    (word :: words, after)
  | .bar :: rest => patterns rest
  | .close :: rest => ([], rest)
  | rest => ([], rest)

mutual

/-- Reads commands up to the end of the branch, with fuel for the tokens. -/
def commands : (fuel : Nat) → List Token → List Command × List Token
  | 0, rest => ([], rest)
  | _ + 1, [] => ([], [])
  | _ + 1, .branchEnd :: rest => ([], .branchEnd :: rest)
  | fuel + 1, .word word :: rest =>
    if isKeyword "esac" word then ([], .word word :: rest)
    else
      match isKeyword "case" word, rest with
      | true, .word subject :: .word _ :: body =>
        let (branches, after) := branches fuel body
        let (more, last) := commands fuel after
        (.choose subject branches :: more, last)
      | _, _ =>
        let (words, toMessages, after) := simpleCommand (.word word :: rest)
        let (more, last) := commands fuel after
        (.simple words toMessages :: more, last)
  | fuel + 1, _ :: rest => commands fuel rest

/-- Reads the branches of a choice up to its end, with fuel for the tokens. -/
def branches : (fuel : Nat) → List Token → List (List Word × List Command) × List Token
  | 0, rest => ([], rest)
  | _ + 1, [] => ([], [])
  | fuel + 1, .word word :: rest =>
    if isKeyword "esac" word then ([], rest)
    else
      let (wanted, body) := patterns (.word word :: rest)
      let (inner, after) := commands fuel body
      let (more, last) := branches fuel after
      ((wanted, inner) :: more, last)
  | fuel + 1, _ :: rest => branches fuel rest

end

/-- The text that a part stands for. -/
def Part.value (script : String) (arguments : List String) : Part → List Char
  | .text _ chars => chars
  | .argument 0 => script.toList
  | .argument (number + 1) => (arguments[number]?.getD "").toList
  | .allArguments => (String.intercalate " " arguments).toList
  | .process => "$$".toList

/-- The text that a word stands for. -/
def wordValue (script : String) (arguments : List String) (word : Word) : List Char :=
  word.flatMap (Part.value script arguments)

/-- The unquoted text at the beginning of a word, and what follows it. -/
def unquotedRun : Word → List Char × Word
  | .text false text :: rest =>
    let (run, after) := unquotedRun rest
    (text ++ run, after)
  | rest => ([], rest)

/-- The glob of a pattern, with fuel for its parts: only unquoted text has special characters. -/
def patternGlob (script : String) (arguments : List String) : (fuel : Nat) → Word → Glob
  | 0, _ | _, [] => []
  | fuel + 1, .text false text :: rest =>
    let (run, after) := unquotedRun rest
    let glob := match Glob.parse (text ++ run) with
      | .ok glob => glob
      | .error _ => (text ++ run).map GlobToken.char
    glob ++ patternGlob script arguments fuel after
  | fuel + 1, part :: rest =>
    (part.value script arguments).map GlobToken.char ++ patternGlob script arguments fuel rest

/-- What a running script has come to. -/
structure State where
  /-- The messages so far. -/
  messages : List Char
  /-- The status of the last command. -/
  status : Nat
  /-- How the script has ended, if it has. -/
  ended : Option ExitStatus

/-- The numbers of signals by name. -/
def signalNumber (name : List Char) : Option Nat :=
  let wanted := String.ofList name
  (Text.digits? name).orElse fun _ =>
    (List.range 16).find? fun number =>
      match signalName number with
      | some full => full = wanted || full = "SIG" ++ wanted
      | none => false

/-- Runs a simple command. -/
def runSimple (words : List (List Char)) (toMessages : Bool) (state : State) : State :=
  let output (text : List Char) : State :=
    { state with
      messages := if toMessages then state.messages ++ text else state.messages, status := 0 }
  match words with
  | [] => state
  | name :: operands =>
    match String.ofList name, operands with
    | "echo", _ => output ([' '].intercalate operands ++ ['\n'])
    | "true", _ | ":", _ => { state with status := 0 }
    | "false", _ => { state with status := 1 }
    | "exit", [] => { state with ended := some (.code state.status) }
    | "exit", status :: _ =>
      { state with ended := some (.code (((Text.digits? status).getD 2) % 256)) }
    | "kill", ['-' :: signal, _] =>
      { state with ended := some (.signal ((signalNumber signal).getD 15)) }
    | "kill", [_] => { state with ended := some (.signal 15) }
    | other, _ =>
      { state with
        messages := state.messages ++ ("sh: " ++ other ++ ": not found\n").toList, status := 127 }

mutual

/-- Runs a command. -/
def run (script : String) (arguments : List String) : Command → State → State
  | .simple words toMessages, state =>
    runSimple (words.map (wordValue script arguments)) toMessages state
  | .choose subject branches, state =>
    runBranches script arguments (wordValue script arguments subject) branches
      { state with status := 0 }

/-- Runs the first branch that has a pattern for a text. -/
def runBranches (script : String) (arguments : List String) (text : List Char) :
    List (List Word × List Command) → State → State
  | [], state => state
  | (wanted, body) :: rest, state =>
    if wanted.any fun pattern =>
        (patternGlob script arguments pattern.length pattern).matchesText text then
      runAll script arguments body state
    else runBranches script arguments text rest state

/-- Runs commands up to the one that ends the script. -/
def runAll (script : String) (arguments : List String) : List Command → State → State
  | [], state => state
  | command :: rest, state =>
    let next := run script arguments command state
    if next.ended.isSome then next else runAll script arguments rest next

end

/-- What a script does with its arguments: how it ends, and its messages. -/
def perform (text : List Char) (script : String) (arguments : List String) :
    ExitStatus × List Char :=
  let tokens := tokens text.length none text
  let last := runAll script arguments (commands (2 * tokens.length + 1) tokens).1 ⟨[], 0, none⟩
  (last.ended.getD (.code last.status), last.messages)

end Script

/-- The directories in which programs are looked for that are named without a directory. -/
abbrev SearchPath := List String

/-- The program that a path leads to, or why there is none. -/
def programAt (tree : FileTree) (cwd path : String) : Except FileFault (List UInt8) :=
  match tree.find cwd path with
  | .error fault => .error fault
  | .ok (.directory _) | .ok (.file _ false) => .error .permissionDenied
  | .ok (.file bytes true) => .ok bytes

/-- The first program with a name in the directories of a search path. One that may not be run
is passed over, but is what is reported if there is no other; a name that is too long ends the
search. -/
def searchProgram (tree : FileTree) (cwd name : String) :
    (refused : FileFault) → SearchPath → Except FileFault (List UInt8)
  | refused, [] => .error refused
  | refused, directory :: rest =>
    match programAt tree cwd (Path.join directory name) with
    | .ok bytes => .ok bytes
    | .error .permissionDenied => searchProgram tree cwd name .permissionDenied rest
    | .error .notFound | .error .notDirectory => searchProgram tree cwd name refused rest
    | .error fault => .error fault

/-- The program that a command names: by its path, or by its name in the search path. -/
def findProgram (tree : FileTree) (searchPath : SearchPath) (cwd program : String) :
    Except FileFault (List UInt8) :=
  if program.isEmpty then .error .notFound
  else if program.toList.contains '/' then programAt tree cwd program
  else searchProgram tree cwd program .notFound searchPath

/-- Starts the programs of a file tree from a working directory. -/
def launchIn (tree : FileTree) (searchPath : SearchPath) (cwd : String) : Launcher :=
  fun program arguments =>
    match findProgram tree searchPath cwd program with
    | .error fault => .refused fault.message
    | .ok bytes =>
      match Text.decodeLenient bytes with
      | '#' :: '!' :: text =>
        let (status, messages) := Script.perform ('#' :: '!' :: text) program arguments
        .ended status (Text.encode messages)
      | _ => .refused FileFault.notProgram.message

end NotebookLint.Engine
