import NotebookLint.Engine.Script
import NotebookLint.Run

/-!
# The command line

The program reads the paths that it may look at from its standard input, one a line, as a search
for files lists them; a path that ends in a separator is a directory. Files that are scripts may
serve as engines. All else is decided by the run itself, which sees nothing but these files.
-/

namespace NotebookLint.Main

/-- The lines of a stream up to its end, with fuel for them. -/
def readLines (input : IO.FS.Stream) : (fuel : Nat) → IO (List String)
  | 0 => return []
  | fuel + 1 => do
    let line ← input.getLine
    if line.isEmpty then return []
    let rest ← readLines input fuel
    return (if line.endsWith "\n" then (line.dropEnd 1).toString else line) :: rest

/-- The most lines that are read. -/
def maxLines : Nat := 100000

/-- Whether bytes are those of a script. -/
def isScript : List UInt8 → Bool
  | 0x23 :: 0x21 :: _ => true
  | _ => false

/-- The entry that a listed path leads to, if it can be read. -/
def readEntry (path : String) : IO (Option (String × FileTree)) := do
  if path.endsWith "/" then return some (path, .directory [])
  try
    let bytes := (← IO.FS.readBinFile path).toList
    return some (path, .file bytes (isScript bytes))
  catch _ => return none

/-- The variables of the environment that a run looks at. -/
def environment : IO (List (String × String)) :=
  ["COLUMNS", "NBCHECK_LOG", "NO_COLOR"].filterMapM fun name => do
    return (← IO.getEnv name).map fun text => (name, text)

/-- The directories in which programs are looked for. -/
def searchPath : IO Engine.SearchPath := do
  match ← IO.getEnv "PATH" with
  | some text => return (text.splitOn ":").filter (! ·.isEmpty)
  | none => return ["/bin", "/usr/bin"]

end NotebookLint.Main

open NotebookLint in
/-- Runs the program: prints what the run prints, shows its warnings and its last words, and ends
with its status. -/
def main (words : List String) : IO UInt32 := do
  let start ← IO.monoMsNow
  let cwd := toString (← IO.currentDir)
  let paths ← Main.readLines (← IO.getStdin) Main.maxLines
  let listing ← paths.filterMapM Main.readEntry
  let tree := FileTree.ofListing cwd listing
  let scratch := "/tmp/nbcheck"
  let surroundings : Surroundings :=
    { tree := tree
      cwd := cwd
      environment := ← Main.environment
      onTerminal := ← (← IO.getStdout).isTty
      launch := Engine.launchIn tree (← Main.searchPath) scratch
      scratch := scratch
      milliseconds := (← IO.monoMsNow) - start }
  let trace := Run.perform surroundings words
  for warning in trace.warnings do
    IO.eprintln warning.line
  IO.print trace.output
  for text in trace.ending.lastWords do
    IO.eprintln text
  return trace.ending.exitCode.toUInt32
