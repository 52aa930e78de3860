import NotebookLint.Execution
import NotebookLint.Text.Letter
import NotebookLint.Text.Line

/-!
# What a failed engine run means

The messages of an engine that ended with a failure are read for its cause: an unknown kernel, a
missing kernel name, an error that the notebook raised, or the last thing the engine said. Blank
lines and rules made of dashes carry no information.
-/

namespace NotebookLint.Engine

open NotebookLint.Text

/-- Whether a text begins with a pattern. -/
def beginsWith (pattern : String) (text : List Char) : Bool :=
  pattern.toList.isPrefixOf text

/-- Whether a pattern occurs in a text. -/
def mentions (pattern : String) : List Char → Bool
  | [] => pattern.toList.isEmpty
  | c :: rest => beginsWith pattern (c :: rest) || mentions pattern rest

/-- The lines that say something, without the blanks around them. -/
def informativeLines (messages : List Char) : List (List Char) :=
  ((lines messages).map trim).filter fun line => !line.all (· == '-')

/-- The words that announce the name of an unknown kernel. -/
def unknownKernelWords : String := "No such kernel named "

/-- The first word that directly follows an announcement of an unknown kernel. -/
def unknownKernelWord : List Char → Option (List Char)
  | [] => none
  | c :: rest =>
    let after := (c :: rest).drop unknownKernelWords.length
    if beginsWith unknownKernelWords (c :: rest) && after.head?.any (!isBlank ·) then
      some (after.takeWhile (!isBlank ·))
    else unknownKernelWord rest

/-- A text without the quotes at its ends. -/
def unquote (text : List Char) : List Char :=
  let isQuote (c : Char) : Bool := c == '\'' || c == '"'
  ((text.dropWhile isQuote).reverse.dropWhile isQuote).reverse

/-- What is said when no kernel is named at all. -/
def noKernelMessage : String :=
  "No kernel name found in notebook and no override provided"

/-- How the last part of the name of a raised error ends. -/
def errorSuffixes : List String := ["Error", "Exception", "Interrupt", "Exit"]

/-- The part of a dotted name after its last point. -/
def lastPart (name : List Char) : List Char :=
  (name.reverse.takeWhile (· != '.')).reverse

/-- Splits a line of the form `name: message` whose dotted name ends like the name of an error
and has something before that ending. -/
def exceptionLine (line : List Char) : Option (List Char × List Char) :=
  match line.takeWhile (· != ':'), line.dropWhile (· != ':') with
  | first :: name, _ :: message =>
    if (first.isAlpha || first == '_') && name.all (fun c => isWordChar c || c == '.') &&
        errorSuffixes.any (fun ending => ending.toList.isSuffixOf name) then
      some (lastPart (first :: name), skipBlanks message)
    else none
  | _, _ => none

/-- The error that the engine reports when a cell raises. -/
def cellErrorName : String := "PapermillExecutionError"

/-- The lines after the first that mentions a raising cell. -/
def afterCellError : List (List Char) → Option (List (List Char))
  | [] => none
  | line :: rest => if mentions cellErrorName line then some rest else afterCellError rest

/-- The message of a raising cell: which cell it was, if that is said, and the last line. -/
def cellErrorMessage (after : List (List Char)) : List Char :=
  let last := after.getLast?.getD []
  match after.find? (beginsWith "Exception encountered at") with
  | some cell => if cell = last then last else cell ++ ' ' :: last
  | none => last

/-- The cause of a failed run, given its messages and how it ended. -/
def classify (messages : List Char) (status : String) : Outcome :=
  let informative := informativeLines messages
  match unknownKernelWord messages with
  | some word =>
    let kernel := String.ofList (unquote word)
    .kernelUnavailable (some kernel) (unknownKernelWords ++ kernel)
  | none =>
    if mentions "NoSuchKernel" messages || mentions "No kernel name found" messages then
      .kernelUnavailable none
        (((informative.reverse.find? (mentions "kernel")).map String.ofList).getD noKernelMessage)
    else
      match afterCellError informative with
      | some after => .failed cellErrorName (String.ofList (cellErrorMessage after))
      | none =>
        match informative.getLast? with
        | none => .failed "EngineError" ("engine exited with " ++ status)
        | some last =>
          match exceptionLine last with
          | some (name, message) => .failed (String.ofList name) (String.ofList message)
          | none => .failed "EngineError" (String.ofList last)

end NotebookLint.Engine
