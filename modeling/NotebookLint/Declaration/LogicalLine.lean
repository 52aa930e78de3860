import NotebookLint.Text.Blank

/-!
# Logical lines of a cell

A cell is cut into logical lines by one automaton that reads a character at a time: comments are
dropped, and a line goes on while a bracket is open, inside a string, or after a backslash at its
end. Since the automaton is a fold, what it makes of two texts in a row is what it makes of the
second from the state in which the first leaves it.
-/

namespace NotebookLint.Declaration

open NotebookLint.Text

/-- Where the automaton stands between two characters. -/
inductive Mode where
  /-- Outside strings and comments. -/
  | code
  /-- After a backslash in code, which joins lines if a line feed follows. -/
  | backslash
  /-- Inside a comment, up to the line feed. -/
  | comment
  /-- After one quote in code: the second of two may follow. -/
  | opened (quote : Char)
  /-- After two quotes in code: an empty string, unless a third follows. -/
  | openedTwice (quote : Char)
  /-- Inside a string with one or three quotes. -/
  | quoted (quote : Char) (triple : Bool)
  /-- After a backslash in a string. -/
  | escaped (quote : Char) (triple : Bool)
  /-- After one quote in a string with three. -/
  | closing (quote : Char)
  /-- After two quotes in a string with three. -/
  | closingTwice (quote : Char)
  deriving DecidableEq, Repr

/-- The automaton: the finished lines, the characters of the line being read, both newest first,
the number of open brackets, and the mode. -/
structure Scanner where
  /-- The finished lines, newest first. -/
  done : List (List Char)
  /-- The characters of the current line, newest first. -/
  current : List Char
  /-- The number of open brackets. -/
  depth : Nat
  /-- Where the automaton stands. -/
  mode : Mode
  deriving DecidableEq, Repr

namespace Scanner

/-- The automaton before the first character. -/
def start : Scanner := ⟨[], [], 0, .code⟩

/-- Adds a character to the current line and changes the mode. -/
def keep (s : Scanner) (c : Char) (mode : Mode) : Scanner :=
  { s with current := c :: s.current, mode := mode }

/-- Ends the current line. -/
def endLine (s : Scanner) : Scanner :=
  ⟨s.current.reverse :: s.done, [], s.depth, .code⟩

/-- Reads a character outside strings and comments. -/
def stepCode (s : Scanner) (c : Char) : Scanner :=
  match c with
  | '#' => { s with mode := .comment }
  | '\'' => s.keep c (.opened c)
  | '"' => s.keep c (.opened c)
  | '(' | '[' | '{' => { s.keep c .code with depth := s.depth + 1 }
  | ')' | ']' | '}' => { s.keep c .code with depth := s.depth - 1 }
  | '\\' => { s with mode := .backslash }
  | '\n' => if s.depth = 0 then s.endLine else s.keep c .code
  | _ => s.keep c .code

/-- Reads a character inside a string. A string between single quotes ends at a line feed, which
stays in the line. -/
def stepQuoted (s : Scanner) (quote : Char) (triple : Bool) (c : Char) : Scanner :=
  if c = '\\' then s.keep c (.escaped quote triple)
  else if c = quote then s.keep c (if triple then .closing quote else .code)
  else if c = '\n' && !triple then s.keep c .code
  else s.keep c (.quoted quote triple)

/-- Reads one character. -/
def step (s : Scanner) (c : Char) : Scanner :=
  match s.mode with
  | .code => s.stepCode c
  | .backslash => if c = '\n' then s.keep ' ' .code else (s.keep '\\' .code).stepCode c
  | .comment => if c = '\n' then s.stepCode c else s
  | .opened quote =>
    if c = quote then s.keep c (.openedTwice quote) else s.stepQuoted quote false c
  | .openedTwice quote => if c = quote then s.keep c (.quoted quote true) else s.stepCode c
  | .quoted quote triple => s.stepQuoted quote triple c
  | .escaped quote triple => s.keep c (.quoted quote triple)
  | .closing quote =>
    if c = quote then s.keep c (.closingTwice quote) else s.stepQuoted quote true c
  | .closingTwice quote => if c = quote then s.keep c .code else s.stepQuoted quote true c

/-- Reads a text. -/
def run (s : Scanner) (text : List Char) : Scanner :=
  text.foldl step s

/-- All lines read so far, the current one included. -/
def allLines (s : Scanner) : List (List Char) :=
  let s := if s.mode = .backslash then s.keep '\\' .code else s
  (s.current.reverse :: s.done).reverse

/-- Two texts in a row are read one after the other. -/
theorem run_append (s : Scanner) (first second : List Char) :
    s.run (first ++ second) = (s.run first).run second :=
  List.foldl_append

end Scanner

/-- The logical lines of a cell that hold more than blanks. -/
def logicalLines (text : List Char) : List (List Char) :=
  ((Scanner.start.run text).allLines).filter fun line => !isBlankText line

end NotebookLint.Declaration
