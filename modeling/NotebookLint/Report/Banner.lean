/-!
# Banners and colours

A banner is a title in the middle of a line of equals signs. Colours are put around a text by
control sequences that change nothing else about it.
-/

namespace NotebookLint.Report

/-- The look of a text on a terminal: the numbers of its attributes. -/
abbrev Look := List Nat

/-- Red letters. -/
def red : Nat := 31

/-- Green letters. -/
def green : Nat := 32

/-- Yellow letters. -/
def yellow : Nat := 33

/-- Magenta letters. -/
def magenta : Nat := 35

/-- A yellow ground. -/
def onYellow : Nat := 43

/-- Bold letters. -/
def bold : Nat := 1

/-- The control sequence with these numbers. -/
def controlSequence (numbers : List Nat) : String :=
  "\x1b[" ++ String.intercalate ";" (numbers.map toString) ++ "m"

/-- A text with a look, if colours are wanted. -/
def paint (color : Bool) (look : Look) (text : String) : String :=
  if color then controlSequence look ++ text ++ controlSequence [0] else text

/-- A run of one character. -/
def repeated (count : Nat) (c : Char) : String :=
  String.ofList (List.replicate count c)

/-- How many characters are missing to the width of a line. -/
def padding (width : Nat) (title : String) : Nat :=
  width - title.length

/-- The signs before a title; an odd one stands here. -/
def leftSigns (width : Nat) (title : String) : String :=
  repeated ((padding width title + 1) / 2) '='

/-- The signs after a title. -/
def rightSigns (width : Nat) (title : String) : String :=
  repeated (padding width title / 2) '='

/-- A title in a line of equals signs, or alone if it is too long. -/
def banner (width : Nat) (color : Bool) (title : String) : String :=
  paint color [yellow] (leftSigns width title ++ title ++ rightSigns width title)

/-- A run has as many characters as are asked for. -/
theorem length_repeated (count : Nat) (c : Char) : (repeated count c).length = count := by
  simp [repeated]

end NotebookLint.Report
