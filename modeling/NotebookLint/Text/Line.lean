import NotebookLint.Text.Blank

/-!
# Lines of a text

Two views of the lines of a text: with their line ends, whose concatenation is the text, and
without them, as a reader of messages sees them.
-/

namespace NotebookLint.Text

/-- The lines of a text, each with its line feed; only the last one may lack it. -/
def linesWithEnds : List Char → List (List Char)
  | [] => []
  | c :: rest =>
    if c = '\n' then [c] :: linesWithEnds rest
    else
      match linesWithEnds rest with
      | [] => [[c]]
      | line :: lines => (c :: line) :: lines

/-- A line without its line feed, and without a carriage return before that line feed. -/
def dropLineEnd (line : List Char) : List Char :=
  match line.reverse with
  | '\n' :: '\r' :: kept => kept.reverse
  | '\n' :: kept => kept.reverse
  | _ => line

/-- The lines of a text without their line ends; a carriage return before a line feed belongs
to the line end. -/
def lines (text : List Char) : List (List Char) :=
  (linesWithEnds text).map dropLineEnd

/-- No character is lost between the lines. -/
theorem linesWithEnds_flatten (text : List Char) : (linesWithEnds text).flatten = text := by
  induction text with
  | nil => rfl
  | cons c rest ih =>
    rw [linesWithEnds]
    split
    · simp [ih]
    · cases h : linesWithEnds rest with
      | nil => simp_all
      | cons line lines => simp_all

/-- No line is empty, since each has its line feed or another character. -/
theorem ne_nil_of_mem_linesWithEnds (text : List Char) :
    ∀ line ∈ linesWithEnds text, line ≠ [] := by
  induction text with
  | nil => simp [linesWithEnds]
  | cons c rest ih =>
    rw [linesWithEnds]
    split
    · intro line h
      rcases List.mem_cons.1 h with rfl | h
      · simp
      · exact ih line h
    · cases h : linesWithEnds rest with
      | nil => simp
      | cons line lines =>
        intro l hl
        rcases List.mem_cons.1 hl with rfl | hl
        · simp
        · exact ih l (h ▸ List.mem_cons_of_mem _ hl)

end NotebookLint.Text
