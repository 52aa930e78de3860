import NotebookLint.Parameter
import NotebookLint.Proofs.Declaration.Commented

/-!
# Cells of written defaults

A cell is laid out as lines, each an assignment of a literal to a name or nothing but blanks, all
with comments wherever comments may stand. Its declarations are the assignments in order, each with
the literal as it is written, and the parameters of a notebook with such a cell are the values of
the literals.

The layout says nothing of logical lines, and of a source only that reading gives its value and
that its line feeds are inside brackets or strings: that the scanner and the reader of literals
agree on where those are is the content of the theorem.
-/

namespace NotebookLint.Declaration

open NotebookLint.Text NotebookLint.Literal

/-- Blanks that end with their line. -/
abbrev Gap := { gap : List Char // ∀ c ∈ gap, isBlank c ∧ c ≠ '\n' }

/-- An assignment as it is written, with or without a type. -/
structure Assignment where
  /-- The blanks before the name. -/
  indent : Gap
  /-- The name. -/
  name : List Char
  /-- The blanks between the name and the equals sign or the colon. -/
  beforeMark : Gap
  /-- What stands between the colon and the equals sign, if there is a colon. -/
  type? : Option (List Char)
  /-- The blanks after the equals sign. -/
  afterMark : Gap
  /-- The literal. -/
  source : List Char
  /-- The literal with comments in its brackets. -/
  written : List Char
  /-- The value of the literal. -/
  value : Value
  /-- The comment after the literal. -/
  comment : Option LineText
  /-- The name begins as names do. -/
  name_begins : name.head?.any beginsName
  /-- The name goes on as names do. -/
  name_continues : ∀ c ∈ name, continuesName c
  /-- A type is not empty, and holds neither a mark nor an equals sign. -/
  type_plain : ∀ text ∈ type?, text ≠ [] ∧ ∀ c ∈ text, c ∉ marks ∧ c ≠ '='
  /-- The literal is accepted. -/
  reads : Literal.read (String.ofList source) = .ok value
  /-- Its line feeds are inside brackets or strings, and the comments before those in brackets. -/
  commented : Commented 0 source written

namespace Assignment

/-- What stands between the name and the literal, without the blanks around it. -/
def mark (a : Assignment) : List Char :=
  match a.type? with
  | none => ['=']
  | some type => ':' :: (type ++ ['='])

/-- The assignment up to the literal. -/
def left (a : Assignment) : List Char :=
  a.indent.val ++ (a.name ++ (a.beforeMark.val ++ (a.mark ++ a.afterMark.val)))

/-- The assignment as it is written. -/
def text (a : Assignment) : List Char :=
  a.left ++ (a.written ++ commentText a.comment)

/-- The declaration that the assignment makes: its name, and its literal without the blanks around
it. -/
def declaration (a : Assignment) : Declaration :=
  ⟨String.ofList a.name, String.ofList (trim a.source)⟩

end Assignment

/-- A line of a cell, which may go on over several lines inside brackets and strings. -/
inductive Line where
  /-- Nothing but blanks and perhaps a comment. -/
  | blank (gap : Gap) (comment : Option LineText)
  /-- An assignment. -/
  | assignment (a : Assignment)

namespace Line

/-- The line as it is written. -/
def text : Line → List Char
  | .blank gap comment => gap.val ++ commentText comment
  | .assignment a => a.text

/-- The line without its comments. -/
def logical : Line → List Char
  | .blank gap _ => gap.val
  | .assignment a => a.left ++ a.source

/-- The assignment in a line. -/
def assignment? : Line → Option Assignment
  | .blank _ _ => none
  | .assignment a => some a

end Line

/-- The text of a cell: its lines one after another. -/
def cellText (lines : List Line) : List Char :=
  List.intercalate ['\n'] (lines.map Line.text)

/-- The assignments of a cell in order. -/
def assignments (lines : List Line) : List Assignment :=
  lines.filterMap Line.assignment?

/-- A literal that is accepted is one of the grammar. -/
theorem denotes_of_read {source : List Char} {value : Value}
    (h : Literal.read (String.ofList source) = .ok value) : Denotes source value :=
  readWhole_eq_ok_iff.mp (read_ofList_eq_ok_iff.mp h)

/-- A literal that is accepted can be written as it is if it is on one line. -/
theorem commented_of_read {source : List Char} {value : Value}
    (h : Literal.read (String.ofList source) = .ok value) (hline : '\n' ∉ source) :
    Commented 0 source source :=
  commented_of_lexed (denotes_of_read h).lexed hline

section Scan

open Scanner

/-- Blanks within a line carry no mark. -/
theorem Gap.not_mem_marks (gap : Gap) : ∀ c ∈ gap.val, c ∉ marks := by
  intro c hc
  obtain ⟨hblank, hline⟩ := gap.property c hc
  exact @not_mem_of_all (fun d => isBlank d && d != '\n') marks (by decide) c (by simp [hblank, hline])

/-- Blanks within a line are blanks. -/
theorem Gap.isBlankText (gap : Gap) : Text.isBlankText gap.val :=
  List.all_eq_true.mpr fun c hc => (gap.property c hc).1

namespace Assignment

/-- Nothing up to the literal carries a mark. -/
theorem left_not_mem_marks (a : Assignment) : ∀ c ∈ a.left, c ∉ marks := by
  have hname : ∀ c ∈ a.name, c ∉ marks := fun c hc =>
    not_mem_of_all (by decide) (a.name_continues c hc)
  have hmark : ∀ c ∈ a.mark, c ∉ marks := by
    rw [mark]
    split
    · exact List.all_iff_forall_prop.mp (by decide)
    · rename_i type htype
      have hplain := (a.type_plain type htype).2
      intro c hc
      rw [List.mem_cons, List.mem_append, List.mem_singleton] at hc
      rcases hc with rfl | hc | rfl
      · decide
      · exact (hplain c hc).1
      · decide
  intro c hc
  simp only [left, List.mem_append] at hc
  rcases hc with hc | hc | hc | hc | hc
  · exact a.indent.not_mem_marks c hc
  · exact hname c hc
  · exact a.beforeMark.not_mem_marks c hc
  · exact hmark c hc
  · exact a.afterMark.not_mem_marks c hc

/-- The first character of a name carries no mark and is no blank. -/
theorem exists_name_cons (a : Assignment) :
    ∃ c rest, a.name = c :: rest ∧ beginsName c ∧ isBlank c = false := by
  have hbegins := a.name_begins
  cases hname : a.name with
  | nil => simp [hname] at hbegins
  | cons c rest =>
    have hc : beginsName c := by simpa [hname] using hbegins
    have hblanks : c ∉ blanks := not_mem_of_all (by decide) hc
    exact ⟨c, rest, rfl, hc, Bool.eq_false_iff.mpr fun hblank => hblanks (mem_blanks_of_isBlank hblank)⟩

/-- An assignment is not blank. -/
theorem not_isBlankText (a : Assignment) : isBlankText (a.left ++ a.source) = false := by
  obtain ⟨c, rest, hname, -, hc⟩ := a.exists_name_cons
  simp [isBlankText, left, hname, hc]

/-- The literal is one of the grammar. -/
theorem denotes (a : Assignment) : Denotes a.source a.value :=
  denotes_of_read a.reads

end Assignment

/-- A written line is scanned to what is left of it without its comments. -/
theorem linesOf_line (line : Line) (done : List (List Char)) {rest : List Char}
    (hrest : ∀ c ∈ rest.head?, c = '\n') :
    linesOf ⟨done, [], 0, .code⟩ (line.text ++ rest) =
      linesOf ⟨done, line.logical.reverse, 0, .code⟩ rest := by
  cases line with
  | blank gap comment =>
    rw [Line.text, List.append_assoc, linesOf_plain_append done [] 0 gap.not_mem_marks,
      linesOf_commentText done _ 0 comment hrest, List.append_nil]
    rfl
  | assignment a =>
    have hquote : ∀ c ∈ (commentText a.comment ++ rest).head?, isQuote c = false := by
      cases a.comment with
      | none => exact fun c hc => hrest c hc ▸ rfl
      | some comment => exact fun c hc => Option.some.inj hc ▸ rfl
    rw [Line.text, Assignment.text, List.append_assoc, List.append_assoc,
      linesOf_plain_append done [] 0 a.left_not_mem_marks,
      linesOf_commented a.commented a.denotes.lexed done _ hquote,
      linesOf_commentText done _ 0 a.comment hrest, Line.logical]
    simp

/-- A cell is scanned to its lines without their comments. -/
theorem linesOf_cellText (line : Line) (lines : List Line) (done : List (List Char)) :
    linesOf ⟨done, [], 0, .code⟩ (cellText (line :: lines)) =
      done.reverse ++ (line :: lines).map Line.logical := by
  induction lines generalizing line done with
  | nil =>
    have hend : ∀ c ∈ ([] : List Char).head?, c = '\n' := nofun
    have hline := linesOf_line line done hend
    rw [List.append_nil] at hline
    have htext : cellText [line] = line.text := by simp [cellText, List.intercalate]
    rw [htext, hline, linesOf_nil]
    simp
  | cons next lines ih =>
    have htext : cellText (line :: next :: lines) = line.text ++ '\n' :: cellText (next :: lines) := by
      simp [cellText, List.intercalate]
    rw [htext, linesOf_line line done (by simp), linesOf_lineFeed, ih]
    simp

/-- The lines that are not blank without their comments are the assignments. -/
theorem filter_logical (lines : List Line) :
    (lines.map Line.logical).filter (fun line => !isBlankText line) =
      (assignments lines).map fun a => a.left ++ a.source := by
  induction lines with
  | nil => rfl
  | cons line lines ih =>
    rw [assignments] at ih ⊢
    cases line with
    | blank gap comment =>
      rw [List.map_cons, List.filter_cons_of_neg (by simp [Line.logical, gap.isBlankText]),
        List.filterMap_cons_none rfl, ih]
    | assignment a =>
      rw [List.map_cons, List.filter_cons_of_pos (by simp [Line.logical, a.not_isBlankText]),
        List.filterMap_cons_some (f := Line.assignment?) rfl, ih]
      rfl

/-- The logical lines of a cell are its assignments without their comments. -/
theorem logicalLines_cellText (lines : List Line) :
    logicalLines (cellText lines) = (assignments lines).map fun a => a.left ++ a.source := by
  cases lines with
  | nil => rfl
  | cons line lines =>
    have hlines := linesOf_cellText line lines []
    rw [List.reverse_nil, List.nil_append] at hlines
    rw [← filter_logical, ← hlines]
    rfl

end Scan

namespace Assignment

/-- After the mark of an assignment stands its expression. -/
theorem afterEquals_mark (a : Assignment) (expression : List Char) :
    afterEquals (a.beforeMark.val ++ (a.mark ++ expression)) = some expression := by
  rw [afterEquals, skipBlanks_append a.beforeMark.isBlankText]
  cases htype : a.type? with
  | none =>
    have hmark : a.mark = ['='] := by rw [mark, htype]
    rw [hmark]
    rfl
  | some type =>
    have hmark : a.mark = ':' :: (type ++ ['=']) := by rw [mark, htype]
    obtain ⟨hne, hplain⟩ := a.type_plain type htype
    have hinside : ∀ d ∈ type, (d != '=') = true := fun d hd => by simpa using (hplain d hd).2
    have hstop : ∀ d ∈ ('=' :: expression).head?, (d != '=') = false := by simp
    have hspan := span_append hinside hstop
    rw [hmark, List.cons_append, List.append_assoc, skipBlanks_cons_of_not_isBlank rfl]
    obtain ⟨c, rest, rfl⟩ := List.exists_cons_of_ne_nil hne
    simp only [List.singleton_append, hspan.1, hspan.2]

/-- A name ends where the blanks or the mark after it begin. -/
theorem span_name (a : Assignment) (rest : List Char) :
    (a.name ++ (a.beforeMark.val ++ (a.mark ++ rest))).takeWhile continuesName = a.name ∧
      (a.name ++ (a.beforeMark.val ++ (a.mark ++ rest))).dropWhile continuesName =
        a.beforeMark.val ++ (a.mark ++ rest) := by
  refine span_append a.name_continues fun c hc => ?_
  have hall : ∀ c ∈ blanks ++ ['=', ':'], continuesName c = false :=
    List.all_iff_forall_prop.mp (by decide)
  refine hall c (List.mem_append.mpr ?_)
  cases hgap : a.beforeMark.val with
  | nil =>
    rw [hgap, List.nil_append, mark] at hc
    refine .inr ?_
    split at hc
    · exact Option.some.inj hc ▸ List.mem_cons_self
    · exact Option.some.inj hc ▸ List.mem_cons_of_mem _ List.mem_cons_self
  | cons d gap =>
    rw [hgap] at hc
    obtain rfl : d = c := Option.some.inj hc
    exact .inl (mem_blanks_of_isBlank
      (a.beforeMark.property d (hgap ▸ List.mem_cons_self)).1)

/-- A trimmed assignment is its name, its mark and its literal, with blanks between them. -/
theorem exists_trim_line (a : Assignment) :
    ∃ gap, isBlankText gap ∧
      trim (a.left ++ a.source) = a.name ++ (a.beforeMark.val ++ (a.mark ++ (gap ++ trim a.source))) := by
  obtain ⟨first, name, hname, -, hfirst⟩ := a.exists_name_cons
  obtain ⟨before, after, hbefore, hafter, hsource, hexpr⟩ := a.denotes.exists_trim
  have hgap : isBlankText (a.afterMark.val ++ before) := by
    rw [isBlankText, List.all_append, Bool.and_eq_true]
    exact ⟨a.afterMark.isBlankText, hbefore⟩
  refine ⟨a.afterMark.val ++ before, hgap, ?_⟩
  generalize trim a.source = body at hsource hexpr ⊢
  have hsolid : EndsSolid (a.name ++ (a.beforeMark.val ++
      (a.mark ++ ((a.afterMark.val ++ before) ++ body)))) :=
    (((hexpr.endsSolid.append _).append _).append _).append _
  rw [hsource, ← trim_append a.indent.isBlankText hafter _ hsolid.getLast?]
  · simp [left]
  · rw [hname]
    exact fun d hd => Option.some.inj hd ▸ hfirst

/-- An assignment makes its declaration. -/
theorem ofLine_trim (a : Assignment) : ofLine (trim (a.left ++ a.source)) = some a.declaration := by
  obtain ⟨first, name, hname, hbegins, -⟩ := a.exists_name_cons
  obtain ⟨-, -, -, -, -, hexpr⟩ := a.denotes.exists_trim
  obtain ⟨gap, hgap, hline⟩ := a.exists_trim_line
  rw [declaration]
  generalize trim a.source = body at hexpr hline ⊢
  obtain ⟨c, rest, rfl, hc⟩ := hexpr.exists_beginsValue
  have hexpression : trim (gap ++ c :: rest) = c :: rest := by
    simpa using hexpr.trim_append hgap isBlankText_nil
  have hequals : c ≠ '=' := fun h => absurd (h ▸ hc) (by decide)
  have hhead : (a.name ++ (a.beforeMark.val ++ (a.mark ++ (gap ++ c :: rest)))).head?.any beginsName := by
    simp [hname, hbegins]
  rw [ofLine, hline]
  simp only [a.span_name, hhead, if_true, a.afterEquals_mark, hexpression]
  split
  · rename_i hnil
    cases hnil
  · rename_i hcons
    exact absurd (List.cons.inj hcons).1 hequals
  · rfl

/-- The literal is read without the blanks around it as well. -/
theorem read_raw (a : Assignment) : Literal.read a.declaration.raw = .ok a.value := by
  obtain ⟨-, -, -, -, -, hexpr⟩ := a.denotes.exists_trim
  have hspaced := Spaced.intro isBlankText_nil hexpr isBlankText_nil
  rw [List.nil_append, List.append_nil] at hspaced
  rw [declaration, read_ofList_eq_ok_iff]
  exact readWhole_eq_ok_iff.mpr hspaced

end Assignment

/-- The declarations of a cell are its assignments. -/
theorem ofCell_cellText (lines : List Line) :
    ofCell (String.ofList (cellText lines)) = (assignments lines).map Assignment.declaration := by
  have hline : ((fun line => ofLine (trim line)) ∘ fun a : Assignment => a.left ++ a.source) =
      some ∘ Assignment.declaration :=
    funext Assignment.ofLine_trim
  rw [ofCell, String.toList_ofList, logicalLines_cellText, List.filterMap_map, hline,
    List.filterMap_eq_map]

/-- Reading the declarations of assignments puts their values one after another. -/
theorem evaluate_declarations (assigned : List Assignment) (bag : ParameterBag) :
    Parameter.evaluate (assigned.map Assignment.declaration) bag =
      .ok (assigned.foldl (fun bag a => Entries.put (String.ofList a.name) a.value bag) bag) := by
  induction assigned generalizing bag with
  | nil => rfl
  | cons a rest ih =>
    rw [List.map_cons, Parameter.evaluate, a.read_raw]
    exact ih _

/-- The named values of the assignments of a cell. -/
def values (lines : List Line) : List (String × Value) :=
  (assignments lines).map fun a => (String.ofList a.name, a.value)

/-- A cell of written defaults declares exactly its assignments, in order and with every literal as
it is written; and where it is the only cell of defaults in a notebook whose language is known and
that has one cell tagged for injection, the parameters are the values of the literals, inserted one
after another. -/
theorem declares_assignments (lines : List Line) :
    ofCell (String.ofList (cellText lines)) = (assignments lines).map Assignment.declaration ∧
      ∀ (notebook : Notebook) (cell : Cell), Parameter.defaultCells notebook = [cell] →
        cell.text = String.ofList (cellText lines) → Parameter.parametersCellCount notebook = 1 →
          Parameter.translator notebook = some .python →
            Parameter.extract notebook = .ok (Entries.ofList (values lines)) := by
  refine ⟨ofCell_cellText lines, fun notebook cell hcells htext hcount htranslator => ?_⟩
  have hdeclarations : Parameter.declarations notebook =
      (assignments lines).map Assignment.declaration := by
    rw [Parameter.declarations, hcells, List.flatMap_singleton, htext, ofCell_cellText]
  rw [Parameter.extract, hcells, hcount]
  simp only [List.isEmpty_cons, Bool.false_eq_true, if_false, htranslator, hdeclarations,
    evaluate_declarations, Entries.ofList, values, List.foldl_map]

/-- A list over two lines, with a comment in it and a string that holds the mark of comments. -/
def listedDefault : Assignment where
  indent := ⟨[], by simp⟩
  name := ['x', 's']
  beforeMark := ⟨[], by simp⟩
  type? := some [' ', 'l', 'i', 's', 't', ' ']
  afterMark := ⟨[' '], by simp [isBlank]⟩
  source := ['[', '1', ',', '\n', '\'', '#', '\'', ']']
  written := ['[', '1', ',', '#', 'a', '\n', '\'', '#', '\'', ']']
  value := .list [.int 1, .text "#"]
  comment := none
  name_begins := rfl
  name_continues := List.all_eq_true.mp rfl
  type_plain := by simp [marks]
  reads := read_ofList_eq_ok_iff.mpr rfl
  commented := by
    have hbody : Body ⟨'\'', false, false⟩ ['#', '\''] ['#'] :=
      .plain rfl nofun (by decide) .close
    have hstring : StringLiteral [']'] ['\'', '#', '\''] ['#'] :=
      @StringLiteral.single _ none _ _ _ nofun rfl rfl hbody
    have hclosed : Commented 1 ['\'', '#', '\'', ']'] ['\'', '#', '\'', ']'] :=
      .literal hstring (.closing rfl .nil)
    have hline := Commented.lineFeed (some ⟨['a'], by decide⟩) hclosed
    exact .opening rfl (.other rfl rfl (by decide) rfl (.other rfl rfl (by decide) rfl hline))

/-- A list over two lines with comments around it is the default of its name. -/
theorem declares_assignments_listed :
    let lines := [Line.blank ⟨[], by simp⟩ (some ⟨['a'], by decide⟩), .assignment listedDefault]
    let cell : Cell := ⟨.code, [String.ofList (cellText lines)], none,
      [Parameter.defaultsTag, Parameter.parametersTag]⟩
    ofCell (String.ofList (cellText lines)) = [⟨"xs", "[1,\n'#']"⟩] ∧
      Parameter.extract ⟨[cell], some ⟨some "python3", none⟩, none⟩ =
        .ok [("xs", .list [.int 1, .text "#"])] := by
  intro lines cell
  have hdeclares := declares_assignments lines
  refine ⟨hdeclares.1, hdeclares.2 _ cell ?_ ?_ ?_ ?_⟩
  · simp [Parameter.defaultCells, Cell.hasTag, cell]
  · simp [Cell.text, cell]
  · simp [Parameter.parametersCellCount, Cell.hasTag, cell]
  · have hkernel : unlessBlank "python3" = some "python3" := by decide +kernel
    have hnamed : Parameter.translatorNamed "python3" = some .python := by decide +kernel
    simp [Parameter.translator, Notebook.kernelName, hkernel, hnamed]

end NotebookLint.Declaration
