import NotebookLint.Proofs.Json.Field
import NotebookLint.Proofs.Notebook.Alike

/-!
# How a source is stored

A source is stored as one string or as a list of strings. The text of a cell does not depend on this:
it is what the strings are together. Its lines do: one string is counted by its line feeds, but in a
list every string counts as one line, whatever it holds. Limits on lines therefore judge two ways to
store a text alike if both count the same lines, as they do if a list has a string for each line.
-/

namespace NotebookLint.Notebook

open NotebookLint.Json

/-- The number of lines of a text: its line feeds, and one more if the text goes on behind the
last. -/
def countLines (text : List Char) : Nat :=
  text.count '\n' + if text.getLast?.any (· ≠ '\n') then 1 else 0

/-- Whether a source stores a text, and in how many lines. -/
inductive Stores : Tree → (text : List Char) → (lines : Nat) → Prop where
  /-- One string has the lines of the text. -/
  | whole (text : List Char) : Stores (.string (units text)) text (countLines text)
  /-- A list has a line for each of its strings. -/
  | list (pieces : List (List Char)) :
      Stores (.array (pieces.map fun piece => .string (units piece))) pieces.flatten pieces.length

/-- Whether two sources store the same text. -/
def SameText (one other : Tree) : Prop :=
  ∃ text lines lines', Stores one text lines ∧ Stores other text lines'

/-- Whether two sources store the same text in the same number of lines. -/
def SameLines (one other : Tree) : Prop :=
  ∃ text lines, Stores one text lines ∧ Stores other text lines

/-- Whether a cell has the text that the source of a tree stores, and as many lines, if there is a
source. -/
def HoldsSource (tree : Tree) (cell : Cell) : Prop :=
  ∀ source text lines, Tree.FieldAt 1 "source" source tree → Stores source text lines →
    cell.text.toList = text ∧ cell.lineCount = lines

/-- A line feed at its beginning makes one line more of a text. -/
theorem countLines_newline (rest : List Char) : countLines ('\n' :: rest) = countLines rest + 1 := by
  rw [countLines, countLines, List.count_cons_self]
  cases rest with
  | nil => rfl
  | cons c rest =>
    rw [List.getLast?_cons_cons]
    omega

/-- Another character at its beginning makes a line of an empty text only. -/
theorem countLines_cons {c d : Char} {rest : List Char} (hc : c ≠ '\n') :
    countLines (c :: d :: rest) = countLines (d :: rest) := by
  rw [countLines, countLines, List.count_cons_of_ne hc, List.getLast?_cons_cons]

/-- A text is cut into as many pieces as it has lines. -/
theorem length_linesWithEnds (text : List Char) :
    (Text.linesWithEnds text).length = countLines text := by
  induction text with
  | nil => rfl
  | cons c rest ih =>
    rw [Text.linesWithEnds]
    split
    · rename_i hc
      rw [hc, countLines_newline, List.length_cons, ih]
    · rename_i hc
      have hflatten := Text.linesWithEnds_flatten rest
      cases rest with
      | nil => simp [Text.linesWithEnds, countLines, hc]
      | cons d rest =>
        rw [countLines_cons hc, ← ih]
        split
        · rename_i hnone
          rw [hnone] at hflatten
          cases hflatten
        · rename_i hlines
          rw [hlines]
          rfl

/-- What a source stores is what its pieces are together, in as many lines as there are pieces. -/
theorem Stores.of_pieces {source : Tree} {text : List Char} {lines : Nat} {pieces : List (List Char)}
    (h : Stores source text lines) (hpieces : Pieces source pieces) :
    pieces.flatten = text ∧ pieces.length = lines := by
  cases h with
  | whole =>
    generalize hsource : units text = named at hpieces
    cases hpieces with
    | whole text' =>
      obtain rfl := units_injective hsource
      exact ⟨Text.linesWithEnds_flatten text, length_linesWithEnds text⟩
  | list pieces' =>
    generalize hsource : (pieces'.map fun piece => Tree.string (units piece)) = items at hpieces
    cases hpieces with
    | list pieces =>
      have hinjective : Function.Injective fun piece => Tree.string (units piece) :=
        fun _ _ h => units_injective (Tree.string.inj h)
      obtain rfl := List.map_injective_iff.mpr hinjective hsource
      exact ⟨rfl, rfl⟩

/-- A source that stores a text has pieces. -/
theorem Stores.exists_pieces {source : Tree} {text : List Char} {lines : Nat}
    (h : Stores source text lines) : ∃ pieces, Pieces source pieces := by
  cases h with
  | whole => exact ⟨_, .whole text⟩
  | list pieces => exact ⟨_, .list pieces⟩

/-- The pieces of a source in one piece. -/
theorem toList_join_map (pieces : List (List Char)) :
    (String.join (pieces.map String.ofList)).toList = pieces.flatten := by
  simp [String.toList_join, List.flatMap_def]

/-- Two sources that store the same text have pieces that are the same together, one piece for each
line. -/
theorem exists_pieces_of_stores {one other : Tree} {text : List Char} {lines lines' : Nat}
    {pieces : List (List Char)} (hone : Stores one text lines) (hother : Stores other text lines')
    (hpieces : Pieces one pieces) :
    ∃ pieces', Pieces other pieces' ∧ pieces'.flatten = pieces.flatten ∧ pieces.length = lines ∧
      pieces'.length = lines' := by
  obtain ⟨hflatten, hlength⟩ := hone.of_pieces hpieces
  obtain ⟨pieces', hpieces'⟩ := hother.exists_pieces
  obtain ⟨hflatten', hlength'⟩ := hother.of_pieces hpieces'
  exact ⟨pieces', hpieces', hflatten'.trans hflatten.symm, hlength, hlength'⟩

/-- Sources that store the same text are read to pieces that are the same together. -/
theorem reads_sameText : Reads SameText fun texts others => String.join others = String.join texts := by
  refine ⟨rfl, ?_⟩
  rintro one other pieces ⟨text, lines, lines', hone, hother⟩ hpieces
  obtain ⟨pieces', hpieces', hsame, -, -⟩ := exists_pieces_of_stores hone hother hpieces
  refine ⟨pieces', hpieces', ?_⟩
  rw [← String.toList_inj, toList_join_map, toList_join_map, hsame]

/-- Sources that store the same text in the same number of lines are read to equally many pieces. -/
theorem reads_sameLines : Reads SameLines fun texts others => texts.length = others.length := by
  refine ⟨rfl, ?_⟩
  rintro one other pieces ⟨text, lines, hone, hother⟩ hpieces
  obtain ⟨pieces', hpieces', -, hlength, hlength'⟩ := exists_pieces_of_stores hone hother hpieces
  exact ⟨pieces', hpieces', by rw [List.length_map, List.length_map, hlength, hlength']⟩

/-- A source that has pieces stores a text. -/
theorem sameLines_self (source : Tree) (pieces : List (List Char)) (h : Pieces source pieces) :
    SameLines source source := by
  cases h with
  | whole text => exact ⟨text, _, .whole text, .whole text⟩
  | list => exact ⟨pieces.flatten, _, .list pieces, .list pieces⟩

section Lines

variable {cells others : List Cell}

/-- Whether two cells agree up to their sources, which have equally many pieces. -/
abbrev SameCount : Cell → Cell → Prop :=
  CellAgrees fun texts others => texts.length = others.length

/-- Of cells with equally many lines the same one is the first that is too long. -/
theorem firstLongCell_congr (h : List.Forall₂ SameCount cells others) (limit place : Nat) :
    (Check.firstLongCell limit place others).map (Prod.map id Cell.lineCount) =
      (Check.firstLongCell limit place cells).map (Prod.map id Cell.lineCount) := by
  induction h generalizing place with
  | nil => rfl
  | @cons cell other _ _ hcell _ ih =>
    have hlines : other.lineCount = cell.lineCount := hcell.source.symm
    have hcode : other.isCode = cell.isCode := by rw [Cell.isCode, hcell.kind, ← Cell.isCode]
    rw [Check.firstLongCell, Check.firstLongCell, hcode, hlines]
    split
    · simp [hlines]
    · exact ih (place + 1)

/-- Code cells with equally many lines have as many lines together. -/
theorem foldl_lineCount_congr (h : List.Forall₂ SameCount cells others) (lines : Nat) :
    (others.filter Cell.isCode).foldl (fun lines cell => lines + cell.lineCount) lines =
      (cells.filter Cell.isCode).foldl (fun lines cell => lines + cell.lineCount) lines := by
  induction h generalizing lines with
  | nil => rfl
  | @cons cell other _ _ hcell _ ih =>
    have hlines : other.lineCount = cell.lineCount := hcell.source.symm
    have hcode : other.isCode = cell.isCode := by rw [Cell.isCode, hcell.kind, ← Cell.isCode]
    rw [List.filter_cons, List.filter_cons, hcode]
    split
    · rw [List.foldl_cons, List.foldl_cons, hlines]
      exact ih _
    · exact ih lines

/-- Cells with equally many lines are judged alike by their lines, with the same explanations. -/
theorem judge_lines {notebook other : Notebook}
    (h : List.Forall₂ SameCount notebook.cells other.cells) (limit : Nat) :
    Check.judgeLineInCell limit other = Check.judgeLineInCell limit notebook ∧
      Check.judgeTotalLines limit other = Check.judgeTotalLines limit notebook := by
  constructor
  · have hfirst := firstLongCell_congr h limit 1
    unfold Check.judgeLineInCell
    cases hnotebook : Check.firstLongCell limit 1 notebook.cells with
    | none =>
      rw [hnotebook] at hfirst
      rw [Option.map_eq_none_iff.mp hfirst]
    | some found =>
      rw [hnotebook] at hfirst
      obtain ⟨found', hfound', hsame⟩ := Option.map_eq_some_iff.mp hfirst
      obtain ⟨hplace, hlines⟩ := Prod.mk.inj hsame
      rw [hfound']
      dsimp only [id] at hplace hlines ⊢
      rw [hplace, hlines]
  · have htotal : Check.totalLines other = Check.totalLines notebook := foldl_lineCount_congr h 0
    rw [Check.judgeTotalLines, Check.judgeTotalLines, htotal]

end Lines

/-- A cell that is read has the text and the lines that its source stores. -/
theorem holdsSource_of_decodeCell {room : Nat} {node : Node} {tree : Tree} {cell : Cell}
    (htells : Tells node tree) (h : decodeCell room node = .ok cell) : HoldsSource tree cell := by
  intro source text lines hsource hstores
  obtain ⟨close, inside, field, start, filled, hfield, hfill, hview⟩ :=
    @exists_fill_of_decodeRecord _ _ [_] [_, _] sourceSlot Cell.source _ _ _ _ _ _ _ (by
      intro other hother
      simp only [List.cons_append, List.nil_append, List.mem_cons, List.not_mem_nil, or_false]
        at hother
      rcases hother with rfl | rfl | rfl
      · exact ⟨by decide, keeps_plain fun _ _ => rfl⟩
      · exact ⟨by decide, keeps_plain fun _ _ => rfl⟩
      · exact ⟨by decide, keeps_plain fun _ _ => rfl⟩) htells hsource h
  obtain ⟨-, texts, htexts, rfl⟩ := sourceSlot_fill_eq_ok_iff.mp hfill
  obtain ⟨hflatten, hlength⟩ := hstores.of_pieces (pieces_of_sourcePieces hfield htexts)
  rw [Cell.text, Cell.lineCount, hview]
  refine ⟨?_, by simpa using hlength⟩
  rw [← hflatten, String.toList_join, List.flatMap_def]

/-- Cells that are read one by one have the texts and the lines that their sources store. -/
theorem forall₂_holdsSource {room : Nat} {nodes : List Node} {cells : List Cell} {trees : List Tree}
    (htells : List.Forall₂ Tells nodes trees)
    (h : List.Forall₂ (fun node cell => decodeCell room node = .ok cell) nodes cells) :
    List.Forall₂ HoldsSource trees cells := by
  induction h generalizing trees with
  | nil =>
    cases htells
    exact .nil
  | cons hcell _ ih =>
    cases htells with
    | cons hfirst hmore => exact .cons (holdsSource_of_decodeCell hfirst hcell) (ih hmore)

/-- The cells of a notebook that is read have the texts and the lines that their sources store. -/
theorem holdsSource_of_decodeNotebook {room : Nat} {node : Node} {tree : Tree} {notebook : Notebook}
    {cells : List Tree} (htells : Tells node tree) (h : decodeNotebook room node = .ok notebook)
    (hcells : Tree.FieldAt 0 "cells" (.array cells) tree) :
    List.Forall₂ HoldsSource cells notebook.cells := by
  obtain ⟨close, inside, field, start, filled, hfield, hfill, hview⟩ :=
    @exists_fill_of_decodeRecord _ _ [] [_] (.plain "cells" true (decodeList decodeCell) _)
      Notebook.cells _ _ _ _ _ _ _ (by
        intro other hother
        obtain rfl := List.mem_singleton.mp hother
        exact ⟨by decide, keeps_plain fun _ _ => rfl⟩) htells hcells h
  cases hread : decodeList decodeCell inside field with
  | error fault =>
    simp only [Slot.plain, hread] at hfill
    cases hfill
  | ok read =>
    simp only [Slot.plain, hread] at hfill
    obtain rfl := Except.ok.inj hfill
    obtain ⟨deeper, start, items, ending, rfl, hitems⟩ := exists_items_of_decodeList hread
    cases hfield with
    | array htells _ =>
      rw [hview]
      exact forall₂_holdsSource htells hitems

section Written

/-- A notebook with one code cell. -/
def oneCell (source : Tree) : Tree :=
  .object [member "cells" (.array [.object [member "cell_type" (.string (units "code".toList)),
    member "source" source]])]

/-- The text of a notebook with one code cell, given the text of its source. -/
def oneCellText (source : String) : String :=
  "\x7b\"cells\":[\x7b\"cell_type\":\"code\",\"source\":" ++ source ++ "\x7d]\x7d"

/-- The text of a notebook with one code cell is that of its source between two others. -/
theorem toList_oneCellText (source : String) :
    (oneCellText source).toList =
      "\x7b\"cells\":[\x7b\"cell_type\":\"code\",\"source\":".toList ++
        (source.toList ++ "\x7d]\x7d".toList) := by
  rw [← List.append_assoc]
  exact String.toList_append.trans (congrArg (· ++ _) String.toList_append)

/-- The text of a notebook with one code cell is a document that says so. -/
theorem document_oneCell {text : String} {source : Tree} (h : Denotes text.toList source) :
    Document (oneCellText text).toList (oneCell source) := by
  have hkind := member_of_denotes "cell_type" rfl
    (.string (@quoted_of_literal "code".toList rfl))
  have hsource := member_of_denotes "source" rfl h
  have hcell := document_of_denotes (.object (.cons hkind (.last hsource)))
  have hcells := member_of_denotes "cells" rfl (.array (.last hcell))
  have hnotebook := document_of_denotes (.object (.last hcells))
  rw [toList_oneCellText]
  simpa [oneCell] using hnotebook

/-- Notebooks with one code cell are alike if its sources are. -/
theorem alike_oneCell {source : Tree → Tree → Prop} {one other : Tree} (h : source one other) :
    NotebookAlike source (oneCell one) (oneCell other) := by
  have hname (name : String) (value : Tree) : ∃ chars, (member name value).1 = units chars :=
    ⟨_, rfl⟩
  have hcell : CellAlike source
      (.object [member "cell_type" (.string (units "code".toList)), member "source" one])
      (.object [member "cell_type" (.string (units "code".toList)), member "source" other]) := by
    refine .object (by simp [hname]) (.refl _) ?_
    rw [List.filter_eq_self.mpr (by simp), List.filter_eq_self.mpr (by simp)]
    refine .cons (memberAlike_member ?_) (.cons (memberAlike_member ?_) .nil)
    · simp
    · simp [h]
  refine .object (by simp [hname]) (.refl _) ?_
  rw [List.filter_eq_self.mpr (by simp), List.filter_eq_self.mpr (by simp)]
  refine .cons (memberAlike_member ?_) .nil
  simp only [List.mem_cons, List.not_mem_nil, or_false, forall_eq_or_imp, forall_eq]
  exact ⟨fun _ => .array (.cons hcell .nil), by simp⟩

/-- A text of two lines as one string. -/
theorem denotes_whole : Denotes "\"a\\nb\"".toList (.string (units "a\nb".toList)) :=
  .string (.intro (.plain (by decide) (by decide) (by decide)
    (.letter rfl (.plain (by decide) (by decide) (by decide) .nil))))

/-- A text of two lines as a list of one string. -/
theorem denotes_uncut : Denotes "[\"a\\nb\"]".toList (.array [.string (units "a\nb".toList)]) :=
  .array (.last (document_of_denotes denotes_whole))

/-- A text of two lines as a list of two strings. -/
theorem denotes_cut : Denotes "[\"a\",\"\\nb\"]".toList
    (.array [.string (units "a".toList), .string (units "\nb".toList)]) := by
  have hfirst : Denotes "\"a\"".toList (.string (units "a".toList)) :=
    .string (@quoted_of_literal "a".toList rfl)
  have hsecond : Denotes "\"\\nb\"".toList (.string (units "\nb".toList)) :=
    .string (.intro (.letter rfl (.plain (by decide) (by decide) (by decide) .nil)))
  exact .array (.cons (document_of_denotes hfirst) (.last (document_of_denotes hsecond)))

end Written

/-- How a source is stored changes neither the text of its cell nor, if it is stored in the same
number of lines, what the limits on lines say. Every cell of a document that is loaded has the text
that its source stores, in as many lines. A document that differs in nothing but how its sources are
stored is loaded too, with the same texts, and if it stores every source in the same number of
lines, both checks of lines judge it alike for every limit, with the same explanation. -/
theorem ofText_stored {first : String} {one : Tree} {notebook : Notebook}
    (hone : Document first.toList one) (h : ofText first = .ok notebook) :
    NotebookAlike SameLines one one ∧
      (∀ cells, Tree.FieldAt 0 "cells" (.array cells) one →
        List.Forall₂ HoldsSource cells notebook.cells) ∧
      ∀ (second : String) (other : Tree), Document second.toList other →
        NotebookAlike SameText one other →
          ∃ result, ofText second = .ok result ∧
            List.Forall₂ (fun cell cell' => cell'.text = cell.text) notebook.cells result.cells ∧
            (NotebookAlike SameLines one other → ∀ (engine : Engine) (path : String) (limit : Nat),
              (Check.lineInCell limit).judge engine path result =
                  (Check.lineInCell limit).judge engine path notebook ∧
                (Check.totalLineInNotebook limit).judge engine path result =
                  (Check.totalLineInNotebook limit).judge engine path notebook) := by
  have hdecode := ofText_eq_ok_iff.mp h
  refine ⟨alike_self_of_decode (covers_notebook sameLines_self) hone hdecode, ?_, ?_⟩
  · intro cells hcells
    obtain ⟨_, -, hfinds⟩ := exists_finds_of_document hone
    exact holdsSource_of_decodeNotebook hfinds.tells (decode_eq_ok_iff.mp hdecode).1 hcells
  · intro second other hother halike
    obtain ⟨result, hresult, hagrees⟩ := exists_ofText reads_sameText hone hother halike h
    refine ⟨result, hresult, hagrees.cells.imp fun _ _ hcell => hcell.source, ?_⟩
    intro hlines engine path limit
    obtain ⟨result', hresult', hcount⟩ := exists_ofText reads_sameLines hone hother hlines h
    obtain rfl : result' = result := Except.ok.inj (hresult'.symm.trans hresult)
    obtain ⟨hlongest, htotal⟩ := judge_lines hcount.cells limit
    exact ⟨congrArg Check.Judgement.plain hlongest, congrArg Check.Judgement.plain htotal⟩

/-- Two lines in two strings, though cut before the line feed, are judged as in one string. -/
theorem ofText_stored_cut :
    ofText (oneCellText "\"a\\nb\"") = .ok ⟨[⟨.code, ["a\n", "b"], none, []⟩], none, none⟩ ∧
      ∃ result, ofText (oneCellText "[\"a\",\"\\nb\"]") = .ok result ∧
        ∀ engine path, (Check.lineInCell 2).judge engine path result =
          (Check.lineInCell 2).judge engine path ⟨[⟨.code, ["a\n", "b"], none, []⟩], none, none⟩ := by
  have hload : ofText (oneCellText "\"a\\nb\"") =
      .ok ⟨[⟨.code, ["a\n", "b"], none, []⟩], none, none⟩ := by decide +kernel
  have hwhole := Stores.whole "a\nb".toList
  have hcut := Stores.list ["a".toList, "\nb".toList]
  obtain ⟨result, hresult, -, hjudge⟩ := (ofText_stored (document_oneCell denotes_whole) hload).2.2
    _ _ (document_oneCell denotes_cut) (alike_oneCell ⟨_, _, _, hwhole, hcut⟩)
  refine ⟨hload, result, hresult, fun engine path => ?_⟩
  exact (hjudge (alike_oneCell ⟨_, _, hwhole, hcut⟩) engine path 2).1

/-- Two lines in one string of a list count as one line. -/
theorem ofText_stored_uncut :
    NotebookAlike SameText (oneCell (.string (units "a\nb".toList)))
        (oneCell (.array [.string (units "a\nb".toList)])) ∧
      Document (oneCellText "\"a\\nb\"").toList (oneCell (.string (units "a\nb".toList))) ∧
      Document (oneCellText "[\"a\\nb\"]").toList
        (oneCell (.array [.string (units "a\nb".toList)])) ∧
      ∃ whole uncut, ofText (oneCellText "\"a\\nb\"") = .ok whole ∧
        ofText (oneCellText "[\"a\\nb\"]") = .ok uncut ∧
          ∀ engine path,
            ((Check.lineInCell 2).judge engine path whole).verdict =
                .fail "cell 1 has 2 lines (limit 2)" ∧
              ((Check.lineInCell 2).judge engine path uncut).verdict = .pass := by
  refine ⟨alike_oneCell ⟨_, _, _, .whole _, .list ["a\nb".toList]⟩, document_oneCell denotes_whole,
    document_oneCell denotes_uncut, ⟨[⟨.code, ["a\n", "b"], none, []⟩], none, none⟩,
    ⟨[⟨.code, ["a\nb"], none, []⟩], none, none⟩, by decide +kernel, by decide +kernel, ?_⟩
  intro engine path
  have hlong : Check.judgeLineInCell 2 ⟨[⟨.code, ["a\n", "b"], none, []⟩], none, none⟩ =
      .fail "cell 1 has 2 lines (limit 2)" := by decide
  exact ⟨hlong, rfl⟩

end NotebookLint.Notebook
