import NotebookLint.Notebook.Document
import NotebookLint.Parameter
import NotebookLint.Proofs.Entries

/-!
# Which parameters a notebook has

A notebook without defaults has no parameters, whatever else it holds. Of the reasons to refuse the
defaults of another one the first that applies is reported: the cell for injection is missing or
not the only one, the language is unknown, a default is no literal, and of several such defaults the
first in cell order is named. Without such a reason every name has the place of its first
declaration and the value of its last.

Nothing of a cell counts but whether it carries the two tags and, if it declares defaults, its text,
however that is cut into pieces.
-/

namespace NotebookLint.Parameter

/-- Whether a named value is what a declaration stands for. -/
def Reads (declaration : Declaration) (parameter : String × Value) : Prop :=
  parameter.1 = declaration.name ∧ Literal.read declaration.raw = .ok parameter.2

/-- Whether a cell of a notebook declares defaults. -/
def Declares (notebook : Notebook) : Prop :=
  ∃ cell ∈ notebook.cells, cell.hasTag defaultsTag = true

/-- What can come of the parameters of a notebook. -/
inductive Extracts (notebook : Notebook) : Except Error ParameterBag → Prop where
  /-- There are none without a cell that declares defaults. -/
  | nothing (hnone : ¬Declares notebook) : Extracts notebook (.ok [])
  /-- No cell is tagged for injection. -/
  | missing (hsome : Declares notebook) (hcount : parametersCellCount notebook = 0) :
      Extracts notebook (.error .missingParametersCell)
  /-- Several cells are tagged for injection. -/
  | ambiguous (hsome : Declares notebook) (hcount : 2 ≤ parametersCellCount notebook) :
      Extracts notebook (.error (.ambiguousParametersCell (parametersCellCount notebook)))
  /-- The language is unknown, and the kernel is named, or else the language. -/
  | foreign (hsome : Declares notebook) (hcount : parametersCellCount notebook = 1)
      (hforeign : translator notebook = none) :
      Extracts notebook
        (.error (.noTranslator ((notebook.kernelName.or notebook.language).getD "<unset>")))
  /-- A default is no literal, and those before it are. -/
  | unreadable {before after : List Declaration} {declaration : Declaration} {error : Literal.Error}
      (hsome : Declares notebook) (hcount : parametersCellCount notebook = 1)
      (hknown : translator notebook ≠ none)
      (hsplit : declarations notebook = before ++ declaration :: after)
      (hbefore : ∀ earlier ∈ before, ∃ value, Literal.read earlier.raw = .ok value)
      (hread : Literal.read declaration.raw = .error error) :
      Extracts notebook (.error (.eval declaration.name declaration.raw error))
  /-- All defaults are literals, and the bag is what inserting them in order settles on. -/
  | settled {parameters : List (String × Value)} {bag : ParameterBag}
      (hsome : Declares notebook) (hcount : parametersCellCount notebook = 1)
      (hknown : translator notebook ≠ none)
      (hreads : List.Forall₂ Reads (declarations notebook) parameters)
      (hbag : Entries.Settles parameters bag) : Extracts notebook (.ok bag)

/-- Whether a cell can stand for another: it carries the same of the two tags, and the same text if
it declares defaults. -/
structure Alike (cell other : Cell) : Prop where
  /-- Both declare defaults or neither does. -/
  defaults : cell.hasTag defaultsTag = other.hasTag defaultsTag
  /-- Both are tagged for injection or neither is. -/
  parameters : cell.hasTag parametersTag = other.hasTag parametersTag
  /-- Declarations are the same. -/
  text : cell.hasTag defaultsTag = true → cell.text = other.text

/-- Whether a source in a document spells out a text: as one string, or as strings in a row. -/
inductive SpellsOut : Json.Node → List Char → Prop where
  /-- One string. -/
  | whole {chars : List Char} {after : Json.Spot} : SpellsOut (.string (.ok chars) after) chars
  /-- Strings in a row. -/
  | pieces {start : Json.Spot} {items : List Json.Node} {ending : Json.Ending}
      {texts : List (List Char)}
      (hitems : List.Forall₂ (fun item chars => ∃ after, item = .string (.ok chars) after)
        items texts) : SpellsOut (.array start items ending) texts.flatten

section Evaluate

/-- Declarations that can be read are put into the bag one after another. -/
theorem evaluate_of_reads {declarations : List Declaration} {parameters : List (String × Value)}
    (hreads : List.Forall₂ Reads declarations parameters) (bag : ParameterBag) :
    evaluate declarations bag =
      .ok (parameters.foldl (fun entries pair => Entries.put pair.1 pair.2 entries) bag) := by
  induction hreads generalizing bag with
  | nil => rfl
  | @cons declaration parameter _ _ hread _ ih =>
    obtain ⟨hname, hvalue⟩ := hread
    simp only [evaluate, hvalue, List.foldl_cons]
    rw [ih, hname]

/-- A declaration that cannot be read is reported if all before it can. -/
theorem evaluate_of_unreadable {before after : List Declaration} {declaration : Declaration}
    {error : Literal.Error}
    (hbefore : ∀ earlier ∈ before, ∃ value, Literal.read earlier.raw = .ok value)
    (hread : Literal.read declaration.raw = .error error) (bag : ParameterBag) :
    evaluate (before ++ declaration :: after) bag =
      .error (.eval declaration.name declaration.raw error) := by
  induction before generalizing bag with
  | nil => simp [evaluate, hread]
  | cons earlier before ih =>
    obtain ⟨⟨value, hvalue⟩, hbefore⟩ := List.forall_mem_cons.mp hbefore
    rw [List.cons_append, evaluate, hvalue]
    exact ih hbefore _

/-- Either all declarations can be read, or there is a first that cannot. -/
theorem reads_or_unreadable (declarations : List Declaration) :
    (∃ parameters, List.Forall₂ Reads declarations parameters) ∨
      ∃ before declaration after error, declarations = before ++ declaration :: after ∧
        (∀ earlier ∈ before, ∃ value, Literal.read earlier.raw = .ok value) ∧
        Literal.read declaration.raw = .error error := by
  induction declarations with
  | nil => exact .inl ⟨[], .nil⟩
  | cons declaration declarations ih =>
    cases hread : Literal.read declaration.raw with
    | error error => exact .inr ⟨[], declaration, declarations, error, rfl, by simp, hread⟩
    | ok value =>
      rcases ih with ⟨parameters, hreads⟩ | ⟨before, failing, after, error, hsplit, hbefore, hfails⟩
      · exact .inl ⟨(declaration.name, value) :: parameters, .cons ⟨rfl, hread⟩ hreads⟩
      · refine .inr ⟨declaration :: before, failing, after, error, by rw [hsplit]; rfl, ?_, hfails⟩
        exact List.forall_mem_cons.mpr ⟨⟨value, hread⟩, hbefore⟩

end Evaluate

section Extract

variable {notebook : Notebook}

/-- There are cells to scan exactly if one declares defaults. -/
theorem isEmpty_defaultCells_iff : (defaultCells notebook).isEmpty = true ↔ ¬Declares notebook := by
  simp [defaultCells, Declares]

/-- Defaults are looked at once one cell declares them. -/
theorem not_isEmpty_defaultCells (hsome : Declares notebook) :
    ¬(defaultCells notebook).isEmpty = true :=
  fun hempty => isEmpty_defaultCells_iff.mp hempty hsome

/-- Defaults with one place for injection are evaluated if the language is known. -/
theorem extract_of_declares (hsome : Declares notebook) (hcount : parametersCellCount notebook = 1)
    (hknown : translator notebook ≠ none) :
    extract notebook = evaluate (declarations notebook) [] := by
  obtain ⟨found, hfound⟩ := Option.ne_none_iff_exists'.mp hknown
  cases found
  simp only [extract, if_neg (not_isEmpty_defaultCells hsome), hcount, hfound]

/-- What can come of the parameters is what extracting them gives. -/
theorem Extracts.eq {result : Except Error ParameterBag} (h : Extracts notebook result) :
    extract notebook = result := by
  cases h with
  | nothing hnone => rw [extract, if_pos (isEmpty_defaultCells_iff.mpr hnone)]
  | missing hsome hcount =>
    simp only [extract, if_neg (not_isEmpty_defaultCells hsome), hcount]
  | ambiguous hsome hcount =>
    rw [extract, if_neg (not_isEmpty_defaultCells hsome)]
    split
    · omega
    · omega
    · rfl
  | foreign hsome hcount hforeign =>
    simp only [extract, if_neg (not_isEmpty_defaultCells hsome), hcount, hforeign]
    rw [Option.orElse_eq_or]
  | unreadable hsome hcount hknown hsplit hbefore hread =>
    rw [extract_of_declares hsome hcount hknown, hsplit, evaluate_of_unreadable hbefore hread]
  | settled hsome hcount hknown hreads hbag =>
    rw [extract_of_declares hsome hcount hknown, evaluate_of_reads hreads,
      Entries.settles_iff.mp hbag]
    rfl

/-- One of the cases always applies. -/
theorem exists_extracts (notebook : Notebook) : ∃ result, Extracts notebook result := by
  by_cases hsome : Declares notebook
  · rcases Nat.lt_trichotomy (parametersCellCount notebook) 1 with hcount | hcount | hcount
    · exact ⟨_, .missing hsome (Nat.lt_one_iff.mp hcount)⟩
    · by_cases hknown : translator notebook = none
      · exact ⟨_, .foreign hsome hcount hknown⟩
      · rcases reads_or_unreadable (declarations notebook) with
          ⟨parameters, hreads⟩ | ⟨before, declaration, after, error, hsplit, hbefore, hread⟩
        · exact ⟨_, .settled hsome hcount hknown hreads (Entries.settles_ofList parameters)⟩
        · exact ⟨_, .unreadable hsome hcount hknown hsplit hbefore hread⟩
    · exact ⟨_, .ambiguous hsome hcount⟩
  · exact ⟨_, .nothing hsome⟩

/-- Extracting gives a result exactly if it is the one of the case that applies. -/
theorem extract_eq_iff {result : Except Error ParameterBag} :
    extract notebook = result ↔ Extracts notebook result := by
  constructor
  · rintro rfl
    obtain ⟨result, hresult⟩ := exists_extracts notebook
    rw [hresult.eq]
    exact hresult
  · exact Extracts.eq

end Extract

section Alike

variable {notebook other : Notebook}

/-- Cells that can stand for each other are scanned for the same texts. -/
theorem map_text_congr {cells others : List Cell} (halike : List.Forall₂ Alike cells others) :
    (cells.filter fun cell => cell.hasTag defaultsTag).map Cell.text =
      (others.filter fun cell => cell.hasTag defaultsTag).map Cell.text := by
  induction halike with
  | nil => rfl
  | @cons cell other cells others hcell _ ih =>
    rw [List.filter_cons, List.filter_cons, ← hcell.defaults]
    split
    · rename_i htag
      rw [List.map_cons, List.map_cons, ih, hcell.text htag]
    · exact ih

/-- As many of them are tagged for injection. -/
theorem countP_congr {cells others : List Cell} (halike : List.Forall₂ Alike cells others) :
    cells.countP (fun cell => cell.hasTag parametersTag) =
      others.countP fun cell => cell.hasTag parametersTag := by
  induction halike with
  | nil => rfl
  | @cons cell other cells others hcell _ ih =>
    rw [List.countP_cons, List.countP_cons, ih, hcell.parameters]

/-- The declarations of a notebook are found in the texts that are scanned. -/
theorem declarations_eq (notebook : Notebook) :
    declarations notebook = ((defaultCells notebook).map Cell.text).flatMap Declaration.ofCell := by
  rw [declarations, List.flatMap_map]

/-- Notebooks of one kernel and language whose cells can stand for each other have the same
parameters. -/
theorem extract_congr (hkernel : other.kernelSpec = notebook.kernelSpec)
    (hlanguage : other.languageInfo = notebook.languageInfo)
    (hcells : List.Forall₂ Alike other.cells notebook.cells) :
    extract other = extract notebook := by
  have htexts : (defaultCells other).map Cell.text = (defaultCells notebook).map Cell.text :=
    map_text_congr hcells
  have hempty : (defaultCells other).isEmpty = (defaultCells notebook).isEmpty := by
    rw [← List.isEmpty_map, htexts, List.isEmpty_map]
  have hcount : parametersCellCount other = parametersCellCount notebook := countP_congr hcells
  have hname : other.kernelName = notebook.kernelName := by
    rw [Notebook.kernelName, Notebook.kernelName, hkernel]
  have hspoken : other.language = notebook.language := by
    rw [Notebook.language, Notebook.language, hkernel, hlanguage]
  have htranslator : translator other = translator notebook := by
    rw [translator, translator, hname, hspoken]
  have hdeclarations : declarations other = declarations notebook := by
    rw [declarations_eq, declarations_eq, htexts]
  rw [extract, extract, hempty, hcount, htranslator, hdeclarations, hname, hspoken]

end Alike

section Source

open Notebook Json

/-- Strings in a row are the pieces of a source. -/
theorem stringItems_eq {items : List Node} {texts : List (List Char)}
    (hitems : List.Forall₂ (fun item chars => ∃ after, item = .string (.ok chars) after) items texts) :
    stringItems items = some (texts.map String.ofList) := by
  induction hitems with
  | nil => rfl
  | cons hitem _ ih =>
    obtain ⟨after, rfl⟩ := hitem
    rw [stringItems, ih]
    rfl

/-- The pieces of a list of texts are in one piece what the texts are. -/
theorem join_map_ofList (texts : List (List Char)) :
    String.join (texts.map String.ofList) = String.ofList texts.flatten := by
  rw [← String.toList_inj, String.toList_join, String.toList_ofList, List.flatMap_map]
  simp [List.flatMap_def]

/-- A source that spells out a text has pieces that make up the text. -/
theorem SpellsOut.exists_pieces {node : Node} {chars : List Char} (h : SpellsOut node chars) :
    ∃ pieces, sourcePieces node = some pieces ∧ String.join pieces = String.ofList chars := by
  cases h with
  | whole =>
    refine ⟨_, rfl, ?_⟩
    rw [join_map_ofList, Text.linesWithEnds_flatten]
  | pieces hitems => exact ⟨_, stringItems_eq hitems, join_map_ofList _⟩

end Source

/-- Extracting the parameters of a notebook gives exactly what the first case that applies says.
Notebooks of one kernel and language whose cells differ only in what can stand for each other have
the same parameters, and a source in a document, be it one string or strings in a row, makes a cell
whose text is the one it spells out. -/
theorem extract_settles (notebook : Notebook) :
    (∀ result, extract notebook = result ↔ Extracts notebook result) ∧
      (∀ other : Notebook, other.kernelSpec = notebook.kernelSpec →
        other.languageInfo = notebook.languageInfo →
        List.Forall₂ Alike other.cells notebook.cells → extract other = extract notebook) ∧
      ∀ (node : Json.Node) (chars : List Char), SpellsOut node chars →
        ∃ pieces, Notebook.sourcePieces node = some pieces ∧
          ∀ cell : Cell, ({ cell with source := pieces } : Cell).text = String.ofList chars := by
  refine ⟨fun result => extract_eq_iff, ?_, ?_⟩
  · intro other hkernel hlanguage hcells
    exact extract_congr hkernel hlanguage hcells
  · intro node chars hnode
    obtain ⟨pieces, hpieces, hjoin⟩ := hnode.exists_pieces
    exact ⟨pieces, hpieces, fun cell => hjoin⟩

/-- A name that is declared twice has its first place and its last value, also when the text is cut
into other pieces and the cell for injection holds prose that declares something else. -/
theorem extract_settles_cut :
    let defaults (pieces : List String) : Cell := ⟨.code, pieces, none, [defaultsTag]⟩
    let kernel : Option KernelSpec := some ⟨some "python3", none⟩
    let notebook : Notebook :=
      ⟨[⟨.code, ["x = 0"], some 1, [parametersTag]⟩, defaults ["x = 1\ny = 2\nx = 3"]], kernel, none⟩
    let other : Notebook :=
      ⟨[⟨.markdown, ["z = 4"], none, [parametersTag]⟩, defaults ["x = 1\ny", " = 2\nx = 3"]],
        kernel, none⟩
    Extracts notebook (.ok [("x", .int 3), ("y", .int 2)]) ∧
      List.Forall₂ Alike other.cells notebook.cells ∧ extract other = extract notebook ∧
      SpellsOut (.array [] [.string (.ok ['x']) [], .string (.ok ['=', '1']) []] (.ok []))
        ['x', '=', '1'] ∧
      ∃ pieces, Notebook.sourcePieces
          (.array [] [.string (.ok ['x']) [], .string (.ok ['=', '1']) []] (.ok [])) = some pieces ∧
        ∀ cell : Cell, ({ cell with source := pieces } : Cell).text = "x=1" := by
  intro defaults kernel notebook other
  obtain ⟨hresult, hedited, hsource⟩ := extract_settles notebook
  have halike : List.Forall₂ Alike other.cells notebook.cells :=
    .cons ⟨by decide, by decide, fun h => absurd h (by decide)⟩
      (.cons ⟨rfl, rfl, fun _ => by decide⟩ .nil)
  have hspells : SpellsOut (.array [] [.string (.ok ['x']) [], .string (.ok ['=', '1']) []] (.ok []))
      ['x', '=', '1'] := .pieces (.cons ⟨[], rfl⟩ (.cons ⟨[], rfl⟩ .nil))
  have hdeclarations : declarations notebook = [⟨"x", "1"⟩, ⟨"y", "2"⟩, ⟨"x", "3"⟩] := by decide +kernel
  have hextract : extract notebook = .ok [("x", .int 3), ("y", .int 2)] := by
    rw [extract_of_declares ⟨_, List.mem_cons_of_mem _ List.mem_cons_self, by decide⟩ (by decide)
      (by decide +kernel), hdeclarations]
    rfl
  exact ⟨(hresult _).mp hextract, halike, hedited other rfl rfl halike, hspells,
    hsource _ _ hspells⟩

end NotebookLint.Parameter
