import NotebookLint.Check
import NotebookLint.Notebook.File
import NotebookLint.Proofs.Json.Record

/-!
# Which documents are notebooks

A text that is loaded is a document with a list of cells, each of which has its type. A record may
be written as an object or as an array of its fields in order, at both levels: an array whose first
item is an array of cells is loaded like an object with that array as its member `cells`. Every
other text is refused when it is parsed, and then no check passes or fails.
-/

namespace NotebookLint.Notebook

open NotebookLint.Json

/-- Whether a tree holds a cell, of the type that it names. -/
def HoldsCell (tree : Tree) (cell : Cell) : Prop :=
  ∃ name : String, Tree.HasField "cell_type" (.string (units name.toList)) tree ∧
    cell.kind = CellKind.ofName name

/-- Whether a tree holds a notebook, with the cells that it lists. -/
def Holds (document : Tree) (notebook : Notebook) : Prop :=
  ∃ cells, Tree.HasField "cells" (.array cells) document ∧
    List.Forall₂ HoldsCell cells notebook.cells

/-- A plain field leaves alone what a view sees if storing its value does. -/
theorem keeps_plain {α β γ : Type} {view : α → γ} {name : String} {required : Bool}
    {decode : Decoder β} {store : α → β → α}
    (hstore : ∀ record value, view (store record value) = view record) :
    (Slot.plain name required decode store).Keeps view := by
  intro close room node record filled h
  cases hvalue : decode room node with
  | error fault =>
    simp only [Slot.plain, hvalue] at h
    cases h
  | ok value =>
    simp only [Slot.plain, hvalue] at h
    obtain rfl := Except.ok.inj h
    exact hstore record value

/-- The source leaves the type of a cell alone. -/
theorem keeps_sourceSlot : sourceSlot.Keeps Cell.kind := by
  intro close room node cell filled h
  simp only [sourceSlot] at h
  split at h
  · cases h
  · split at h
    · obtain rfl := Except.ok.inj h
      rfl
    · cases h

/-- A cell that is read has its type from its field. -/
theorem holdsCell_of_decodeCell {room : Nat} {node : Node} {cell : Cell} {tree : Tree}
    (h : decodeCell room node = .ok cell) (hshows : Shows node tree) : HoldsCell tree cell := by
  obtain ⟨inside, field, name, hfield, hname, hkind⟩ :=
    exists_field_of_decodeRecord Cell.kind CellKind.ofName (fun _ _ => rfl) (by
      intro slot hslot
      simp only [List.mem_cons, List.not_mem_nil, or_false] at hslot
      rcases hslot with rfl | rfl | rfl
      · exact ⟨by decide, keeps_sourceSlot⟩
      · exact ⟨by decide, keeps_plain fun _ _ => rfl⟩
      · exact ⟨by decide, keeps_plain fun _ _ => rfl⟩) h
  obtain ⟨after, rfl⟩ := exists_chars_of_decodeText hname
  obtain ⟨shown, hshown, hshowsField⟩ := hshows.exists_field hfield
  cases hshowsField with
  | string htext =>
    obtain rfl := htext _ rfl
    exact ⟨name, hshown, hkind⟩

/-- Cells that are read one by one have their types from what they show. -/
theorem forall₂_holdsCell {room : Nat} {nodes : List Node} {cells : List Cell} {trees : List Tree}
    (hcells : List.Forall₂ (fun node cell => decodeCell room node = .ok cell) nodes cells)
    (hshows : List.Forall₂ Shows nodes trees) : List.Forall₂ HoldsCell trees cells := by
  induction hcells generalizing trees with
  | nil =>
    cases hshows
    exact .nil
  | cons hcell _ ih =>
    cases hshows with
    | cons hfirst hmore => exact .cons (holdsCell_of_decodeCell hcell hfirst) (ih hmore)

/-- A notebook that is read has its cells from its field. -/
theorem holds_of_decodeNotebook {room : Nat} {node : Node} {notebook : Notebook} {tree : Tree}
    (h : decodeNotebook room node = .ok notebook) (hshows : Shows node tree) :
    Holds tree notebook := by
  obtain ⟨inside, field, cells, hfield, hcells, hview⟩ :=
    exists_field_of_decodeRecord Notebook.cells id (fun _ _ => rfl) (by
      intro slot hslot
      obtain rfl := List.mem_singleton.mp hslot
      exact ⟨by decide, keeps_plain fun _ _ => rfl⟩) h
  obtain ⟨deeper, start, items, ending, rfl, hitems⟩ := exists_items_of_decodeList hcells
  obtain ⟨shown, hshown, hshowsField⟩ := hshows.exists_field hfield
  cases hshowsField with
  | @array _ _ trees _ hshowsItems =>
    refine ⟨trees, hshown, ?_⟩
    rw [hview]
    exact forall₂_holdsCell hitems hshowsItems

/-- A text is loaded if it is decoded. -/
theorem ofText_eq_ok_iff {text : String} {notebook : Notebook} :
    ofText text = .ok notebook ↔ decode decodeNotebook text.toList = .ok notebook := by
  rw [ofText, ofJson]
  cases decode decodeNotebook text.toList <;> simp [Except.mapError]

/-- A text that is loaded is a document that holds the notebook. -/
theorem exists_document_of_ofText {text : String} {notebook : Notebook}
    (h : ofText text = .ok notebook) :
    ∃ document, Document text.toList document ∧ Holds document notebook := by
  obtain ⟨hnotebook, document, hdocument, hshows⟩ :=
    exists_document_of_decode (ofText_eq_ok_iff.mp h)
  exact ⟨document, hdocument, holds_of_decodeNotebook hnotebook hshows⟩

/-- A text that is not loaded is refused when it is parsed. -/
theorem exists_reason_of_ofText {text : String} {error : CheckError}
    (h : ofText text = .error error) : ∃ reason, error = .parse reason := by
  rw [ofText] at h
  cases hjson : ofJson text with
  | error fault =>
    rw [hjson] at h
    exact ⟨fault.message, (Except.error.inj h).symm⟩
  | ok read =>
    rw [hjson] at h
    cases h

/-- Only documents that hold a notebook are loaded. Every text that is not loaded is refused when it
is parsed, and then each check on a file with that text is an error of this kind. -/
theorem ofText_holds (text : String) :
    (∀ notebook, ofText text = .ok notebook →
      ∃ document, Document text.toList document ∧ Holds document notebook) ∧
    ((∀ notebook, ofText text ≠ .ok notebook) →
      (∃ reason, ofText text = .error (.parse reason)) ∧
      ∀ (tree : FileTree) (cwd path : String), tree.readText cwd path = .ok text →
        ∀ (check : Check) (engine : Engine),
          let verdict := (check.judgeFile engine path (load tree cwd path)).verdict
          verdict.status = .error ∧ verdict.kind = some .parse) := by
  refine ⟨fun notebook => exists_document_of_ofText, fun hnone => ?_⟩
  obtain ⟨reason, hreason⟩ : ∃ reason, ofText text = .error (.parse reason) := by
    cases hresult : ofText text with
    | ok notebook => exact absurd hresult (hnone notebook)
    | error error =>
      obtain ⟨reason, rfl⟩ := exists_reason_of_ofText hresult
      exact ⟨reason, rfl⟩
  refine ⟨⟨reason, hreason⟩, ?_⟩
  intro tree cwd path hread check engine verdict
  have hload : load tree cwd path = .error (.parse reason) := by
    rw [load, hread]
    exact hreason
  have hverdict : verdict = (CheckError.parse reason).verdict := by
    change (check.judgeFile engine path (load tree cwd path)).verdict = _
    rw [hload]
    rfl
  rw [hverdict]
  exact ⟨rfl, rfl⟩

/-- A document that is an object has a brace. -/
theorem brace_mem_of_document {text : List Char} {members : List (List Nat × Tree)}
    (h : Document text (.object members)) : '{' ∈ text := by
  obtain ⟨-, hbody, -⟩ := h
  cases hbody <;> simp

/-- An array of an empty array is loaded as a notebook without cells, which passes a check, though
no document of that text is an object. -/
theorem ofText_holds_array :
    ofText "[[]]" = .ok ⟨[], none, none⟩ ∧
      (∀ engine path,
        ((Check.cellCount 1).judgeFile engine path (ofText "[[]]")).verdict = .pass) ∧
      ∀ members, ¬Document "[[]]".toList (.object members) := by
  have hload : ofText "[[]]" = .ok ⟨[], none, none⟩ := by decide +kernel
  refine ⟨hload, fun engine path => by rw [hload]; rfl, ?_⟩
  intro members hdocument
  have hnone : '{' ∉ "[[]]".toList := by decide
  exact hnone (brace_mem_of_document hdocument)

end NotebookLint.Notebook
