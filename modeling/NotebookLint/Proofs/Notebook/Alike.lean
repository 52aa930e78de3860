import NotebookLint.Parameter
import NotebookLint.Proofs.Json.Reflexive
import NotebookLint.Proofs.Notebook.Shape

/-!
# What loading a notebook looks at

Only the fields that a notebook models are looked at when it is loaded. The members of its objects
may stand in any order, and what a document says under other names may be anything, as long as these
names are texts: a name is read before it is known to be that of no field, and half of a surrogate
pair is no text.

How the source of a cell is stored is left open here: a relation says which sources count as alike,
and another one what their pieces then have in common.
-/

namespace NotebookLint.Notebook

open NotebookLint.Json

/-- Whether two trees are alike as cells, with sources that are alike. -/
def CellAlike (source : Tree → Tree → Prop) : Tree → Tree → Prop :=
  RecordAlike [("cell_type", Eq), ("source", source), ("execution_count", Eq),
    ("metadata", RecordAlike [("tags", ListAlike Eq)])]

/-- Whether two trees are alike as the metadata of a notebook. -/
def MetadataAlike : Tree → Tree → Prop :=
  RecordAlike [("kernelspec", OptionAlike (RecordAlike [("name", Eq), ("language", Eq)])),
    ("language_info", OptionAlike (RecordAlike [("name", Eq)]))]

/-- Whether two trees are alike as notebooks, with sources of cells that are alike. -/
def NotebookAlike (source : Tree → Tree → Prop) : Tree → Tree → Prop :=
  RecordAlike [("cells", ListAlike (CellAlike source)), ("metadata", MetadataAlike)]

/-- Whether two cells agree up to their sources, which are in a relation. -/
structure CellAgrees (sources : List String → List String → Prop) (cell other : Cell) : Prop where
  /-- They hold the same. -/
  kind : other.kind = cell.kind
  /-- Their sources are in the relation. -/
  source : sources cell.source other.source
  /-- They have the same execution count. -/
  executionCount : other.executionCount = cell.executionCount
  /-- They have the same tags. -/
  tags : other.tags = cell.tags

/-- Whether two notebooks agree up to the sources of their cells, which are in a relation. -/
structure NotebookAgrees (sources : List String → List String → Prop) (notebook other : Notebook) :
    Prop where
  /-- Their cells agree one by one. -/
  cells : List.Forall₂ (CellAgrees sources) notebook.cells other.cells
  /-- They say the same about the kernel. -/
  kernelSpec : other.kernelSpec = notebook.kernelSpec
  /-- They say the same about the language. -/
  languageInfo : other.languageInfo = notebook.languageInfo

/-- Cells that agree and have the same source are the same. -/
theorem CellAgrees.eq {cell other : Cell} (h : CellAgrees Eq cell other) : cell = other := by
  obtain ⟨hkind, hsource, hcount, htags⟩ := h
  cases cell
  cases other
  simp_all

/-- Notebooks that agree and have the same sources are the same. -/
theorem NotebookAgrees.eq {notebook other : Notebook} (h : NotebookAgrees Eq notebook other) :
    notebook = other := by
  obtain ⟨hcells, hkernel, hlanguage⟩ := h
  have hsame : List.Forall₂ Eq notebook.cells other.cells := hcells.imp fun _ _ => CellAgrees.eq
  rw [List.forall₂_eq_eq_eq] at hsame
  cases notebook
  cases other
  simp_all

section Source

/-- What a source says: its pieces. A string is cut behind its line feeds. -/
inductive Pieces : Tree → List (List Char) → Prop where
  /-- One string. -/
  | whole (text : List Char) : Pieces (.string (units text)) (Text.linesWithEnds text)
  /-- A list of strings. -/
  | list (pieces : List (List Char)) :
      Pieces (.array (pieces.map fun piece => .string (units piece))) pieces

/-- Items that are read as texts say these texts. -/
theorem trees_of_stringItems {items : List Node} {trees : List Tree} {texts : List String}
    (htells : List.Forall₂ Tells items trees) (h : stringItems items = some texts) :
    trees = (texts.map String.toList).map fun piece => .string (units piece) := by
  induction htells generalizing texts with
  | nil =>
    obtain rfl := Option.some.inj h
    rfl
  | cons hitem _ ih =>
    unfold stringItems at h
    split at h
    · rename_i heq
      cases heq
    · rename_i chars _ items heq
      obtain ⟨rfl, rfl⟩ := List.cons.inj heq
      obtain ⟨more, hmore, rfl⟩ := Option.map_eq_some_iff.mp h
      cases hitem with
      | string htext =>
        rw [ih hmore, (htext chars).mp rfl]
        simp
    · cases h

/-- A text that is wanted has no fault. -/
theorem verify_text {room : Nat} {chars : List Char} {after : Spot} :
    (Node.string (.ok chars) after).verify room = .ok () := by
  simp [Node.verify]

/-- Items that say texts are read as these texts, and wanted as a whole. -/
theorem stringItems_of_trees (room : Nat) {items : List Node} {pieces : List (List Char)}
    (htells : List.Forall₂ Tells items (pieces.map fun piece => .string (units piece))) :
    stringItems items = some (pieces.map String.ofList) ∧ verifyItems room items = .ok () := by
  induction pieces generalizing items with
  | nil =>
    cases htells
    exact ⟨rfl, by rw [verifyItems]⟩
  | cons piece pieces ih =>
    cases htells with
    | cons hitem htells =>
      obtain ⟨hitems, hverify⟩ := ih htells
      cases hitem with
      | string htext =>
        obtain rfl := (htext piece).mpr rfl
        refine ⟨by rw [stringItems, hitems]; rfl, ?_⟩
        rw [verifyItems, verify_text]
        exact hverify

/-- Pieces that are read as a source are what the source says. -/
theorem pieces_of_sourcePieces {node : Node} {tree : Tree} {texts : List String}
    (htells : Tells node tree) (h : sourcePieces node = some texts) :
    Pieces tree (texts.map String.toList) := by
  cases htells with
  | string htext =>
    unfold sourcePieces at h
    split at h
    · rename_i heq
      cases heq
    · rename_i chars _ heq
      cases heq
      obtain rfl := Option.some.inj h
      rw [(htext chars).mp rfl]
      simpa [Function.comp_def] using Pieces.whole chars
    · cases h
  | array hitems _ =>
    rw [trees_of_stringItems hitems h]
    exact .list _
  | _ => cases h

/-- What a source says is read as its pieces, and wanted as a whole. -/
theorem sourcePieces_of_pieces {room : Nat} {node : Node} {tree : Tree} {pieces : List (List Char)}
    (htells : Tells node tree) (h : Pieces tree pieces) (hroom : 1 ≤ room) :
    node.verify room = .ok () ∧ sourcePieces node = some (pieces.map String.ofList) := by
  cases h with
  | whole text =>
    cases htells with
    | string htext =>
      obtain rfl := (htext text).mpr rfl
      exact ⟨verify_text, rfl⟩
  | list pieces =>
    cases htells with
    | array hitems _ =>
      obtain _ | room := room
      · omega
      obtain ⟨hstrings, hverify⟩ := stringItems_of_trees room hitems
      exact ⟨by rw [Node.verify, hverify], hstrings⟩

/-- Whether sources that are alike have pieces in a relation, in which nothing is to itself. -/
structure Reads (source : Tree → Tree → Prop) (sources : List String → List String → Prop) : Prop where
  /-- A cell without a source has no pieces. -/
  none : sources [] []
  /-- A source that is alike has pieces, which are in the relation. -/
  some : ∀ one other pieces, source one other → Pieces one pieces →
    ∃ pieces', Pieces other pieces' ∧
      sources (pieces.map String.ofList) (pieces'.map String.ofList)

/-- The source is read exactly if it has pieces and is wanted as a whole. -/
theorem sourceSlot_fill_eq_ok_iff {close : Spot → Spot} {room : Nat} {node : Node}
    {cell filled : Cell} :
    sourceSlot.fill close room node cell = .ok filled ↔
      node.verify room = .ok () ∧ ∃ texts, sourcePieces node = some texts ∧
        filled = { cell with source := texts } := by
  simp only [sourceSlot]
  split
  · rename_i hverify
    simp [hverify]
  · rename_i hverify
    split
    · rename_i hpieces
      simp [hverify, hpieces, eq_comm]
    · rename_i hpieces
      simp [hpieces]

/-- The source reads alike sources. -/
theorem answers_source {source : Tree → Tree → Prop} {sources : List String → List String → Prop}
    (hreads : Reads source sources) {depth : Nat} :
    Answers (depth + 1) (CellAgrees sources) sourceSlot ("source", source) := by
  refine ⟨rfl, ?_⟩
  intro close close' room first second one other cell other' filled hroom hone hother halike hagrees h
  obtain ⟨-, texts, htexts, rfl⟩ := sourceSlot_fill_eq_ok_iff.mp h
  obtain ⟨pieces, hpieces, hsources⟩ :=
    hreads.some one other _ halike (pieces_of_sourcePieces hone htexts)
  obtain ⟨hverify, hread⟩ := sourcePieces_of_pieces hother hpieces (Nat.le_of_add_left_le hroom)
  refine ⟨_, sourceSlot_fill_eq_ok_iff.mpr ⟨hverify, _, hread, rfl⟩, ?_⟩
  refine ⟨hagrees.kind, ?_, hagrees.executionCount, hagrees.tags⟩
  simpa [Function.comp_def] using hsources

end Source

section Records

variable {source : Tree → Tree → Prop} {sources : List String → List String → Prop} {depth : Nat}

/-- A plain field stores what its decoder reads. -/
theorem stores_plain {α β : Type} {name : String} {required : Bool} {decode : Decoder β}
    {store : α → β → α} : (Slot.plain name required decode store).Stores decode store :=
  fun _ _ _ => rfl

/-- The source stores its pieces. -/
theorem exists_stores_sourceSlot :
    ∃ read, sourceSlot.Stores read fun cell texts => { cell with source := texts } := by
  refine ⟨fun room node => (node.verify room).bind fun _ => (sourcePieces node).elim
    (.error (.before (closeObject node.after) (.noVariant "Source"))) .ok, ?_⟩
  intro room node cell
  simp only [sourceSlot]
  cases node.verify room with
  | error fault => rfl
  | ok _ => cases sourcePieces node <;> rfl

/-- The tags of a cell are read alike. -/
theorem respects_cellMetadata :
    Respects (depth + 2) decodeCellMetadata (RecordAlike [("tags", ListAlike Eq)]) Eq := by
  refine respects_record (.cons (answers_plain (respects_list respects_text) ?_) .nil) ?_ rfl
  · rintro _ _ value other - hvalue
    rwa [List.forall₂_eq_eq_eq] at hvalue
  · simp

/-- Cells that are alike are read to cells that agree. -/
theorem respects_cell (hreads : Reads source sources) :
    Respects (depth + 3) decodeCell (CellAlike source) (CellAgrees sources) := by
  obtain ⟨read, hsource⟩ := exists_stores_sourceSlot
  refine respects_record (.cons ?_ (.cons ?_ (.cons ?_ (.cons ?_ .nil)))) ?_ ?_
  · refine answers_plain respects_text ?_
    rintro _ _ _ _ hagrees rfl
    exact ⟨rfl, hagrees.source, hagrees.executionCount, hagrees.tags⟩
  · exact answers_source hreads
  · refine answers_plain ((respects_option respects_int64).mono fun _ _ => optionAlike_of_eq) ?_
    rintro _ _ _ _ hagrees rfl
    exact ⟨hagrees.kind, hagrees.source, rfl, hagrees.tags⟩
  · refine answers_plain respects_cellMetadata ?_
    rintro _ _ _ _ hagrees rfl
    exact ⟨hagrees.kind, hagrees.source, hagrees.executionCount, rfl⟩
  · simp only [List.pairwise_cons, List.forall_mem_cons, List.not_mem_nil, false_imp_iff,
      implies_true, and_true, List.Pairwise.nil]
    refine ⟨⟨?_, ?_, ?_⟩, ⟨?_, ?_⟩, ?_⟩
    · exact commutes_of_stores stores_plain hsource fun _ _ _ => rfl
    · exact commutes_of_stores stores_plain stores_plain fun _ _ _ => rfl
    · exact commutes_of_stores stores_plain stores_plain fun _ _ _ => rfl
    · exact commutes_of_stores hsource stores_plain fun _ _ _ => rfl
    · exact commutes_of_stores hsource stores_plain fun _ _ _ => rfl
    · exact commutes_of_stores stores_plain stores_plain fun _ _ _ => rfl
  · exact ⟨rfl, hreads.none, rfl, rfl⟩

/-- What is said about the kernel is read alike. -/
theorem respects_kernelSpec :
    Respects (depth + 1) decodeKernelSpec (RecordAlike [("name", Eq), ("language", Eq)]) Eq := by
  have htext : Respects depth (decodeOption decodeText) Eq Eq :=
    (respects_option respects_text).mono fun _ _ => optionAlike_of_eq
  refine respects_record (.cons (answers_plain htext ?_) (.cons (answers_plain htext ?_) .nil)) ?_ rfl
  · rintro _ _ _ _ rfl rfl
    rfl
  · rintro _ _ _ _ rfl rfl
    rfl
  · simp only [List.pairwise_cons, List.forall_mem_cons, List.not_mem_nil, false_imp_iff,
      implies_true, and_true, List.Pairwise.nil]
    exact commutes_of_stores stores_plain stores_plain fun _ _ _ => rfl

/-- The name of the language is read alike. -/
theorem respects_languageInfo :
    Respects (depth + 1) decodeLanguageInfo (RecordAlike [("name", Eq)]) Eq := by
  have htext : Respects depth (decodeOption decodeText) Eq Eq :=
    (respects_option respects_text).mono fun _ _ => optionAlike_of_eq
  refine respects_record (.cons (answers_plain htext ?_) .nil) ?_ rfl
  · rintro _ _ _ _ - rfl
    rfl
  · simp

/-- The metadata of a notebook is read alike. -/
theorem respects_metadata : Respects (depth + 2) decodeMetadata MetadataAlike Eq := by
  refine respects_record (.cons (answers_plain (respects_option respects_kernelSpec) ?_)
    (.cons (answers_plain (respects_option respects_languageInfo) ?_) .nil)) ?_ rfl
  · rintro _ _ _ _ rfl rfl
    rfl
  · rintro _ _ _ _ rfl rfl
    rfl
  · simp only [List.pairwise_cons, List.forall_mem_cons, List.not_mem_nil, false_imp_iff,
      implies_true, and_true, List.Pairwise.nil]
    exact commutes_of_stores stores_plain stores_plain fun _ _ _ => rfl

/-- Notebooks that are alike are read to notebooks that agree. -/
theorem respects_notebook (depth : Nat) (hreads : Reads source sources) :
    Respects (depth + 5) decodeNotebook (NotebookAlike source) (NotebookAgrees sources) := by
  refine respects_record (.cons (answers_plain (respects_list (respects_cell hreads)) ?_)
    (.cons (answers_plain respects_metadata ?_) .nil)) ?_ ⟨.nil, rfl, rfl⟩
  · intro _ _ _ _ hagrees hcells
    exact ⟨hcells, hagrees.kernelSpec, hagrees.languageInfo⟩
  · rintro _ _ _ _ hagrees rfl
    exact ⟨hagrees.cells, rfl, rfl⟩
  · simp only [List.pairwise_cons, List.forall_mem_cons, List.not_mem_nil, false_imp_iff,
      implies_true, and_true, List.Pairwise.nil]
    exact commutes_of_stores stores_plain stores_plain fun _ _ _ => rfl

/-- A source that is read is alike to itself, if whatever has pieces is. -/
theorem covers_source (hsource : ∀ tree pieces, Pieces tree pieces → source tree tree) :
    sourceSlot.Covers ("source", source) := by
  refine ⟨rfl, ?_⟩
  intro close room node tree cell filled htells h
  obtain ⟨-, texts, htexts, -⟩ := sourceSlot_fill_eq_ok_iff.mp h
  exact hsource tree _ (pieces_of_sourcePieces htells htexts)

/-- A cell that is read is alike to itself. -/
theorem covers_cell (hsource : ∀ tree pieces, Pieces tree pieces → source tree tree) :
    Covers decodeCell (CellAlike source) := by
  have hsame {α : Type} {decode : Decoder α} : Covers decode Eq := fun _ _ _ _ _ _ => rfl
  refine covers_record (.cons (covers_plain hsame) (.cons (covers_source hsource)
    (.cons (covers_plain hsame) (.cons (covers_plain ?_) .nil)))) (by simp)
  exact covers_record (.cons (covers_plain (covers_list hsame)) .nil) (by decide)

/-- A notebook that is read is alike to itself. -/
theorem covers_notebook (hsource : ∀ tree pieces, Pieces tree pieces → source tree tree) :
    Covers decodeNotebook (NotebookAlike source) := by
  have hsame {α : Type} {decode : Decoder α} : Covers decode Eq := fun _ _ _ _ _ _ => rfl
  have hkernel : Covers decodeKernelSpec (RecordAlike [("name", Eq), ("language", Eq)]) :=
    covers_record (.cons (covers_plain hsame) (.cons (covers_plain hsame) .nil)) (by decide)
  have hlanguage : Covers decodeLanguageInfo (RecordAlike [("name", Eq)]) :=
    covers_record (.cons (covers_plain hsame) .nil) (by decide)
  have hmetadata : Covers decodeMetadata MetadataAlike :=
    covers_record (.cons (covers_plain (covers_option hkernel))
      (.cons (covers_plain (covers_option hlanguage)) .nil)) (by decide)
  exact covers_record (.cons (covers_plain (covers_list (covers_cell hsource)))
    (.cons (covers_plain hmetadata) .nil)) (by simp)

/-- Texts of documents that are alike as notebooks are loaded alike. -/
theorem exists_ofText (hreads : Reads source sources) {first second : String} {one other : Tree}
    {notebook : Notebook} (hone : Document first.toList one) (hother : Document second.toList other)
    (halike : NotebookAlike source one other) (h : ofText first = .ok notebook) :
    ∃ result, ofText second = .ok result ∧ NotebookAgrees sources notebook result := by
  obtain ⟨result, hresult, hagrees⟩ := exists_decode (respects_notebook 0 hreads) (by decide) hone
    hother halike (ofText_eq_ok_iff.mp h)
  exact ⟨result, ofText_eq_ok_iff.mpr hresult, hagrees⟩

end Records

/-- Loading looks at nothing but the modelled members, in whatever order they stand. A document that
is loaded is alike to itself, and every document that is alike is loaded as the same notebook, so
that every check judges it alike and the same parameters are extracted. -/
theorem ofText_alike {first : String} {one : Tree} {notebook : Notebook}
    (hone : Document first.toList one) (h : ofText first = .ok notebook) :
    NotebookAlike Eq one one ∧
      ∀ (second : String) (other : Tree), Document second.toList other → NotebookAlike Eq one other →
        ofText second = .ok notebook ∧
          (∀ (engine : Engine) (path : String) (check : Check),
            check.judgeFile engine path (ofText second) =
              check.judgeFile engine path (ofText first)) ∧
          (ofText second).map Parameter.extract = (ofText first).map Parameter.extract := by
  have hreads : Reads Eq Eq := by
    refine ⟨rfl, ?_⟩
    rintro one _ pieces rfl hpieces
    exact ⟨pieces, hpieces, rfl⟩
  have hsource (tree : Tree) (pieces : List (List Char)) (_ : Pieces tree pieces) : tree = tree :=
    rfl
  refine ⟨alike_self_of_decode (covers_notebook hsource) hone (ofText_eq_ok_iff.mp h), ?_⟩
  intro second other hother halike
  obtain ⟨result, hresult, hagrees⟩ := exists_ofText hreads hone hother halike h
  rw [hresult, h, hagrees.eq]
  exact ⟨rfl, fun _ _ _ => rfl, rfl⟩

/-- Members in another order, and more of them at two depths, are loaded as the same notebook. -/
theorem ofText_alike_reordered :
    ofText "\x7b\"metadata\":\x7b\x7d,\"cells\":[]\x7d" = .ok ⟨[], none, none⟩ ∧
      ofText "\x7b\"cells\":[],\"x\":null,\"metadata\":\x7b\"y\":null\x7d\x7d" = .ok ⟨[], none, none⟩ := by
  have hcells := member_of_denotes "cells" rfl (.emptyArray isSpace_nil)
  have hempty := member_of_denotes "metadata" rfl (.emptyObject isSpace_nil)
  have hy := member_of_denotes "y" rfl .null
  have hmetadata := member_of_denotes "metadata" rfl (.object (.last hy))
  have hx := member_of_denotes "x" rfl .null
  have hone : Document "\x7b\"metadata\":\x7b\x7d,\"cells\":[]\x7d".toList
      (.object [member "metadata" (.object []), member "cells" (.array [])]) :=
    document_of_denotes (.object (.cons hempty (.last hcells)))
  have hother : Document "\x7b\"cells\":[],\"x\":null,\"metadata\":\x7b\"y\":null\x7d\x7d".toList
      (.object [member "cells" (.array []), member "x" .null,
        member "metadata" (.object [member "y" .null])]) :=
    document_of_denotes (.object (.cons hcells (.cons hx (.last hmetadata))))
  have halike : NotebookAlike Eq
      (.object [member "metadata" (.object []), member "cells" (.array [])])
      (.object [member "cells" (.array []), member "x" .null,
        member "metadata" (.object [member "y" .null])]) := by
    have hname (name : String) (value : Tree) :
        ∃ chars, (member name value).1 = units chars := ⟨_, rfl⟩
    have hmetadata : MetadataAlike (.object []) (.object [member "y" .null]) :=
      .object (by simp [hname]) .nil .nil
    have hcells : ListAlike (CellAlike Eq) (.array []) (.array []) := .array .nil
    refine @RecordAlike.object _ _ _ [member "cells" (.array []), member "metadata" (.object [])]
      (by simp [hname]) (.swap _ _ _)
      (.cons (memberAlike_member ?_) (.cons (memberAlike_member ?_) .nil))
    · simp [hcells]
    · simp [hmetadata]
  have hload : ofText "\x7b\"metadata\":\x7b\x7d,\"cells\":[]\x7d" = .ok ⟨[], none, none⟩ := by
    decide +kernel
  exact ⟨hload, ((ofText_alike hone hload).2 _ _ hother halike).1⟩

/-- A member whose name is half of a surrogate pair is not ignored. -/
theorem ofText_alike_surrogate :
    ofText "\x7b\"cells\":[]\x7d" = .ok ⟨[], none, none⟩ ∧
      (∀ notebook, ofText "\x7b\"cells\":[],\"\\ud800\":null\x7d" ≠ .ok notebook) ∧
      Document "\x7b\"cells\":[]\x7d".toList (.object [member "cells" (.array [])]) ∧
      Document "\x7b\"cells\":[],\"\\ud800\":null\x7d".toList
        (.object [member "cells" (.array []), ([0xD800], .null)]) := by
  have hcells := member_of_denotes "cells" rfl (.emptyArray isSpace_nil)
  have hunit : NamesUnit ['d', '8', '0', '0'] 0xD800 :=
    .intro (p := 13) (q := 8) (r := 0) (s := 0) (by decide) (by decide) (by decide) (by decide)
  have hsurrogate : Member Denotes "\"\\ud800\":null".toList ([0xD800], .null) :=
    .intro (.intro isSpace_nil (.intro (.unit hunit .nil)) isSpace_nil)
      (.intro isSpace_nil Denotes.null isSpace_nil)
  refine ⟨by decide +kernel, ?_, document_of_denotes (.object (.last hcells)),
    document_of_denotes (.object (.cons hcells (.last hsurrogate)))⟩
  intro notebook h
  have hrefused : (ofText "\x7b\"cells\":[],\"\\ud800\":null\x7d").isOk = false := by decide +kernel
  rw [h] at hrefused
  cases hrefused

end NotebookLint.Notebook
