import Mathlib.Data.List.Nodup
import NotebookLint.Proofs.Json.Alike

/-!
# What is read is alike to itself

Being alike asks of two trees that they have the shape that a decoder expects, so not every tree is
alike to itself. Every tree that is read is: a decoder refuses what lacks the shape, and in an array
of fields it refuses what stands behind the last field.
-/

namespace NotebookLint.Json

/-- Whether every tree that a decoder reads is alike to itself. -/
def Covers {α : Type} (decode : Decoder α) (alike : Tree → Tree → Prop) : Prop :=
  ∀ room node tree value, Tells node tree → decode room node = .ok value → alike tree tree

section Decoders

variable {α : Type} {decode : Decoder α} {alike : Tree → Tree → Prop}

/-- Optional values that are read are alike to themselves. -/
theorem covers_option (hdecode : Covers decode alike) :
    Covers (decodeOption decode) (OptionAlike alike) := by
  intro room node tree value htells h
  have hvalue (hnode : decodeOption decode room node = (decode room node).map some) :
      alike tree tree := by
    rw [hnode] at h
    cases hread : decode room node with
    | error fault =>
      rw [hread] at h
      cases h
    | ok read => exact hdecode _ _ _ _ htells hread
  cases htells with
  | null => exact .null
  | _ => exact .value nofun nofun (hvalue rfl)

/-- Lists that are read are alike to themselves. -/
theorem covers_list (hdecode : Covers decode alike) :
    Covers (decodeList decode) (ListAlike alike) := by
  intro room node tree values htells h
  obtain ⟨inside, start, items, ending, rfl, hitems⟩ := exists_items_of_decodeList h
  cases htells with
  | array htells _ =>
    refine .array (List.forall₂_same.mpr fun tree htree => ?_)
    obtain ⟨item, hitem, hshown⟩ := exists_of_forall₂_right htells htree
    obtain ⟨value, -, hvalue⟩ := exists_of_forall₂ hitems hitem
    exact hdecode _ _ _ _ hshown hvalue

end Decoders

section Records

variable {α : Type} {slots : List (Slot α)} {fields : List Field} {room : Nat} {record filled : α}

/-- Whether a field of a record has the name of a field, and every value that it reads is alike to
itself. -/
def Slot.Covers (slot : Slot α) (field : Field) : Prop :=
  slot.name = field.1 ∧ ∀ close room node tree record filled, Tells node tree →
    slot.fill close room node record = .ok filled → field.2 tree tree

/-- A plain field reads values that are alike to themselves if its decoder does. -/
theorem covers_plain {β : Type} {name : String} {required : Bool} {decode : Decoder β}
    {store : α → β → α} {alike : Tree → Tree → Prop} (hdecode : Json.Covers decode alike) :
    (Slot.plain name required decode store).Covers (name, alike) := by
  refine ⟨rfl, ?_⟩
  intro close room node tree record filled htells h
  simp only [Slot.plain] at h
  cases hvalue : decode room node with
  | error fault =>
    rw [hvalue] at h
    cases h
  | ok value => exact hdecode _ _ _ _ htells hvalue

/-- Items that are read as the fields of a record are alike to themselves, and there are none behind
the last field. -/
theorem itemsAlike_self (hslots : List.Forall₂ Slot.Covers slots fields) {shape : String}
    {ending : Ending} {items : List Node} {trees : List Tree} {index : Nat} {before : Spot}
    (htells : List.Forall₂ Tells items trees) (hend : EndsAfter before items)
    (h : fillItems shape room ending slots items index before record = .ok filled) :
    ItemsAlike fields trees trees := by
  induction hslots generalizing items trees index before record with
  | nil =>
    cases htells with
    | nil => exact .nil
    | cons _ _ =>
      rw [fillItems] at h
      split at h
      · cases h
      · rename_i hsurplus
        exact absurd hsurplus hend.1
  | cons hslot _ ih =>
    cases htells with
    | nil => exact .nil
    | cons hitem htells =>
      rw [fillItems] at h
      split at h
      · cases h
      · rename_i hfill
        exact .cons (hslot.2 _ _ _ _ _ _ hitem hfill) (ih htells hend.2 h)

/-- Members that make a record are alike to themselves. -/
theorem Makes.recordAlike_self (hslots : List.Forall₂ Slot.Covers slots fields)
    (hnames : (fields.map Prod.fst).Nodup) {members : List (Key × Node)}
    {trees : List (List Nat × Tree)} {empty : α} (htells : List.Forall₂ TellsMember members trees)
    (h : Makes slots room members empty record) :
    RecordAlike fields (.object trees) (.object trees) := by
  have hsame := map_name_eq (hslots.imp fun _ _ hslot => hslot.1)
  refine .object (fun member hmember => .inr (List.mem_map_of_mem hmember)) (.refl _)
    (List.forall₂_same.mpr fun tree htree => ⟨rfl, fun field hfield hfieldName => ?_⟩)
  have hgives : List.Forall₂ (Gives slots) (given slots members) _ := forall₂_gives htells
  rw [hsame] at hgives
  obtain ⟨⟨slot, node⟩, hgiven, hslot, hname, hnode⟩ := exists_of_forall₂_right hgives htree
  obtain ⟨field', hfield', hname', hcovers⟩ :=
    exists_of_forall₂ hslots (List.mem_of_find?_eq_some hslot)
  obtain rfl : field' = field := by
    refine List.inj_on_of_nodup_map hnames hfield' hfield ?_
    rw [← hname']
    exact String.toList_inj.mp (units_injective (hname.symm.trans hfieldName))
  obtain ⟨earlier, later, hsplit⟩ := List.append_of_mem hgiven
  obtain ⟨start, -, next, hfill, -⟩ := fills_append.mp (hsplit ▸ h.fills)
  exact hcovers _ _ _ _ _ _ hnode hfill

/-- Records that are read are alike to themselves. -/
theorem covers_record {shape : String} {empty : α} (hslots : List.Forall₂ Slot.Covers slots fields)
    (hnames : (fields.map Prod.fst).Nodup) :
    Json.Covers (decodeRecord shape slots empty) (RecordAlike fields) := by
  intro room node tree value htells h
  cases room with
  | zero => cases htells <;> cases h
  | succ room =>
    cases htells with
    | array htells hend =>
      rw [decodeRecord] at h
      exact .array (itemsAlike_self hslots htells hend h)
    | object htells =>
      exact Makes.recordAlike_self hslots hnames htells (decodeRecord_object_eq_ok_iff.mp h)
    | _ => cases h

/-- A document that is decoded is alike to itself. -/
theorem alike_self_of_decode {decoder : Decoder α} {alike : Tree → Tree → Prop}
    (hdecoder : Json.Covers decoder alike) {text : List Char} {tree : Tree} {value : α}
    (hdocument : Document text tree) (h : decode decoder text = .ok value) : alike tree tree := by
  obtain ⟨_, -, hfinds⟩ := exists_finds_of_document hdocument
  exact hdecoder _ _ _ _ hfinds.tells (decode_eq_ok_iff.mp h).1

end Records

end NotebookLint.Json
