import NotebookLint.Proofs.Json.Alike

/-!
# What a field is worth

A record that is read from a tree has in each of its fields what the tree has there: as the member
with the name of the field, or as the item at its place. No other field changes it, whichever is
read first.
-/

namespace NotebookLint.Json

/-- Whether a tree has a field: as a member with this name, or as the item at this place. -/
inductive Tree.FieldAt (place : Nat) (name : String) (value : Tree) : Tree → Prop where
  /-- A member of an object. -/
  | member {members : List (List Nat × Tree)} (hmember : Json.member name value ∈ members) :
      FieldAt place name value (.object members)
  /-- An item of an array. -/
  | item {items : List Tree} (hitem : items[place]? = some value) :
      FieldAt place name value (.array items)

section Records

variable {α γ : Type} {slots before after : List (Slot α)} {slot : Slot α} {view : α → γ} {room : Nat}
  {record filled : α}

/-- Fields that leave alone what a view sees do so one after another. -/
theorem Fills.view_eq {given : List (Slot α × Node)} (hkeeps : ∀ field ∈ given, field.1.Keeps view)
    (h : Fills room given record filled) : view filled = view record := by
  induction given generalizing record with
  | nil => rw [show record = filled from h]
  | cons field given ih =>
    obtain ⟨next, hnext, hmore⟩ := h
    rw [ih (fun field hfield => hkeeps field (List.mem_cons_of_mem _ hfield)) hmore]
    exact hkeeps field List.mem_cons_self _ _ _ _ _ hnext

/-- What a view sees of a record that members make is what a field left behind, if the other fields
leave it alone. -/
theorem Makes.exists_fill {members : List (Key × Node)} {trees : List (List Nat × Tree)} {value : Tree}
    {empty : α} (hslot : slotNamed slots slot.name.toList = some slot)
    (hothers : ∀ other ∈ slots, other.name ≠ slot.name → other.Keeps view)
    (htells : List.Forall₂ TellsMember members trees) (hvalue : member slot.name value ∈ trees)
    (h : Makes slots room members empty record) :
    ∃ node start filled, Tells node value ∧ slot.fill closeObject room node start = .ok filled ∧
      view record = view filled := by
  have hnamed : member slot.name value ∈ trees.filter (IsNamed (slots.map Slot.name)) := by
    refine List.mem_filter.mpr ⟨hvalue, List.any_eq_true.mpr ⟨slot.name, ?_, by simp [member]⟩⟩
    exact List.mem_map_of_mem (List.mem_of_find?_eq_some hslot)
  obtain ⟨⟨given', node⟩, hgiven, hfound, hname, hnode⟩ :=
    exists_of_forall₂_right (forall₂_gives htells) hnamed
  obtain rfl : given' = slot := by
    rw [← units_injective hname, hslot] at hfound
    exact (Option.some.inj hfound).symm
  obtain ⟨earlier, later, hsplit⟩ := List.append_of_mem hgiven
  have honce := h.once
  have hfills := h.fills
  rw [hsplit, givenNames, List.map_append, List.map_cons, List.nodup_append] at honce
  rw [hsplit, fills_append] at hfills
  obtain ⟨start, -, filled, hfill, hmore⟩ := hfills
  refine ⟨node, start, filled, hnode, hfill, hmore.view_eq fun field hfield => ?_⟩
  have hmem : field ∈ given slots members := by
    rw [hsplit]
    exact List.mem_append_right _ (List.mem_cons_of_mem _ hfield)
  refine hothers field.1 (mem_of_mem_given hmem) fun hsame => ?_
  exact (List.nodup_cons.mp honce.2.1).1 (List.mem_map.mpr ⟨field, hfield, hsame⟩)

/-- What a view sees of a record that is read from items is what the field at a place left behind,
if the fields behind it leave it alone. -/
theorem exists_fill_of_fillItems {shape : String} {ending : Ending} {items : List Node} {node : Node}
    {index : Nat} {text : Spot} (hafter : ∀ other ∈ after, other.Keeps view)
    (hitem : items[before.length]? = some node)
    (h : fillItems shape room ending (before ++ slot :: after) items index text record = .ok filled) :
    ∃ start next, slot.fill closeArray room node start = .ok next ∧ view filled = view next := by
  induction before generalizing items index text record with
  | nil =>
    cases items with
    | nil => cases hitem
    | cons item items =>
      obtain rfl := Option.some.inj hitem
      rw [List.nil_append, fillItems] at h
      split at h
      · cases h
      · rename_i next hnext
        exact ⟨record, next, hnext, view_fillItems hafter h⟩
  | cons first before ih =>
    cases items with
    | nil => cases hitem
    | cons item items =>
      rw [List.cons_append, fillItems] at h
      split at h
      · cases h
      · exact ih hitem h

/-- What a view sees of a record is what one of its fields left behind, if the other fields leave it
alone and the tree has the field. -/
theorem exists_fill_of_decodeRecord {shape : String} {empty : α} {node : Node} {tree value : Tree}
    (hname : ∀ other ∈ before ++ after, other.name ≠ slot.name ∧ other.Keeps view)
    (htells : Tells node tree) (hvalue : Tree.FieldAt before.length slot.name value tree)
    (h : decodeRecord shape (before ++ slot :: after) empty room node = .ok record) :
    ∃ close inside field start filled, Tells field value ∧
      slot.fill close inside field start = .ok filled ∧ view record = view filled := by
  cases room with
  | zero => cases htells <;> cases h
  | succ room =>
    cases hvalue with
    | member hmember =>
      cases htells with
      | object htells =>
        have hslot : slotNamed (before ++ slot :: after) slot.name.toList = some slot := by
          rw [slotNamed, List.find?_append, List.find?_eq_none.mpr]
          · simp
          · intro other hother
            simpa using (hname other (List.mem_append_left _ hother)).1
        have hothers (other : Slot α) (hother : other ∈ before ++ slot :: after)
            (hne : other.name ≠ slot.name) : other.Keeps view := by
          refine (hname other ?_).2
          rw [List.mem_append, List.mem_cons] at hother
          rcases hother with hother | rfl | hother
          · exact List.mem_append_left _ hother
          · exact absurd rfl hne
          · exact List.mem_append_right _ hother
        obtain ⟨field, start, filled, hfield, hfill, hview⟩ :=
          (decodeRecord_object_eq_ok_iff.mp h).exists_fill hslot hothers htells hmember
        exact ⟨_, _, field, start, filled, hfield, hfill, hview⟩
    | item hitem =>
      cases htells with
      | array htells _ =>
        rename_i items trees
        obtain ⟨hplace, rfl⟩ := List.getElem?_eq_some_iff.mp hitem
        have hlength : before.length < items.length := by rwa [htells.length_eq]
        have hshown := htells.get hlength hplace
        have hfield : items[before.length]? = some (items.get ⟨_, hlength⟩) := by simp
        rw [decodeRecord] at h
        obtain ⟨start, filled, hfill, hview⟩ := exists_fill_of_fillItems
          (fun other hother => (hname other (List.mem_append_right _ hother)).2) hfield h
        exact ⟨_, _, _, start, filled, hshown, hfill, hview⟩

end Records

end NotebookLint.Json
