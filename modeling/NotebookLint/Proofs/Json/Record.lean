import NotebookLint.Json.Record
import NotebookLint.Proofs.Json.Scan

/-!
# What decoders find

A record that is read from an object has its required field from a member of that name, and a record
that is read from an array has its first field from the first item. Whatever else a decoder looks
at, it refuses a value that is not complete, so a text that is decoded is a document.
-/

namespace NotebookLint.Json

/-- Whether a node has a field: as a member of this name, or as the first item. -/
inductive HasField (name : String) (field : Node) : Node → Prop where
  /-- A member of an object. -/
  | member {start : Spot} {members : List (Key × Node)} {ending : Ending} {key : Key}
      (hmember : (key, field) ∈ members) (hkey : key.text = .ok name.toList) :
      HasField name field (.object start members ending)
  /-- The first item of an array. -/
  | item {start : Spot} {items : List Node} {ending : Ending} :
      HasField name field (.array start (field :: items) ending)

/-- Whether a tree has a field: as a member of this name, or as the first item. -/
inductive Tree.HasField (name : String) (field : Tree) : Tree → Prop where
  /-- A member of an object. -/
  | member {members : List (List Nat × Tree)} (hmember : (units name.toList, field) ∈ members) :
      HasField name field (.object members)
  /-- The first item of an array. -/
  | item {items : List Tree} : HasField name field (.array (field :: items))

/-- Members that are shown are members of the tree. -/
theorem ShowsMembers.exists_of_mem {members : List (Key × Node)} {trees : List (List Nat × Tree)}
    (h : ShowsMembers members trees) {key : Key} {value : Node} (hmem : (key, value) ∈ members)
    {chars : List Char} (hkey : key.text = .ok chars) :
    ∃ tree, (units chars, tree) ∈ trees ∧ Shows value tree := by
  induction members generalizing trees with
  | nil => cases hmem
  | cons first members ih =>
    cases h with
    | cons hnamed hvalue hmembers =>
      rcases List.mem_cons.mp hmem with heq | hmem
      · obtain ⟨rfl, rfl⟩ := Prod.mk.inj heq
        obtain rfl := hnamed chars hkey
        exact ⟨_, List.mem_cons_self, hvalue⟩
      · obtain ⟨tree, htree, hshows⟩ := ih hmembers hmem
        exact ⟨tree, List.mem_cons_of_mem _ htree, hshows⟩

/-- A field of a node is a field of the tree that it shows. -/
theorem Shows.exists_field {node field : Node} {tree : Tree} {name : String} (h : Shows node tree)
    (hfield : HasField name field node) :
    ∃ shown, Tree.HasField name shown tree ∧ Shows field shown := by
  cases hfield with
  | member hmember hkey =>
    cases h with
    | object hmembers =>
      obtain ⟨shown, hshown, hshows⟩ := hmembers.exists_of_mem hmember hkey
      exact ⟨shown, .member hshown, hshows⟩
  | item =>
    cases h with
    | array hitems =>
      cases hitems with
      | cons hfirst _ => exact ⟨_, .item, hfirst⟩

section Fill

variable {α : Type} {slots : List (Slot α)} {shape : String} {room : Nat} {record filled : α}

/-- Whether a field leaves alone what a view sees of a record. -/
def Slot.Keeps {γ : Type} (view : α → γ) (slot : Slot α) : Prop :=
  ∀ close room node record filled,
    slot.fill close room node record = .ok filled → view filled = view record

/-- Fields that leave alone what a view sees do so when they are filled in order. -/
theorem view_fillItems {γ : Type} {view : α → γ} (hkeeps : ∀ slot ∈ slots, slot.Keeps view)
    {ending : Ending} {items : List Node} {index : Nat} {before : Spot}
    (h : fillItems shape room ending slots items index before record = .ok filled) :
    view filled = view record := by
  induction slots generalizing items index before record with
  | nil =>
    rw [fillItems] at h
    split at h
    · cases h
    · rw [Except.ok.inj h]
  | cons slot slots ih =>
    have hrest := fun slot hslot => hkeeps slot (List.mem_cons_of_mem _ hslot)
    cases items with
    | nil =>
      unfold fillItems at h
      split at h
      · cases h
      · split at h
        · cases h
        · exact ih hrest h
    | cons item items =>
      rw [fillItems] at h
      split at h
      · cases h
      · rename_i hfill
        rw [ih hrest h]
        exact hkeeps slot List.mem_cons_self _ _ _ _ _ hfill

/-- What follows the last field of an array is its end. -/
theorem ending_of_surplus {first : Bool} {text : Spot} {items : List Node} {ending : Ending}
    (hsurplus : surplus text = .ok ()) (h : ScannedItems first text items ending) :
    ∃ after, ending = .ok after := by
  obtain ⟨after, hnext⟩ : ∃ after, nextItem first text = .ok (false, after) := by
    unfold surplus at hsurplus
    split at hsurplus
    · cases hsurplus
    · rename_i after hskip
      refine ⟨after, ?_⟩
      unfold nextItem
      rw [hskip]
      rfl
    · split at hsurplus <;> cases hsurplus
    · cases hsurplus
  cases h with
  | close => exact ⟨_, rfl⟩
  | stop hstop => rw [hnext] at hstop; cases hstop
  | broken hopened => rw [hnext] at hopened; cases hopened
  | item hopened => rw [hnext] at hopened; cases hopened

/-- An array that is read in order is complete. -/
theorem ending_of_fillItems {first : Bool} {before : Spot} {items : List Node} {ending : Ending}
    {index : Nat} (hscanned : ScannedItems first before items ending)
    (h : fillItems shape room ending slots items index before record = .ok filled) :
    ∃ after, ending = .ok after := by
  induction slots generalizing first items index before record with
  | nil =>
    rw [fillItems] at h
    split at h
    · cases h
    · rename_i hsurplus
      exact ending_of_surplus hsurplus hscanned
  | cons slot slots ih =>
    cases items with
    | nil =>
      unfold fillItems at h
      split at h
      · cases h
      · exact ⟨_, rfl⟩
    | cons item items =>
      rw [fillItems] at h
      split at h
      · cases h
      · cases hscanned with
        | broken hnext hitem hending =>
          -- Behind an item that is not complete there is neither another field nor the end.
          rw [Node.after, hending] at h
          cases slots <;> cases h
        | item hnext hitem hending hitems =>
          rw [Node.after, hending] at h
          exact ih hitems h

/-- What holds of the fields that are read and the record is kept by reading members, if it is kept
by reading one. -/
theorem fillMembers_induction (invariant : List String → α → Prop) {members : List (Key × Node)}
    {seen seenAfter : List String}
    (hstep : ∀ key value slot seen record filled, (key, value) ∈ members →
      key.text = .ok slot.name.toList → slot ∈ slots →
      slot.fill closeObject room value record = .ok filled → invariant seen record →
      invariant (slot.name :: seen) filled)
    (hstart : invariant seen record)
    (h : fillMembers slots room members seen record = .ok (seenAfter, filled)) :
    invariant seenAfter filled := by
  induction members generalizing seen record with
  | nil =>
    obtain ⟨rfl, rfl⟩ := Prod.mk.inj (Except.ok.inj h)
    exact hstart
  | cons first members ih =>
    obtain ⟨key, value⟩ := first
    have hmore := fun key value slot seen record filled hmem =>
      hstep key value slot seen record filled (List.mem_cons_of_mem _ hmem)
    rw [fillMembers] at h
    split at h
    · cases h
    · rename_i chars hkey
      split at h
      · split at h
        · cases h
        · exact ih hmore hstart h
      · rename_i slot hslot
        split at h
        · cases h
        · split at h
          · cases h
          · rename_i filled hfill
            have hname : slot.name = String.ofList chars := by
              simpa using List.find?_some hslot
            have hnamed : key.text = .ok slot.name.toList := by
              rw [hkey, hname, String.toList_ofList]
            refine ih hmore ?_ h
            exact hstep key value slot _ _ _ List.mem_cons_self hnamed
              (List.mem_of_find?_eq_some hslot) hfill hstart

/-- A record that is read from a node tells that the node is complete. -/
theorem ending_of_decodeRecord {empty : α} {text : Spot} {node : Node} (hscanned : Scanned text node)
    (h : decodeRecord shape slots empty room node = .ok record) :
    ∃ after, node.ending = .ok after := by
  cases room with
  | zero => cases hscanned <;> cases h
  | succ room =>
    cases hscanned with
    | array _ hitems => exact ending_of_fillItems hitems h
    | object _ hmembers =>
      rw [decodeRecord] at h
      split at h
      · cases h
      · split at h
        · cases h
        · exact ⟨_, rfl⟩
    | _ => cases h

section Required

variable {β γ : Type} {name : String} {decode : Decoder β} {store : α → β → α}
  {others : List (Slot α)} {view : α → γ} {image : β → γ}

/-- What a view sees of a record that is read from members is what it sees of the required field. -/
theorem exists_member_of_fillMembers (hstore : ∀ record value, view (store record value) = image value)
    (hothers : ∀ slot ∈ others, slot.name ≠ name ∧ slot.Keeps view) {members : List (Key × Node)}
    {seen : List String} (hseen : name ∈ seen)
    (h : fillMembers (.plain name true decode store :: others) room members [] record =
      .ok (seen, filled)) :
    ∃ key field value, (key, field) ∈ members ∧ key.text = .ok name.toList ∧
      decode room field = .ok value ∧ view filled = image value := by
  let invariant (seen : List String) (filled : α) : Prop := name ∈ seen → ∃ key field value,
    (key, field) ∈ members ∧ key.text = .ok name.toList ∧ decode room field = .ok value ∧
      view filled = image value
  refine fillMembers_induction invariant ?_ (fun hmem => absurd hmem List.not_mem_nil) h hseen
  intro key field slot seen record filled hmem hkey hslot hfill hbefore hseen
  rcases List.mem_cons.mp hslot with rfl | hslot
  · cases hvalue : decode room field with
    | error fault =>
      simp only [Slot.plain, hvalue] at hfill
      cases hfill
    | ok value =>
      simp only [Slot.plain, hvalue] at hfill
      obtain rfl := Except.ok.inj hfill
      exact ⟨key, field, value, hmem, hkey, hvalue, hstore record value⟩
  · obtain ⟨hname, hkeeps⟩ := hothers slot hslot
    rw [hkeeps _ _ _ _ _ hfill]
    refine hbefore ?_
    rcases List.mem_cons.mp hseen with heq | hseen
    · exact absurd heq.symm hname
    · exact hseen

/-- A record has its required field from a field of the node that it is read from. -/
theorem exists_field_of_decodeRecord {empty : α} (view : α → γ) (image : β → γ)
    (hstore : ∀ record value, view (store record value) = image value)
    (hothers : ∀ slot ∈ others, slot.name ≠ name ∧ slot.Keeps view) {node : Node}
    (h : decodeRecord shape (.plain name true decode store :: others) empty room node = .ok record) :
    ∃ inside field value, HasField name field node ∧ decode inside field = .ok value ∧
      view record = image value := by
  cases room with
  | zero => cases node <;> cases h
  | succ room =>
    cases node with
    | array start items ending =>
      cases items with
      | nil => cases ending <;> cases h
      | cons field items =>
        rw [decodeRecord, fillItems] at h
        cases hvalue : decode room field with
        | error fault =>
          simp only [Slot.plain, hvalue] at h
          cases h
        | ok value =>
          simp only [Slot.plain, hvalue] at h
          refine ⟨room, field, value, .item, hvalue, ?_⟩
          rw [view_fillItems (fun slot hslot => (hothers slot hslot).2) h]
          exact hstore empty value
    | object start members ending =>
      rw [decodeRecord] at h
      split at h
      · cases h
      · rename_i seen filled hfilled
        split at h
        · cases h
        · split at h
          · cases h
          · rename_i hnone
            obtain rfl := Except.ok.inj h
            have hseen : name ∈ seen := by
              simpa [Slot.plain] using List.find?_eq_none.mp hnone _ List.mem_cons_self
            obtain ⟨key, field, value, hmem, hkey, hvalue, hview⟩ :=
              exists_member_of_fillMembers hstore hothers hseen hfilled
            exact ⟨room, field, value, .member hmem hkey, hvalue, hview⟩
    | _ => cases h

end Required

end Fill

/-- Items are read one by one. -/
theorem forall₂_of_decodeItems {α : Type} {decode : Decoder α} {room : Nat} {items : List Node}
    {values : List α} (h : decodeItems decode room items = .ok values) :
    List.Forall₂ (fun item value => decode room item = .ok value) items values := by
  induction items generalizing values with
  | nil =>
    obtain rfl := Except.ok.inj h
    exact .nil
  | cons item items ih =>
    rw [decodeItems] at h
    split at h
    · cases h
    · rename_i value hvalue
      cases hmore : decodeItems decode room items with
      | error fault =>
        rw [hmore] at h
        cases h
      | ok more =>
        rw [hmore] at h
        obtain rfl := Except.ok.inj h
        exact .cons hvalue (ih hmore)

/-- A list is read from an array, item by item. -/
theorem exists_items_of_decodeList {α : Type} {decode : Decoder α} {room : Nat} {node : Node}
    {values : List α} (h : decodeList decode room node = .ok values) :
    ∃ inside start items ending, node = .array start items ending ∧
      List.Forall₂ (fun item value => decode inside item = .ok value) items values := by
  unfold decodeList at h
  split at h
  · cases h
  · split at h
    · cases h
    · rename_i hitems
      split at h
      · obtain rfl := Except.ok.inj h
        exact ⟨_, _, _, _, rfl, forall₂_of_decodeItems hitems⟩
      · cases h
  · cases h

/-- A text is read from a string. -/
theorem exists_chars_of_decodeText {room : Nat} {node : Node} {text : String}
    (h : decodeText room node = .ok text) : ∃ after, node = .string (.ok text.toList) after := by
  unfold decodeText at h
  split at h
  · rename_i chars after
    obtain rfl := Except.ok.inj h
    exact ⟨after, by rw [String.toList_ofList]⟩
  · cases h

/-- A text is decoded to what is read from its first node if nothing but space is behind it. -/
theorem decode_eq_ok_iff {α : Type} {decoder : Decoder α} {text : List Char} {value : α} :
    decode decoder text = .ok value ↔
      decoder maxNesting (scan text) = .ok value ∧ skipSpace (scan text).after = [] := by
  unfold decode
  dsimp only
  cases decoder maxNesting (scan text) with
  | error fault => simp [Except.mapError]
  | ok read => cases skipSpace (scan text).after <;> simp [Except.mapError]

/-- A text that is decoded to a record is a document. -/
theorem exists_document_of_decode {α : Type} {shape : String} {slots : List (Slot α)} {empty : α}
    {text : List Char} {record : α} (h : decode (decodeRecord shape slots empty) text = .ok record) :
    decodeRecord shape slots empty maxNesting (scan text) = .ok record ∧
      ∃ document, Document text document ∧ Shows (scan text) document := by
  obtain ⟨hvalue, hend⟩ := decode_eq_ok_iff.mp h
  obtain ⟨after, hending⟩ := ending_of_decodeRecord (scanned_scan text) hvalue
  obtain ⟨space, body, document, hspace, htext, hbody, hshows⟩ := (scanned_scan text).begins hending
  rw [Node.after, hending] at hend
  obtain ⟨trail, htrail, hafter⟩ := exists_space after
  rw [hend, List.append_nil] at hafter
  refine ⟨hvalue, document, ?_, hshows⟩
  rw [Document, htext, hafter]
  exact .intro hspace hbody htrail

end NotebookLint.Json
