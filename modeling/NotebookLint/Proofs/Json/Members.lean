import Mathlib.Data.List.Pairwise
import NotebookLint.Json.Record

/-!
# What members make a record

An object is read member by member, but what it is read to can be said of its members as a whole:
they are readable, they give no field twice and every required one, and the fields that they give
fill the record one after another. Fields are read each into its own place, so it does not matter
which is read first.
-/

namespace NotebookLint.Json

section Members

variable {α : Type} {slots : List (Slot α)} {room : Nat} {record filled : α}

/-- The field that a key names, if it is a text. -/
def slotOf (slots : List (Slot α)) (key : Key) : Option (Slot α) :=
  match key.text with
  | .ok chars => slotNamed slots chars
  | .error _ => none

/-- The fields that members give, with their values, in the order of the members. -/
def given (slots : List (Slot α)) (members : List (Key × Node)) : List (Slot α × Node) :=
  members.filterMap fun member => (slotOf slots member.1).map (·, member.2)

/-- The names of the fields that are given. -/
def givenNames (fields : List (Slot α × Node)) : List String :=
  fields.map fun field => field.1.name

/-- Whether fields that are read one after another take a record to another. -/
def Fills (room : Nat) : List (Slot α × Node) → α → α → Prop
  | [], record, filled => record = filled
  | (slot, node) :: more, record, filled =>
    ∃ next, slot.fill closeObject room node record = .ok next ∧ Fills room more next filled

/-- Fields that are read one after another are read up to each of them, and then on. -/
theorem fills_append {first second : List (Slot α × Node)} :
    Fills room (first ++ second) record filled ↔
      ∃ next, Fills room first record next ∧ Fills room second next filled := by
  induction first generalizing record with
  | nil => simp [Fills]
  | cons field first ih =>
    simp only [List.cons_append, Fills, ih]
    constructor
    · rintro ⟨next, hnext, later, hfirst, hsecond⟩
      exact ⟨later, ⟨next, hnext, hfirst⟩, hsecond⟩
    · rintro ⟨later, ⟨next, hnext, hfirst⟩, hsecond⟩
      exact ⟨next, hnext, later, hfirst, hsecond⟩

/-- Whether every name of some members is a text, and every value whose name is that of no field is
passed over. -/
def Readable (slots : List (Slot α)) (members : List (Key × Node)) : Prop :=
  ∀ member ∈ members, ∃ chars, member.1.text = .ok chars ∧
    (slotNamed slots chars = none → member.2.pass = .ok ())

/-- Members are read into a record exactly if they are readable, give no field twice, and their
fields fill it. -/
theorem fillMembers_eq_ok_iff {members : List (Key × Node)} {seen seenAfter : List String} :
    fillMembers slots room members seen record = .ok (seenAfter, filled) ↔
      Readable slots members ∧ (givenNames (given slots members)).Nodup ∧
        (∀ name ∈ givenNames (given slots members), name ∉ seen) ∧
          seenAfter = (givenNames (given slots members)).reverse ++ seen ∧
            Fills room (given slots members) record filled := by
  induction members generalizing seen record with
  | nil => simp [fillMembers, Readable, given, givenNames, Fills, eq_comm]
  | cons member members ih =>
    obtain ⟨key, value⟩ := member
    rw [fillMembers]
    cases hkey : key.text with
    | error fault => simp [Readable, hkey]
    | ok chars =>
      dsimp only
      cases hslot : slotNamed slots chars with
      | none =>
        have hgiven : given slots ((key, value) :: members) = given slots members := by
          simp [given, slotOf, hkey, hslot]
        dsimp only
        cases hpass : value.pass with
        | error fault => simp [Readable, hkey, hslot, hpass]
        | ok =>
          have hreadable : Readable slots ((key, value) :: members) ↔ Readable slots members := by
            simp [Readable, hkey, hpass]
          simp only [hgiven, hreadable]
          exact ih
      | some slot =>
        have hgiven : given slots ((key, value) :: members) = (slot, value) :: given slots members := by
          simp [given, slotOf, hkey, hslot]
        have hreadable : Readable slots ((key, value) :: members) ↔ Readable slots members := by
          simp [Readable, hkey, hslot]
        simp only [hgiven, hreadable, Fills, givenNames, List.map_cons, List.nodup_cons,
          List.mem_cons, forall_eq_or_imp, List.reverse_cons, List.append_assoc, List.singleton_append]
        by_cases hseen : slot.name ∈ seen
        · simp [hseen]
        · rw [if_neg hseen]
          cases hfill : slot.fill closeObject room value record with
          | error fault => simp
          | ok next =>
            simp only [ih, givenNames, Except.ok.injEq, exists_eq_left', hseen, not_false_eq_true,
              true_and]
            constructor
            · rintro ⟨hread, hnodup, hfresh, hafter, hfills⟩
              refine ⟨hread, ⟨fun hmem => (hfresh _ hmem) List.mem_cons_self, hnodup⟩, ?_, hafter, hfills⟩
              exact fun name hname hmem => hfresh name hname (List.mem_cons_of_mem _ hmem)
            · rintro ⟨hread, ⟨hnew, hnodup⟩, hfresh, hafter, hfills⟩
              refine ⟨hread, hnodup, ?_, hafter, hfills⟩
              intro name hname hmem
              rcases List.mem_cons.mp hmem with rfl | hmem
              · exact hnew hname
              · exact hfresh name hname hmem

/-- Whether members make a record: they are readable, give each field at most once and every required
one, and the fields fill the record. -/
structure Makes (slots : List (Slot α)) (room : Nat) (members : List (Key × Node)) (empty record : α) :
    Prop where
  /-- Every name is a text, and every value that is no field is passed over. -/
  readable : Readable slots members
  /-- No field is given twice. -/
  once : (givenNames (given slots members)).Nodup
  /-- The fields fill the record. -/
  fills : Fills room (given slots members) empty record
  /-- Every required field is given. -/
  required : ∀ slot ∈ slots, slot.required → slot.name ∈ givenNames (given slots members)

/-- A record is read from an object that ends exactly if its members make the record. -/
theorem decodeRecord_object_eq_ok_iff {shape : String} {start after : Spot}
    {members : List (Key × Node)} {empty : α} :
    decodeRecord shape slots empty (room + 1) (.object start members (.ok after)) = .ok record ↔
      Makes slots room members empty record := by
  have hmissing (seen : List String) :
      slots.find? (fun slot => slot.required && !seen.contains slot.name) = none ↔
        ∀ slot ∈ slots, slot.required → slot.name ∈ seen := by
    simp [List.find?_eq_none]
  rw [decodeRecord]
  constructor
  · intro h
    split at h
    · cases h
    · rename_i seen filled hfilled
      obtain ⟨hreadable, honce, -, rfl, hfills⟩ := fillMembers_eq_ok_iff.mp hfilled
      dsimp only at h
      split at h
      · cases h
      · rename_i hnone
        obtain rfl := Except.ok.inj h
        refine ⟨hreadable, honce, hfills, ?_⟩
        simpa using (hmissing _).mp hnone
  · rintro ⟨hreadable, honce, hfills, hrequired⟩
    have hfilled := fillMembers_eq_ok_iff.mpr
      ⟨hreadable, honce, fun _ _ => List.not_mem_nil, rfl, hfills⟩
    have hnone := (hmissing ((givenNames (given slots members)).reverse ++ [])).mpr
      (by simpa using hrequired)
    rw [hfilled]
    dsimp only
    rw [hnone]

/-- Whether it does not matter which of two fields is read first. -/
def Slot.Commutes (first second : Slot α) : Prop :=
  ∀ room node other record filled,
    (∃ next, first.fill closeObject room node record = .ok next ∧
      second.fill closeObject room other next = .ok filled) ↔
    ∃ next, second.fill closeObject room other record = .ok next ∧
      first.fill closeObject room node next = .ok filled

/-- Commuting is symmetric. -/
theorem Slot.Commutes.symm {first second : Slot α} (h : first.Commutes second) :
    second.Commutes first :=
  fun room node other record filled => (h room other node record filled).symm

/-- Commuting is symmetric. -/
instance : Std.Symm (Slot.Commutes (α := α)) := ⟨fun _ _ => Slot.Commutes.symm⟩

/-- Whether a field reads a value that does not depend on the record, and stores it. -/
def Slot.Stores {β : Type} (slot : Slot α) (read : Nat → Node → Except Fault β) (store : α → β → α) :
    Prop :=
  ∀ room node record, slot.fill closeObject room node record = (read room node).map (store record)

/-- Fields commute if it does not matter which of their values is stored first. -/
theorem commutes_of_stores {β γ : Type} {first second : Slot α} {read : Nat → Node → Except Fault β}
    {store : α → β → α} {read' : Nat → Node → Except Fault γ} {store' : α → γ → α}
    (hfirst : first.Stores read store) (hsecond : second.Stores read' store')
    (hstore : ∀ record value other,
      store' (store record value) other = store (store' record other) value) :
    first.Commutes second := by
  intro room node other record filled
  simp only [hfirst _ _ _, hsecond _ _ _]
  cases read room node with
  | error fault => cases read' room other <;> simp [Except.map]
  | ok value => cases read' room other <;> simp [Except.map, hstore]

/-- Fields of which it does not matter which is read first may be read in any order. -/
theorem Fills.perm {fields others : List (Slot α × Node)} (hperm : fields.Perm others)
    (hcommute : fields.Pairwise fun first second => first.1.Commutes second.1)
    (h : Fills room fields record filled) : Fills room others record filled := by
  induction hperm generalizing record with
  | nil => exact h
  | cons field _ ih =>
    obtain ⟨next, hnext, hmore⟩ := h
    exact ⟨next, hnext, ih (List.Pairwise.of_cons hcommute) hmore⟩
  | swap first second fields =>
    obtain ⟨middle, hmiddle, next, hnext, hmore⟩ := h
    have hswap := (List.pairwise_cons.mp hcommute).1 first List.mem_cons_self
    obtain ⟨middle', hmiddle', hnext'⟩ := (hswap _ _ _ _ _).mp ⟨middle, hmiddle, hnext⟩
    exact ⟨middle', hmiddle', next, hnext', hmore⟩
  | trans hfirst _ ih ih' =>
    refine ih' ?_ (ih hcommute h)
    exact (hfirst.pairwise_iff fun hcommutes => hcommutes.symm).mp hcommute

/-- Fields that are given at most once may be read in any order if the fields of the record may. -/
theorem pairwise_commutes {fields : List (Slot α × Node)}
    (hslots : slots.Pairwise Slot.Commutes) (hmem : ∀ field ∈ fields, field.1 ∈ slots)
    (honce : (givenNames fields).Nodup) :
    fields.Pairwise fun first second => first.1.Commutes second.1 := by
  have hnames : fields.Pairwise fun first second => first.1.name ≠ second.1.name :=
    List.pairwise_map.mp honce
  refine hnames.imp_of_mem ?_
  intro first second hfirst hsecond hne
  refine hslots.forall (hmem _ hfirst) (hmem _ hsecond) ?_
  intro heq
  exact hne (by rw [heq])

/-- A field that members give is one of the record. -/
theorem mem_of_mem_given {members : List (Key × Node)} {field : Slot α × Node}
    (h : field ∈ given slots members) : field.1 ∈ slots := by
  obtain ⟨⟨key, value⟩, -, hfield⟩ := List.mem_filterMap.mp h
  obtain ⟨slot, hslot, rfl⟩ := Option.map_eq_some_iff.mp hfield
  unfold slotOf at hslot
  split at hslot
  · exact List.mem_of_find?_eq_some hslot
  · cases hslot

end Members

end NotebookLint.Json
