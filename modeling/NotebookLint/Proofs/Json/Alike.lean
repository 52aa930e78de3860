import Mathlib.Data.List.Perm.Basic
import NotebookLint.Proofs.Json.Complete
import NotebookLint.Proofs.Json.Members
import NotebookLint.Proofs.Json.Record

/-!
# Documents that are read alike

Two documents may be written differently and still be read to the same record. What a record reads
is its fields: the order of its members, and every member that is no field, have no part in it. That
a field may be read before another one rests on each being given at most once, and a field that is
given twice is refused.

`Respects` says of a decoder that it reads alike trees to values that correspond, and there is one
lemma for each way to build decoders.
-/

namespace NotebookLint.Json

/-- A field of a record: its name, and when two values of it count as alike. -/
abbrev Field := String × (Tree → Tree → Prop)

/-- Whether a member has one of these names. -/
def IsNamed (names : List String) (member : List Nat × Tree) : Bool :=
  names.any fun name => member.1 = units name.toList

/-- Whether two members have the same name, and alike values if it is that of a field. -/
def MemberAlike (fields : List Field) (one other : List Nat × Tree) : Prop :=
  one.1 = other.1 ∧ ∀ field ∈ fields, one.1 = units field.1.toList → field.2 one.2 other.2

/-- A member with this name. -/
def member (name : String) (value : Tree) : List Nat × Tree :=
  (units name.toList, value)

/-- A member has one of some names if its name is among them. -/
@[simp]
theorem isNamed_member (names : List String) (name : String) (value : Tree) :
    IsNamed names (member name value) = decide (name ∈ names) := by
  rw [Bool.eq_iff_iff, IsNamed, List.any_eq_true, decide_eq_true_eq]
  constructor
  · rintro ⟨other, hother, hunits⟩
    obtain rfl : name = other :=
      String.toList_inj.mp (units_injective (of_decide_eq_true hunits))
    exact hother
  · exact fun hname => ⟨name, hname, by simp [member]⟩

/-- Two members with a name are alike if their values are as those of the field with this name. -/
theorem memberAlike_member {fields : List Field} {name : String} {one other : Tree}
    (h : ∀ field ∈ fields, field.1 = name → field.2 one other) :
    MemberAlike fields (member name one) (member name other) := by
  refine ⟨rfl, fun field hfield hname => h field hfield ?_⟩
  exact String.toList_inj.mp (units_injective hname).symm

/-- Whether items are alike one by one as the values of the fields in order. -/
inductive ItemsAlike : List Field → List Tree → List Tree → Prop where
  /-- There are none left. -/
  | nil {fields : List Field} : ItemsAlike fields [] []
  /-- The values of the first field are alike, and so are those of the others. -/
  | cons {field : Field} {fields : List Field} {one other : Tree} {ones others : List Tree}
      (hitem : field.2 one other) (hmore : ItemsAlike fields ones others) :
      ItemsAlike (field :: fields) (one :: ones) (other :: others)

/-- Whether two trees are alike as records with these fields. -/
inductive RecordAlike (fields : List Field) : Tree → Tree → Prop where
  /-- Two arrays of alike values. -/
  | array {ones others : List Tree} (hitems : ItemsAlike fields ones others) :
      RecordAlike fields (.array ones) (.array others)
  /-- Two objects whose members with the names of fields are alike after reordering. The other
  members may differ in everything, but the second object has no name that is no text unless the
  first one has it too. -/
  | object {ones others reordered : List (List Nat × Tree)}
      (hnames : ∀ member ∈ others,
        (∃ chars, member.1 = units chars) ∨ member.1 ∈ ones.map Prod.fst)
      (horder : (ones.filter (IsNamed (fields.map Prod.fst))).Perm reordered)
      (hvalues : List.Forall₂ (MemberAlike fields) reordered
        (others.filter (IsNamed (fields.map Prod.fst)))) :
      RecordAlike fields (.object ones) (.object others)

/-- Whether two trees are arrays of items that are alike one by one. -/
inductive ListAlike (item : Tree → Tree → Prop) : Tree → Tree → Prop where
  /-- Two arrays. -/
  | array {ones others : List Tree} (hitems : List.Forall₂ item ones others) :
      ListAlike item (.array ones) (.array others)

/-- Whether two trees are both `null`, or neither is and they are alike. -/
inductive OptionAlike (alike : Tree → Tree → Prop) : Tree → Tree → Prop where
  /-- Both are `null`. -/
  | null : OptionAlike alike .null .null
  /-- Neither is. -/
  | value {one other : Tree} (hone : one ≠ .null) (hother : other ≠ .null)
      (hvalue : alike one other) : OptionAlike alike one other

/-- What is the same is alike, `null` or not. -/
theorem optionAlike_of_eq {one other : Tree} (h : one = other) : OptionAlike Eq one other := by
  subst h
  cases one with
  | null => exact .null
  | _ => exact .value nofun nofun rfl

section Decoders

variable {α β : Type} {depth : Nat} {decode : Decoder α} {alike : Tree → Tree → Prop}
  {outcome : α → α → Prop}

/-- Whether a decoder that reads a tree also reads every tree that is alike, to a value that
corresponds, if at least so many arrays and objects may open. -/
def Respects (depth : Nat) (decode : Decoder α) (alike : Tree → Tree → Prop)
    (outcome : α → α → Prop) : Prop :=
  ∀ room first second one other value, depth ≤ room → Tells first one → Tells second other →
    alike one other → decode room first = .ok value →
      ∃ result, decode room second = .ok result ∧ outcome value result

/-- What is asked of alike trees may be strengthened. -/
theorem Respects.mono {closer : Tree → Tree → Prop} (h : Respects depth decode alike outcome)
    (hcloser : ∀ one other, closer one other → alike one other) :
    Respects depth decode closer outcome := by
  intro room first second one other value hroom hone hother halike
  exact h room first second one other value hroom hone hother (hcloser one other halike)

/-- The same string is read to the same text. -/
theorem respects_text : Respects depth decodeText Eq Eq := by
  intro room first second one other value _ hone hother halike h
  subst halike
  obtain ⟨after, rfl⟩ := exists_chars_of_decodeText h
  cases hone with
  | string htext =>
    cases hother with
    | string htext' =>
      obtain rfl := (htext' _).mpr ((htext _).mp rfl)
      exact ⟨value, by rw [decodeText, String.ofList_toList], rfl⟩

/-- The same number is read to the same whole number. -/
theorem respects_int64 : Respects depth decodeInt64 Eq Eq := by
  intro room first second one other value _ hone hother halike h
  subst halike
  obtain ⟨after, rfl⟩ : ∃ after, first = .number (.ok (.integer value)) after := by
    unfold decodeInt64 at h
    split at h
    · split at h
      · obtain rfl := Except.ok.inj h
        exact ⟨_, rfl⟩
      · cases h
    · cases h
  cases hone with
  | number hvalue =>
    cases hother with
    | number hvalue' =>
      obtain rfl := (hvalue' _).mpr ((hvalue _).mp rfl)
      refine ⟨value, ?_, rfl⟩
      rw [decodeInt64] at h ⊢
      split at h
      · rename_i hle
        rw [if_pos hle]
      · cases h

/-- Optional values that are alike are read to the same value. -/
theorem respects_option (hdecode : Respects depth decode alike Eq) :
    Respects depth (decodeOption decode) (OptionAlike alike) Eq := by
  intro room first second one other value hroom hone hother halike h
  cases halike with
  | null =>
    cases hone
    cases hother
    exact ⟨value, h, rfl⟩
  | value hnotNull hnotNull' hvalue =>
    have hsome {node : Node} {tree : Tree} (htells : Tells node tree) (hne : tree ≠ .null) :
        decodeOption decode room node = (decode room node).map some := by
      cases htells with
      | null => exact absurd rfl hne
      | _ => rfl
    rw [hsome hone hnotNull] at h
    rw [hsome hother hnotNull']
    cases hfirst : decode room first with
    | error fault =>
      rw [hfirst] at h
      cases h
    | ok read =>
      rw [hfirst] at h
      obtain ⟨result, hresult, rfl⟩ := hdecode _ _ _ _ _ _ hroom hone hother hvalue hfirst
      exact ⟨value, by rw [hresult]; exact h, rfl⟩

/-- Items that are alike are read to values that correspond one by one. -/
theorem exists_decodeItems (hdecode : Respects depth decode alike outcome) {room : Nat}
    (hroom : depth ≤ room) {first second : List Node} {ones others : List Tree} {values : List α}
    (hone : List.Forall₂ Tells first ones) (hother : List.Forall₂ Tells second others)
    (halike : List.Forall₂ alike ones others) (h : decodeItems decode room first = .ok values) :
    ∃ results, decodeItems decode room second = .ok results ∧
      List.Forall₂ outcome values results := by
  induction halike generalizing first second values with
  | nil =>
    cases hone
    cases hother
    obtain rfl := Except.ok.inj h
    exact ⟨[], rfl, .nil⟩
  | cons hitem _ ih =>
    cases hone with
    | cons hone hones =>
      cases hother with
      | cons hother hothers =>
        rw [decodeItems] at h
        split at h
        · cases h
        · rename_i value hvalue
          obtain ⟨result, hresult, houtcome⟩ :=
            hdecode _ _ _ _ _ _ hroom hone hother hitem hvalue
          rename_i items _ _ _
          cases hmore : decodeItems decode room items with
          | error fault =>
            rw [hmore] at h
            cases h
          | ok more =>
            rw [hmore] at h
            obtain rfl := Except.ok.inj h
            obtain ⟨results, hresults, houtcomes⟩ := ih hones hothers hmore
            refine ⟨result :: results, ?_, .cons houtcome houtcomes⟩
            rw [decodeItems, hresult]
            dsimp only
            rw [hresults]
            rfl

/-- Lists of alike items are read to lists of values that correspond. -/
theorem respects_list (hdecode : Respects depth decode alike outcome) :
    Respects (depth + 1) (decodeList decode) (ListAlike alike) (List.Forall₂ outcome) := by
  intro room first second one other values hroom hone hother halike h
  obtain ⟨hitems⟩ := halike
  cases hone with
  | array hones _ =>
    cases hother with
    | array hothers _ =>
      cases room with
      | zero => cases h
      | succ room =>
        rw [decodeList] at h
        split at h
        · cases h
        · rename_i read hread
          obtain rfl := Except.ok.inj h
          obtain ⟨results, hresults, houtcomes⟩ :=
            exists_decodeItems hdecode (Nat.le_of_succ_le_succ hroom) hones hothers hitems hread
          exact ⟨results, by rw [decodeList, hresults], houtcomes⟩

end Decoders

section Records

variable {α : Type} {slots : List (Slot α)} {fields : List Field} {depth room : Nat}
  {outcome : α → α → Prop} {record result filled : α}

/-- Whether a field of a record has the name of a field, and takes records that correspond to records
that correspond where it reads alike values. -/
def Answers (depth : Nat) (outcome : α → α → Prop) (slot : Slot α) (field : Field) : Prop :=
  slot.name = field.1 ∧
    ∀ close close' room first second one other record result filled, depth ≤ room →
      Tells first one → Tells second other → field.2 one other → outcome record result →
        slot.fill close room first record = .ok filled →
          ∃ filled', slot.fill close' room second result = .ok filled' ∧ outcome filled filled'

/-- A plain field reads alike values if its decoder does. -/
theorem answers_plain {β : Type} {name : String} {required : Bool} {decode : Decoder β}
    {store : α → β → α} {alike : Tree → Tree → Prop} {inner : β → β → Prop}
    (hdecode : Respects depth decode alike inner)
    (hstore : ∀ record result value other, outcome record result → inner value other →
      outcome (store record value) (store result other)) :
    Answers depth outcome (.plain name required decode store) (name, alike) := by
  refine ⟨rfl, ?_⟩
  intro close close' room first second one other record result filled hroom hone hother halike
    houtcome h
  simp only [Slot.plain] at h ⊢
  cases hvalue : decode room first with
  | error fault =>
    rw [hvalue] at h
    cases h
  | ok value =>
    rw [hvalue] at h
    obtain rfl := Except.ok.inj h
    obtain ⟨read, hread, hinner⟩ := hdecode _ _ _ _ _ _ hroom hone hother halike hvalue
    exact ⟨store result read, by rw [hread]; rfl, hstore _ _ _ _ houtcome hinner⟩

/-- Of lists that correspond one by one, each element of the first has one in the second. -/
theorem exists_of_forall₂ {β γ : Type} {relation : β → γ → Prop} {first : List β} {second : List γ}
    (h : List.Forall₂ relation first second) {a : β} (ha : a ∈ first) :
    ∃ b ∈ second, relation a b := by
  induction h with
  | nil => cases ha
  | cons hhead _ ih =>
    rcases List.mem_cons.mp ha with rfl | ha
    · exact ⟨_, List.mem_cons_self, hhead⟩
    · obtain ⟨b, hb, hrelation⟩ := ih ha
      exact ⟨b, List.mem_cons_of_mem _ hb, hrelation⟩

/-- Of lists that correspond one by one, each element of the second has one in the first. -/
theorem exists_of_forall₂_right {β γ : Type} {relation : β → γ → Prop} {first : List β}
    {second : List γ} (h : List.Forall₂ relation first second) {b : γ} (hb : b ∈ second) :
    ∃ a ∈ first, relation a b :=
  exists_of_forall₂ h.flip hb

/-- Whether a field is given with what a member of a tree says. -/
def Gives (slots : List (Slot α)) (field : Slot α × Node) (member : List Nat × Tree) : Prop :=
  slotNamed slots field.1.name.toList = some field.1 ∧ member.1 = units field.1.name.toList ∧
    Tells field.2 member.2

/-- A key names a field exactly if its units are those of the name of the field. -/
theorem slotOf_cases {key : Key} {named : List Nat} {tree : Tree}
    (hkey : ∀ chars, key.text = .ok chars ↔ named = units chars) :
    (slotOf slots key = none ∧ IsNamed (slots.map Slot.name) (named, tree) = false) ∨
      ∃ slot, slotOf slots key = some slot ∧ slotNamed slots slot.name.toList = some slot ∧
        named = units slot.name.toList ∧ IsNamed (slots.map Slot.name) (named, tree) = true := by
  cases hslot : slotOf slots key with
  | none =>
    refine .inl ⟨rfl, ?_⟩
    rw [IsNamed, List.any_eq_false]
    intro name hname hnamed
    obtain ⟨slot, hmem, rfl⟩ := List.mem_map.mp hname
    rw [slotOf, (hkey _).mpr (by simpa using hnamed)] at hslot
    have hnot := List.find?_eq_none.mp hslot slot hmem
    simp at hnot
  | some slot =>
    right
    unfold slotOf at hslot
    split at hslot
    · rename_i chars htext
      have hname : slot.name = String.ofList chars := by
        simpa using List.find?_some hslot
      have hchars : chars = slot.name.toList := by rw [hname, String.toList_ofList]
      subst hchars
      have hnamed := (hkey _).mp htext
      refine ⟨slot, rfl, hslot, hnamed, ?_⟩
      rw [IsNamed, List.any_eq_true]
      exact ⟨slot.name, List.mem_map_of_mem (List.mem_of_find?_eq_some hslot), by simpa using hnamed⟩
    · cases hslot

/-- The fields that are given are the members of the tree with the names of fields. -/
theorem forall₂_gives {members : List (Key × Node)} {trees : List (List Nat × Tree)}
    (h : List.Forall₂ TellsMember members trees) :
    List.Forall₂ (Gives slots) (given slots members)
      (trees.filter (IsNamed (slots.map Slot.name))) := by
  induction h with
  | nil => exact .nil
  | @cons member tree members trees hmember _ ih =>
    obtain ⟨hkey, hvalue, -⟩ := hmember
    rcases slotOf_cases hkey with ⟨hslot, hnamed⟩ | ⟨slot, hslot, hfound, hunits, hnamed⟩
    · rw [given, List.filterMap_cons, hslot, List.filter_cons, hnamed]
      exact ih
    · rw [given, List.filterMap_cons, hslot, List.filter_cons, hnamed]
      exact .cons ⟨hfound, hunits, hvalue⟩ ih

/-- The fields of alike members are the same, and they take records that correspond to records that
correspond. -/
theorem Fills.respects (hslots : List.Forall₂ (Answers depth outcome) slots fields)
    (hroom : depth ≤ room) {first second : List (Slot α × Node)} {ones others : List (List Nat × Tree)}
    (hones : List.Forall₂ (Gives slots) first ones)
    (hothers : List.Forall₂ (Gives slots) second others)
    (halike : List.Forall₂ (MemberAlike fields) ones others) (houtcome : outcome record result)
    (h : Fills room first record filled) :
    givenNames second = givenNames first ∧
      ∃ filled', Fills room second result filled' ∧ outcome filled filled' := by
  induction halike generalizing first second record result with
  | nil =>
    cases hones
    cases hothers
    obtain rfl := h
    exact ⟨rfl, result, rfl, houtcome⟩
  | cons hmember _ ih =>
    cases hones with
    | @cons field _ first _ hone hones =>
      cases hothers with
      | @cons field' _ second _ hother hothers =>
        obtain ⟨slot, node⟩ := field
        obtain ⟨slot', node'⟩ := field'
        obtain ⟨hnames, hvalues⟩ := hmember
        obtain ⟨hslot, hunits, htells⟩ := hone
        obtain ⟨hslot', hunits', htells'⟩ := hother
        have hsame : slot'.name.toList = slot.name.toList :=
          units_injective (hunits'.symm.trans (hnames.symm.trans hunits))
        obtain rfl : slot' = slot := by
          dsimp only at hslot hslot' hsame
          rw [hsame, hslot] at hslot'
          exact (Option.some.inj hslot').symm
        obtain ⟨field, hfield, hname, hfills⟩ :=
          exists_of_forall₂ hslots (List.mem_of_find?_eq_some hslot)
        have halike := hvalues field hfield (by rw [← hname]; exact hunits)
        obtain ⟨next, hnext, hmore⟩ := h
        obtain ⟨next', hnext', houtcome'⟩ :=
          hfills closeObject closeObject _ _ _ _ _ _ _ _ hroom htells htells' halike houtcome hnext
        obtain ⟨hnames', filled', hfilled', hcorrespond⟩ := ih hones hothers houtcome' hmore
        refine ⟨?_, filled', ⟨next', hnext', hfilled'⟩, hcorrespond⟩
        rw [givenNames, List.map_cons]
        exact congrArg (_ :: ·) hnames'

/-- Fields that have the names of others one by one have the same names. -/
theorem map_name_eq (h : List.Forall₂ (fun slot field => slot.name = field.1) slots fields) :
    slots.map Slot.name = fields.map Prod.fst := by
  induction h with
  | nil => rfl
  | cons hname _ ih => rw [List.map_cons, List.map_cons, hname, ih]

/-- Alike members make records that correspond. -/
theorem Makes.respects (hslots : List.Forall₂ (Answers depth outcome) slots fields)
    (hcommute : slots.Pairwise Slot.Commutes) (hroom : depth ≤ room)
    {first second : List (Key × Node)} {ones others : List (List Nat × Tree)} {empty : α}
    (hempty : outcome empty empty) (hones : List.Forall₂ TellsMember first ones)
    (hothers : List.Forall₂ TellsMember second others)
    (halike : RecordAlike fields (.object ones) (.object others))
    (h : Makes slots room first empty record) :
    ∃ result, Makes slots room second empty result ∧ outcome record result := by
  cases halike with
  | @object _ _ reordered hnames horder hvalues =>
    rw [← map_name_eq (hslots.imp fun _ _ hslot => hslot.1)] at horder hvalues
    obtain ⟨reread, hperm, hreread⟩ : ∃ reread, (given slots first).Perm reread ∧
        List.Forall₂ (Gives slots) reread reordered := by
      have hcomp :
          Relation.Comp (List.Forall₂ (Gives slots)) List.Perm (given slots first) reordered :=
        ⟨_, forall₂_gives hones, horder⟩
      rw [List.forall₂_comp_perm_eq_perm_comp_forall₂] at hcomp
      exact hcomp
    have hpairwise := pairwise_commutes hcommute (fun _ => mem_of_mem_given) h.once
    obtain ⟨hgiven, result, hresult, houtcome⟩ :=
      Fills.respects hslots hroom hreread (forall₂_gives hothers) hvalues hempty
        (h.fills.perm hperm hpairwise)
    have hnamesPerm : (givenNames (given slots first)).Perm (givenNames (given slots second)) := by
      rw [hgiven]
      exact hperm.map _
    refine ⟨result, ⟨?_, hnamesPerm.nodup_iff.mp h.once, hresult, ?_⟩, houtcome⟩
    · intro member hmember
      obtain ⟨tree, htree, htells⟩ := exists_of_forall₂ hothers hmember
      obtain ⟨hkey, -, hpass⟩ := htells
      rcases hnames _ htree with ⟨chars, hchars⟩ | hfirst
      · exact ⟨chars, (hkey chars).mpr hchars, fun _ => hpass⟩
      · obtain ⟨tree', htree', hsame⟩ := List.mem_map.mp hfirst
        obtain ⟨member', hmember', htells'⟩ := exists_of_forall₂_right hones htree'
        obtain ⟨hkey', -, -⟩ := htells'
        obtain ⟨chars, hchars, -⟩ := h.readable _ hmember'
        exact ⟨chars, (hkey chars).mpr (hsame.symm.trans ((hkey' chars).mp hchars)), fun _ => hpass⟩
    · intro slot hslot hrequired
      exact hnamesPerm.subset (h.required slot hslot hrequired)

/-- Alike items fill records that correspond. -/
theorem exists_fillItems (hslots : List.Forall₂ (Answers depth outcome) slots fields)
    (hroom : depth ≤ room) {shape : String} {after after' : Spot} {first second : List Node}
    {ones others : List Tree} {index : Nat} {before before' : Spot}
    (hones : List.Forall₂ Tells first ones) (hothers : List.Forall₂ Tells second others)
    (halike : ItemsAlike fields ones others) (hend : EndsAfter before' second)
    (houtcome : outcome record result)
    (h : fillItems shape room (.ok after) slots first index before record = .ok filled) :
    ∃ filled', fillItems shape room (.ok after') slots second index before' result = .ok filled' ∧
      outcome filled filled' := by
  induction hslots generalizing first second ones others index before before' record result with
  | nil =>
    cases halike
    cases hones
    cases hothers
    rw [EndsAfter] at hend
    rw [fillItems] at h
    split at h
    · cases h
    · obtain rfl := Except.ok.inj h
      exact ⟨result, by rw [fillItems, hend], houtcome⟩
  | cons hslot _ ih =>
    cases halike with
    | nil =>
      cases hones
      cases hothers
      rw [fillItems] at h
      split at h
      · cases h
      · rename_i hrequired
        obtain ⟨filled', hfilled', hcorrespond⟩ := ih .nil .nil .nil hend houtcome h
        refine ⟨filled', ?_, hcorrespond⟩
        rw [fillItems, if_neg hrequired]
        exact hfilled'
    | cons hitem hmore =>
      cases hones with
      | cons hone hones =>
        cases hothers with
        | cons hother hothers =>
          rw [fillItems] at h
          split at h
          · cases h
          · rename_i next hnext
            obtain ⟨next', hnext', houtcome'⟩ :=
              hslot.2 _ closeArray _ _ _ _ _ _ _ _ hroom hone hother hitem houtcome hnext
            obtain ⟨filled', hfilled', hcorrespond⟩ := ih hones hothers hmore hend.2 houtcome' h
            refine ⟨filled', ?_, hcorrespond⟩
            rw [fillItems, hnext']
            exact hfilled'

/-- Alike records are read to records that correspond, if their fields read alike values and it does
not matter which of two fields is read first. -/
theorem respects_record {shape : String} {empty : α}
    (hslots : List.Forall₂ (Answers depth outcome) slots fields)
    (hcommute : slots.Pairwise Slot.Commutes) (hempty : outcome empty empty) :
    Respects (depth + 1) (decodeRecord shape slots empty) (RecordAlike fields) outcome := by
  intro room first second one other value hroom hone hother halike h
  obtain _ | room := room
  · omega
  have hroom := Nat.le_of_succ_le_succ hroom
  cases hone with
  | array hones hend =>
    cases halike with
    | array hitems =>
      cases hother with
      | array hothers hend' =>
        rw [decodeRecord] at h ⊢
        exact exists_fillItems hslots hroom hones hothers hitems hend' hempty h
  | object hones =>
    cases hother with
    | object hothers =>
      obtain ⟨result, hresult, houtcome⟩ := Makes.respects hslots hcommute hroom hempty hones hothers
        halike (decodeRecord_object_eq_ok_iff.mp h)
      exact ⟨result, decodeRecord_object_eq_ok_iff.mpr hresult, houtcome⟩
    | _ => cases halike
  | _ => cases halike

/-- Alike documents are decoded to values that correspond, if no more arrays and objects have to be
open at once than may be. -/
theorem exists_decode {decoder : Decoder α} {alike : Tree → Tree → Prop}
    (hdecoder : Respects depth decoder alike outcome) (hdepth : depth ≤ maxNesting)
    {first second : List Char} {one other : Tree} (hone : Document first one)
    (hother : Document second other) (halike : alike one other) {value : α}
    (h : decode decoder first = .ok value) :
    ∃ result, decode decoder second = .ok result ∧ outcome value result := by
  obtain ⟨_, -, hfinds⟩ := exists_finds_of_document hone
  obtain ⟨rest, hrest, hfinds'⟩ := exists_finds_of_document hother
  obtain ⟨result, hresult, houtcome⟩ :=
    hdecoder _ _ _ _ _ _ hdepth hfinds.tells hfinds'.tells halike (decode_eq_ok_iff.mp h).1
  refine ⟨result, decode_eq_ok_iff.mpr ⟨hresult, ?_⟩, houtcome⟩
  rw [Node.after, hfinds'.ending]
  exact skipSpace_of_isSpace hrest

end Records

section Written

/-- A value is a document. -/
theorem document_of_denotes {text : List Char} {tree : Tree} (h : Denotes text tree) :
    Document text tree := by
  rw [Document]
  simpa using Spaced.intro isSpace_nil h isSpace_nil

/-- A name of characters that stand for themselves and a value are a member. -/
theorem member_of_denotes (name : String) {text : List Char} {tree : Tree}
    (hname : name.toList.all isLiteral = true) (hvalue : Denotes text tree) :
    Member Denotes ('"' :: (name.toList ++ '"' :: ':' :: text)) (member name tree) := by
  simpa [member] using Member.intro (.intro isSpace_nil (quoted_of_literal hname) isSpace_nil)
    (.intro isSpace_nil hvalue isSpace_nil)

end Written

end NotebookLint.Json
