import NotebookLint.Json.Record
import NotebookLint.Proofs.Json.Scan
import NotebookLint.Proofs.Json.Units

/-!
# Every document is scanned

A document is scanned to a node that tells what the document says, no more and no less: a string has
a text exactly if its units make one, a number has a value as a whole number exactly if it is one,
and every array, object and member is complete. Such a node is passed over, so that what a document
says where nothing is expected is never a reason to refuse it.
-/

namespace NotebookLint.Json

/-- Whether an array goes on before each of some items and ends after the last of them. -/
def EndsAfter : (before : Spot) → List Node → Prop
  | before, [] => surplus before = .ok ()
  | before, item :: items => surplus before ≠ .ok () ∧ EndsAfter item.after items

mutual

/-- Whether a node tells what a tree says. -/
inductive Tells : Node → Tree → Prop where
  /-- The constant `null`. -/
  | null {after : Spot} : Tells (.null after) .null
  /-- A truth value. -/
  | bool {value : Bool} {after : Spot} : Tells (.bool value after) (.bool value)
  /-- A number, which has a value as a whole number if it is one. -/
  | number {value : Except Fault Number} {lexeme after : Spot}
      (hvalue : ∀ n, value = .ok (.integer n) ↔ IsInteger lexeme n) :
      Tells (.number value after) (.number lexeme)
  /-- A string, which has a text if its units make one. -/
  | string {text : Except Fault (List Char)} {named : List Nat} {after : Spot}
      (htext : ∀ chars, text = .ok chars ↔ named = units chars) :
      Tells (.string text after) (.string named)
  /-- An array that ends after its items. -/
  | array {start after : Spot} {items : List Node} {trees : List Tree}
      (hitems : List.Forall₂ Tells items trees)
      (hend : EndsAfter start.tail items) :
      Tells (.array start items (.ok after)) (.array trees)
  /-- An object that ends after its members. -/
  | object {start after : Spot} {members : List (Key × Node)} {trees : List (List Nat × Tree)}
      (hmembers : List.Forall₂ TellsMember members trees) :
      Tells (.object start members (.ok after)) (.object trees)

/-- Whether a member tells what a member of a tree says, and is passed over. -/
inductive TellsMember : Key × Node → List Nat × Tree → Prop where
  /-- A name, which has a text if its units make one, and a value. -/
  | intro {key : Key} {value : Node} {named : List Nat} {tree : Tree}
      (hkey : ∀ chars, key.text = .ok chars ↔ named = units chars) (hvalue : Tells value tree)
      (hpass : value.pass = .ok ()) : TellsMember (key, value) (named, tree)

end

/-- Whether a node is complete, tells what a tree says, is passed over, and ends before a text. -/
structure Finds (node : Node) (tree : Tree) (rest : Spot) : Prop where
  /-- It tells what the tree says. -/
  tells : Tells node tree
  /-- The text is what is unread after it. -/
  ending : node.ending = .ok rest
  /-- It is passed over. -/
  pass : node.pass = .ok ()

section Lists

variable {α : Type} {element core : List Char → α → Prop} {first : Bool} {text inner : Spot}

/-- Nothing is space. -/
theorem isSpace_nil : IsSpace [] := by
  simp [IsSpace]

/-- Elements with commas between them are one element without space before it and what is inside the
brackets behind it. -/
theorem Separated.exists_core {value : α} {values : List α}
    (helement : ∀ text value, element text value → ∃ lead body trail, IsSpace lead ∧
      IsSpace trail ∧ text = lead ++ (body ++ trail) ∧ core body value)
    (h : Separated element text (value :: values)) :
    ∃ lead body more, IsSpace lead ∧ text = lead ++ (body ++ more) ∧ core body value ∧
      Inside element false more values := by
  cases h with
  | last hlast =>
    obtain ⟨lead, body, trail, hlead, htrail, rfl, hbody⟩ := helement _ _ hlast
    exact ⟨lead, body, trail, hlead, rfl, hbody, .inl ⟨htrail, rfl⟩⟩
  | @cons _ more _ _ hfirst hmore =>
    obtain ⟨lead, body, trail, hlead, htrail, rfl, hbody⟩ := helement _ _ hfirst
    exact ⟨lead, body, trail ++ ',' :: more, hlead, by simp, hbody, .inr ⟨trail, more, htrail, rfl, hmore⟩⟩

/-- What is inside brackets leads to its first element. -/
theorem Inside.exists_leads {value : α} {values : List α}
    (helement : ∀ text value, element text value → ∃ lead body trail, IsSpace lead ∧
      IsSpace trail ∧ text = lead ++ (body ++ trail) ∧ core body value)
    (h : Inside element first inner (value :: values)) (rest : Spot) :
    ∃ body more, core body value ∧ Inside element false more values ∧
      Leads first (inner ++ rest) (body ++ (more ++ rest)) := by
  rcases h with ⟨-, hnil⟩ | h
  · cases hnil
  cases first with
  | true =>
    obtain ⟨lead, body, more, hlead, rfl, hbody, hmore⟩ := Separated.exists_core helement h
    exact ⟨body, more, hbody, hmore, [], lead, isSpace_nil, hlead, by simp⟩
  | false =>
    obtain ⟨space, inner, hspace, rfl, h⟩ := h
    obtain ⟨lead, body, more, hlead, rfl, hbody, hmore⟩ := Separated.exists_core helement h
    exact ⟨body, more, hbody, hmore, space, lead, hspace, hlead, by simp⟩

/-- Without elements there is nothing but space inside the brackets. -/
theorem Inside.isSpace (h : Inside element first inner []) : IsSpace inner := by
  rcases h with ⟨hinner, -⟩ | h
  · exact hinner
  · cases first with
    | true => cases h
    | false =>
      obtain ⟨_, _, _, _, hmore⟩ := h
      cases hmore

/-- Behind an element there is space, a comma or the closing bracket. -/
theorem Inside.separates {values : List α} {close : Char} {rest : Spot}
    (h : Inside element false inner values) (hclose : close = ']' ∨ close = '}') :
    Separates (inner ++ close :: rest) := by
  have hspace {space text : Spot} {c : Char} (hspace : IsSpace space)
      (hc : c = ',' ∨ c = ']' ∨ c = '}') : Separates (space ++ c :: text) := by
    intro d hd
    cases space with
    | nil =>
      obtain rfl := Option.some.inj hd
      exact .inr hc
    | cons e space =>
      obtain rfl := Option.some.inj hd
      exact .inl (hspace e List.mem_cons_self)
  rcases h with ⟨hinner, -⟩ | ⟨space, more, hinner, rfl, -⟩
  · exact hspace hinner (.inr hclose)
  · rw [List.append_assoc]
    exact hspace hinner (.inl rfl)

/-- Where an element follows that is not the closing bracket, it is next in the array. -/
theorem nextItem_of_leads {c : Char} {rest : Spot} (h : Leads first text (c :: rest))
    (hspace : ¬isSpace c) (hclose : c ≠ ']') : nextItem first text = .ok (true, c :: rest) := by
  obtain ⟨space, lead, hbefore, hlead, rfl⟩ := h
  have hrest : skipSpace (lead ++ c :: rest) = c :: rest :=
    skipSpace_append hlead hspace
  unfold nextItem
  cases first with
  | true =>
    have hskip : skipSpace (space ++ (lead ++ c :: rest)) = c :: rest := by
      rw [← List.append_assoc]
      exact skipSpace_append (hbefore.append hlead) hspace
    simp only [if_true, hskip, if_neg hclose]
  | false =>
    have hskip : skipSpace (space ++ ',' :: (lead ++ c :: rest)) = ',' :: (lead ++ c :: rest) :=
      skipSpace_append hbefore (by decide)
    simp [hskip, hrest, hclose]

/-- Where a name follows, it is next in the object. -/
theorem nextKey_of_leads {rest : Spot} (h : Leads first text ('"' :: rest)) :
    nextKey first text = .ok (true, rest) := by
  obtain ⟨space, lead, hbefore, hlead, rfl⟩ := h
  have hrest : skipSpace (lead ++ '"' :: rest) = '"' :: rest := skipSpace_append hlead (by decide)
  unfold nextKey
  cases first with
  | true =>
    have hskip : skipSpace (space ++ (lead ++ '"' :: rest)) = '"' :: rest := by
      rw [← List.append_assoc]
      exact skipSpace_append (hbefore.append hlead) (by decide)
    simp [hskip]
  | false =>
    have hskip : skipSpace (space ++ ',' :: (lead ++ '"' :: rest)) = ',' :: (lead ++ '"' :: rest) :=
      skipSpace_append hbefore (by decide)
    simp [hskip, hrest]

/-- A bracket behind space ends an array. -/
theorem nextItem_close {space rest : Spot} (hspace : IsSpace space) :
    nextItem first (space ++ ']' :: rest) = .ok (false, rest) := by
  have hskip : skipSpace (space ++ ']' :: rest) = ']' :: rest := skipSpace_append hspace (by decide)
  simp [nextItem, hskip]

/-- A brace behind space ends an object. -/
theorem nextKey_close {space rest : Spot} (hspace : IsSpace space) :
    nextKey first (space ++ '}' :: rest) = .ok (false, rest) := by
  have hskip : skipSpace (space ++ '}' :: rest) = '}' :: rest := skipSpace_append hspace (by decide)
  simp [nextKey, hskip]

/-- Nothing but space is left before a bracket that ends an array. -/
theorem surplus_close {space rest : Spot} (hspace : IsSpace space) :
    surplus (space ++ ']' :: rest) = .ok () := by
  have hskip : skipSpace (space ++ ']' :: rest) = ']' :: rest := skipSpace_append hspace (by decide)
  unfold surplus
  rw [hskip]
  rfl

/-- Where an element follows that is not the closing bracket, an array does not end. -/
theorem surplus_of_leads {c : Char} {rest : Spot} (h : Leads first text (c :: rest))
    (hspace : ¬isSpace c) (hclose : c ≠ ']') : surplus text ≠ .ok () := by
  intro hsurplus
  unfold surplus at hsurplus
  split at hsurplus
  · cases hsurplus
  · rename_i after hskip
    have hnext := nextItem_of_leads h hspace hclose
    unfold nextItem at hnext
    rw [hskip] at hnext
    cases hnext
  · split at hsurplus <;> cases hsurplus
  · cases hsurplus

/-- A value stands behind a colon. -/
theorem afterColon_append {space rest : Spot} (hspace : IsSpace space) :
    afterColon (space ++ ':' :: rest) = .ok rest := by
  have hskip : skipSpace (space ++ ':' :: rest) = ':' :: rest := skipSpace_append hspace (by decide)
  unfold afterColon
  rw [hskip]
  rfl

end Lists

/-- Whether a text is a member of an object without the space around it. -/
def IsMember (text : List Char) (member : List Nat × Tree) : Prop :=
  ∃ name gap space body, text = '"' :: (name ++ '"' :: (gap ++ ':' :: (space ++ body))) ∧
    Body name member.1 ∧ IsSpace gap ∧ IsSpace space ∧ Denotes body member.2

/-- A value with space around it is the value between space. -/
theorem exists_of_spaced (text : List Char) (tree : Tree) (h : Spaced Denotes text tree) :
    ∃ lead body trail, IsSpace lead ∧ IsSpace trail ∧ text = lead ++ (body ++ trail) ∧
      Denotes body tree := by
  obtain ⟨hlead, hbody, htrail⟩ := h
  exact ⟨_, _, _, hlead, htrail, rfl, hbody⟩

/-- A member is the member between space. -/
theorem exists_of_member (text : List Char) (member : List Nat × Tree)
    (h : Member Denotes text member) :
    ∃ lead body trail, IsSpace lead ∧ IsSpace trail ∧ text = lead ++ (body ++ trail) ∧
      IsMember body member := by
  obtain ⟨⟨hlead, ⟨hname⟩, hgap⟩, hspace, hbody, htrail⟩ := h
  exact ⟨_, _, _, hlead, htrail, by simp, _, _, _, _, rfl, hname, hgap, hspace, hbody⟩

/-- A digit is no space. -/
theorem not_isSpace_of_isDigit {c : Char} (h : c.isDigit) : ¬isSpace c := by
  intro hspace
  simp only [isSpace, Bool.or_eq_true, beq_iff_eq] at hspace
  rcases hspace with ((rfl | rfl) | rfl) | rfl <;> cases h

/-- A number begins with a minus sign or a digit. -/
theorem IsNumber.head {lexeme : List Char} (h : IsNumber lexeme) :
    ∃ c tail, lexeme = c :: tail ∧ (c = '-' ∨ c.isDigit) := by
  obtain ⟨hsign, ⟨hne, hall⟩, -, -, -⟩ := h
  rename_i sign whole fraction exponent
  rcases hsign with rfl | rfl
  · cases whole with
    | nil => exact absurd rfl hne
    | cons c whole => exact ⟨c, _, rfl, .inr (hall c List.mem_cons_self)⟩
  · exact ⟨'-', _, rfl, .inl rfl⟩

/-- A value begins with a character that is neither space nor a closing bracket. -/
theorem Denotes.head {body : List Char} {tree : Tree} (h : Denotes body tree) :
    ∃ c tail, body = c :: tail ∧ ¬isSpace c ∧ c ≠ ']' := by
  cases h with
  | number hnumber =>
    obtain ⟨c, tail, rfl, rfl | hc⟩ := hnumber.head
    · exact ⟨'-', tail, rfl, by decide, by decide⟩
    · refine ⟨c, tail, rfl, not_isSpace_of_isDigit hc, ?_⟩
      rintro rfl
      cases hc
  | string hquoted =>
    obtain ⟨-⟩ := hquoted
    exact ⟨_, _, rfl, by decide, by decide⟩
  | _ => exact ⟨_, _, rfl, by decide, by decide⟩

/-- Whether scanned items tell what trees say, are passed over, and end with the array before a
text. -/
structure FindsItems (before : Spot) (found : List Node × Ending) (trees : List Tree) (rest : Spot) :
    Prop where
  /-- They tell what the trees say. -/
  items : List.Forall₂ Tells found.1 trees
  /-- The array ends. -/
  ending : found.2 = .ok rest
  /-- They are passed over. -/
  pass : passItems found.1 = .ok ()
  /-- The end of the array follows the last of them. -/
  ends : EndsAfter before found.1

/-- Whether scanned members tell what the members of a tree say and end with the object before a
text. -/
structure FindsMembers (found : List (Key × Node) × Ending) (trees : List (List Nat × Tree))
    (rest : Spot) : Prop where
  /-- They tell what the members say. -/
  members : List.Forall₂ TellsMember found.1 trees
  /-- The object ends. -/
  ending : found.2 = .ok rest

/-- Members that tell what the members of a tree say are passed over. -/
theorem passMembers_eq_ok {members : List (Key × Node)} {trees : List (List Nat × Tree)}
    (h : List.Forall₂ TellsMember members trees) : passMembers members = .ok () := by
  induction h with
  | nil => rw [passMembers]
  | cons hmember _ ih =>
    obtain ⟨-, -, hpass⟩ := hmember
    rw [passMembers, hpass]
    exact ih

/-- An array is found if its items are. -/
theorem FindsItems.array {inner : List Char} {found : List Node × Ending} {trees : List Tree}
    {rest : Spot} (h : FindsItems (inner ++ ']' :: rest) found trees rest) :
    Finds (.array ('[' :: (inner ++ ']' :: rest)) found.1 found.2) (.array trees) rest := by
  obtain ⟨htells, hending, hpass, hends⟩ := h
  refine ⟨?_, hending, ?_⟩
  · rw [hending]
    exact .array htells hends
  · simp only [Node.pass, hpass, hending]

/-- An object is found if its members are. -/
theorem FindsMembers.object {inner : List Char} {found : List (Key × Node) × Ending}
    {trees : List (List Nat × Tree)} {rest : Spot} (h : FindsMembers found trees rest) :
    Finds (.object ('{' :: (inner ++ '}' :: rest)) found.1 found.2) (.object trees) rest := by
  obtain ⟨htells, hending⟩ := h
  refine ⟨?_, hending, ?_⟩
  · rw [hending]
    exact .object htells
  · simp only [Node.pass, passMembers_eq_ok htells, hending]

section Fuel

variable {fuel : Nat} {rest : Spot}

/-- A value is scanned with enough fuel to a node that tells what it says, if what is inside its
brackets is. -/
theorem finds_scanValue_succ
    (hitems : ∀ inner trees rest, Inside (Spaced Denotes) true inner trees →
      2 * (inner ++ ']' :: rest).length + 1 < fuel →
        FindsItems (inner ++ ']' :: rest) (scanItems fuel true (inner ++ ']' :: rest)) trees rest)
    (hmembers : ∀ inner trees rest, Inside (Member Denotes) true inner trees →
      2 * (inner ++ '}' :: rest).length + 1 < fuel →
        FindsMembers (scanMembers fuel true (inner ++ '}' :: rest)) trees rest)
    {space body : List Char} {tree : Tree} (hspace : IsSpace space) (hbody : Denotes body tree)
    (hrest : Separates rest) (hfuel : 2 * (space ++ (body ++ rest)).length < fuel + 1) :
    Finds (scanValue (fuel + 1) (space ++ (body ++ rest))) tree rest := by
  have hskip : skipSpace (space ++ (body ++ rest)) = body ++ rest := by
    obtain ⟨c, tail, rfl, hc, -⟩ := hbody.head
    exact skipSpace_append hspace hc
  have hbracket (opening closing : Char) (inner : List Char) :
      (opening :: (inner ++ [closing])) ++ rest = opening :: (inner ++ closing :: rest) := by simp
  have hinside {opening closing : Char} {inner : List Char}
      (h : body = opening :: (inner ++ [closing])) :
      2 * (inner ++ closing :: rest).length + 1 < fuel := by
    rw [h, hbracket] at hfuel
    simp only [List.length_append, List.length_cons] at hfuel ⊢
    omega
  rw [scanValue, hskip]
  cases hbody with
  | null =>
    change Finds (scanWord .null ['u', 'l', 'l'] (['u', 'l', 'l'] ++ rest)) _ _
    rw [scanWord_append]
    exact ⟨.null, rfl, rfl⟩
  | true =>
    change Finds (scanWord (.bool true) ['r', 'u', 'e'] (['r', 'u', 'e'] ++ rest)) _ _
    rw [scanWord_append]
    exact ⟨.bool, rfl, rfl⟩
  | false =>
    change Finds (scanWord (.bool false) ['a', 'l', 's', 'e'] (['a', 'l', 's', 'e'] ++ rest)) _ _
    rw [scanWord_append]
    exact ⟨.bool, rfl, rfl⟩
  | number hnumber =>
    obtain ⟨value, hscan, hvalue⟩ := scanNumeral_append hnumber hrest
    obtain ⟨c, tail, rfl, hc⟩ := hnumber.head
    have hletter {letter : Char} (hminus : letter ≠ '-') (hdigit : letter.isDigit = false) :
        c ≠ letter := by
      rintro rfl
      rcases hc with rfl | hc
      · exact hminus rfl
      · rw [hdigit] at hc
        cases hc
    rw [List.cons_append] at hscan ⊢
    dsimp only
    rw [if_neg (hletter (by decide) rfl), if_neg (hletter (by decide) rfl),
      if_neg (hletter (by decide) rfl), if_pos hc, hscan]
    exact ⟨.number hvalue, rfl, rfl⟩
  | string hquoted =>
    obtain ⟨hbody⟩ := hquoted
    rename_i body
    obtain ⟨result, hscan, hresult⟩ := scanString_of_body hbody rest
    rw [hbracket]
    simp only [hscan]
    exact ⟨.string hresult, rfl, rfl⟩
  | emptyArray hinner =>
    rw [hbracket]
    exact (hitems _ _ rest (.inl ⟨hinner, rfl⟩) (hinside rfl)).array
  | array hinner =>
    rw [hbracket]
    exact (hitems _ _ rest (.inr hinner) (hinside rfl)).array
  | emptyObject hinner =>
    rw [hbracket]
    exact (hmembers _ _ rest (.inl ⟨hinner, rfl⟩) (hinside rfl)).object
  | object hinner =>
    rw [hbracket]
    exact (hmembers _ _ rest (.inr hinner) (hinside rfl)).object

/-- Items are scanned with enough fuel to nodes that tell what they say, if each of them and those
behind it are. -/
theorem finds_scanItems_succ
    (hvalue : ∀ body tree rest, Denotes body tree → Separates rest →
      2 * (body ++ rest).length < fuel → Finds (scanValue fuel (body ++ rest)) tree rest)
    (hitems : ∀ inner trees rest, Inside (Spaced Denotes) false inner trees →
      2 * (inner ++ ']' :: rest).length + 1 < fuel →
        FindsItems (inner ++ ']' :: rest) (scanItems fuel false (inner ++ ']' :: rest)) trees rest)
    {first : Bool} {inner : List Char} {trees : List Tree}
    (hinner : Inside (Spaced Denotes) first inner trees)
    (hfuel : 2 * (inner ++ ']' :: rest).length + 1 < fuel + 1) :
    FindsItems (inner ++ ']' :: rest) (scanItems (fuel + 1) first (inner ++ ']' :: rest)) trees
      rest := by
  cases trees with
  | nil =>
    have hspace := hinner.isSpace
    rw [scanItems, nextItem_close hspace]
    exact ⟨.nil, rfl, rfl, surplus_close hspace⟩
  | cons tree trees =>
    obtain ⟨body, more, hbody, hmore, hleads⟩ := hinner.exists_leads exists_of_spaced (']' :: rest)
    have hlength := hleads.length_le
    have hpos := hbody.length_pos
    obtain ⟨hnext, hgoesOn⟩ : nextItem first (inner ++ ']' :: rest) =
        .ok (true, body ++ (more ++ ']' :: rest)) ∧ surplus (inner ++ ']' :: rest) ≠ .ok () := by
      obtain ⟨c, tail, rfl, hc, hclose⟩ := hbody.head
      exact ⟨nextItem_of_leads hleads hc hclose, surplus_of_leads hleads hc hclose⟩
    rw [scanItems, hnext]
    simp only [List.length_append, List.length_cons] at hlength hfuel
    have hitem := hvalue _ tree (more ++ ']' :: rest) hbody (hmore.separates (.inl rfl)) (by
      simp only [List.length_append, List.length_cons]
      omega)
    have hrest := hitems more trees rest hmore (by
      simp only [List.length_append, List.length_cons]
      omega)
    dsimp only
    rw [hitem.ending]
    refine ⟨.cons hitem.tells hrest.items, hrest.ending, ?_, ?_⟩
    · rw [passItems, hitem.pass]
      exact hrest.pass
    · rw [EndsAfter, Node.after, hitem.ending]
      exact ⟨hgoesOn, hrest.ends⟩

/-- Members are scanned with enough fuel to members that tell what they say, if each value and those
behind it are. -/
theorem finds_scanMembers_succ
    (hvalue : ∀ space body tree rest, IsSpace space → Denotes body tree → Separates rest →
      2 * (space ++ (body ++ rest)).length < fuel →
        Finds (scanValue fuel (space ++ (body ++ rest))) tree rest)
    (hmembers : ∀ inner trees rest, Inside (Member Denotes) false inner trees →
      2 * (inner ++ '}' :: rest).length + 1 < fuel →
        FindsMembers (scanMembers fuel false (inner ++ '}' :: rest)) trees rest)
    {first : Bool} {inner : List Char} {trees : List (List Nat × Tree)}
    (hinner : Inside (Member Denotes) first inner trees)
    (hfuel : 2 * (inner ++ '}' :: rest).length + 1 < fuel + 1) :
    FindsMembers (scanMembers (fuel + 1) first (inner ++ '}' :: rest)) trees rest := by
  cases trees with
  | nil =>
    rw [scanMembers, nextKey_close hinner.isSpace]
    exact ⟨.nil, rfl⟩
  | cons tree trees =>
    obtain ⟨text, more, hbare, hmore, hleads⟩ := hinner.exists_leads exists_of_member ('}' :: rest)
    obtain ⟨name, gap, space, body, rfl, hname, hgap, hspace, hbody⟩ := hbare
    obtain ⟨named, tree⟩ := tree
    have hlength := hleads.length_le
    have hkeyText : '"' :: (name ++ '"' :: (gap ++ ':' :: (space ++ body))) ++ (more ++ '}' :: rest) =
        '"' :: (name ++ '"' :: (gap ++ ':' :: (space ++ (body ++ (more ++ '}' :: rest))))) := by simp
    rw [hkeyText] at hleads
    obtain ⟨key, hscan, hkey⟩ :=
      scanString_of_body hname (gap ++ ':' :: (space ++ (body ++ (more ++ '}' :: rest))))
    rw [scanMembers, nextKey_of_leads hleads]
    dsimp only
    rw [hscan]
    dsimp only
    rw [afterColon_append hgap]
    simp only [List.length_append, List.length_cons] at hlength hfuel
    have hitem := hvalue space body tree (more ++ '}' :: rest) hspace hbody
      (hmore.separates (.inr rfl)) (by
        simp only [List.length_append, List.length_cons]
        omega)
    have hrest := hmembers more trees rest hmore (by
      simp only [List.length_append, List.length_cons]
      omega)
    rw [hitem.ending]
    exact ⟨.cons (.intro hkey hitem.tells hitem.pass) hrest.members, hrest.ending⟩

/-- Enough fuel finds every value, all items and all members. -/
theorem finds_of_fuel (fuel : Nat) :
    (∀ space body tree rest, IsSpace space → Denotes body tree → Separates rest →
      2 * (space ++ (body ++ rest)).length < fuel →
        Finds (scanValue fuel (space ++ (body ++ rest))) tree rest) ∧
      (∀ first inner trees rest, Inside (Spaced Denotes) first inner trees →
        2 * (inner ++ ']' :: rest).length + 1 < fuel →
          FindsItems (inner ++ ']' :: rest) (scanItems fuel first (inner ++ ']' :: rest)) trees
            rest) ∧
      ∀ first inner trees rest, Inside (Member Denotes) first inner trees →
        2 * (inner ++ '}' :: rest).length + 1 < fuel →
          FindsMembers (scanMembers fuel first (inner ++ '}' :: rest)) trees rest := by
  induction fuel with
  | zero => simp
  | succ fuel ih =>
    obtain ⟨hvalue, hitems, hmembers⟩ := ih
    refine ⟨fun space body tree rest => ?_, fun first inner trees rest => ?_,
      fun first inner trees rest => ?_⟩
    · exact finds_scanValue_succ (hitems true) (hmembers true)
    · exact finds_scanItems_succ (fun body tree rest => hvalue [] body tree rest isSpace_nil)
        (hitems false)
    · exact finds_scanMembers_succ hvalue (hmembers false)

/-- A document is scanned to a node that tells what it says, with nothing but space behind it. -/
theorem exists_finds_of_document {text : List Char} {tree : Tree} (h : Document text tree) :
    ∃ rest, IsSpace rest ∧ Finds (scan text) tree rest := by
  obtain ⟨hbefore, hbody, hafter⟩ := h
  rename_i before body after
  refine ⟨after, hafter, (finds_of_fuel _).1 before body tree after hbefore hbody ?_ ?_⟩
  · intro c hc
    exact .inl (hafter c (List.mem_of_mem_head? hc))
  · exact Nat.lt_succ_self _

end Fuel

end NotebookLint.Json
