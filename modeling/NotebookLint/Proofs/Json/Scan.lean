import Mathlib.Data.List.Forall2
import NotebookLint.Proofs.Json.Lexeme
import NotebookLint.Proofs.Json.Strings

/-!
# What scanning finds

A scan with enough fuel does not run out of it, so that it can be described without: `Scanned` says
how a node stands to the text that it was scanned from. A node that is complete stands for a value
at the beginning of the text, and shows what the value says.

Scanning goes on behind a fault of a string or a number, so a complete node may still be refused by
a decoder; a broken one stands for no value.
-/

namespace NotebookLint.Json

mutual

/-- How a node stands to the text that it is scanned from. -/
inductive Scanned : Spot → Node → Prop where
  /-- There is no value. -/
  | broken {text : Spot} {stop : Stop} : Scanned text (.broken stop)
  /-- The constant `null`. -/
  | null {text after : Spot} (htext : skipSpace text = 'n' :: 'u' :: 'l' :: 'l' :: after) :
      Scanned text (.null after)
  /-- The constant `true`. -/
  | true {text after : Spot} (htext : skipSpace text = 't' :: 'r' :: 'u' :: 'e' :: after) :
      Scanned text (.bool true after)
  /-- The constant `false`. -/
  | false {text after : Spot} (htext : skipSpace text = 'f' :: 'a' :: 'l' :: 's' :: 'e' :: after) :
      Scanned text (.bool false after)
  /-- A number. -/
  | number {text after : Spot} {lexeme : List Char} {value : Except Fault Number}
      (htext : skipSpace text = lexeme ++ after) (hnumber : IsNumber lexeme) :
      Scanned text (.number value after)
  /-- A string. -/
  | string {text rest after : Spot} {result : Except Fault (List Char)}
      (htext : skipSpace text = '"' :: rest) (hstring : scanString rest = .ok (result, after)) :
      Scanned text (.string result after)
  /-- An array. -/
  | array {text rest : Spot} {items : List Node} {ending : Ending}
      (htext : skipSpace text = '[' :: rest) (hitems : ScannedItems true rest items ending) :
      Scanned text (.array ('[' :: rest) items ending)
  /-- An object. -/
  | object {text rest : Spot} {members : List (Key × Node)} {ending : Ending}
      (htext : skipSpace text = '{' :: rest) (hmembers : ScannedMembers true rest members ending) :
      Scanned text (.object ('{' :: rest) members ending)

/-- How the items of an array and its ending stand to the text behind its bracket, or behind an
item. -/
inductive ScannedItems : Bool → Spot → List Node → Ending → Prop where
  /-- Neither an item nor the end is there. -/
  | stop {first : Bool} {text : Spot} {stop : Stop} (hnext : nextItem first text = .error stop) :
      ScannedItems first text [] (.error stop)
  /-- The array ends. -/
  | close {first : Bool} {text after : Spot} (hnext : nextItem first text = .ok (false, after)) :
      ScannedItems first text [] (.ok after)
  /-- An item is not complete. -/
  | broken {first : Bool} {text opened : Spot} {item : Node} {stop : Stop}
      (hnext : nextItem first text = .ok (true, opened)) (hitem : Scanned opened item)
      (hending : item.ending = .error stop) : ScannedItems first text [item] (.error stop)
  /-- An item is complete, and more follows. -/
  | item {first : Bool} {text opened after : Spot} {item : Node} {items : List Node}
      {ending : Ending} (hnext : nextItem first text = .ok (true, opened))
      (hitem : Scanned opened item) (hending : item.ending = .ok after)
      (hitems : ScannedItems false after items ending) :
      ScannedItems first text (item :: items) ending

/-- How the members of an object and its ending stand to the text behind its brace, or behind a
member. Of an object that does not end nothing is said. -/
inductive ScannedMembers : Bool → Spot → List (Key × Node) → Ending → Prop where
  /-- The object does not end. -/
  | stop {first : Bool} {text : Spot} {members : List (Key × Node)} {stop : Stop} :
      ScannedMembers first text members (.error stop)
  /-- The object ends. -/
  | close {first : Bool} {text after : Spot} (hnext : nextKey first text = .ok (false, after)) :
      ScannedMembers first text [] (.ok after)
  /-- A member is complete, and more follows. -/
  | member {first : Bool} {text opened rest valueText after : Spot} {key : Except Fault (List Char)}
      {value : Node} {members : List (Key × Node)} {ending : Ending}
      (hnext : nextKey first text = .ok (true, opened))
      (hkey : scanString opened = .ok (key, rest)) (hcolon : afterColon rest = .ok valueText)
      (hvalue : Scanned valueText value) (hending : value.ending = .ok after)
      (hmembers : ScannedMembers false after members ending) :
      ScannedMembers first text ((⟨key, rest⟩, value) :: members) ending

end

mutual

/-- Whether a complete node shows what a tree says. -/
inductive Shows : Node → Tree → Prop where
  /-- The constant `null`. -/
  | null {after : Spot} : Shows (.null after) .null
  /-- A truth value. -/
  | bool {value : Bool} {after : Spot} : Shows (.bool value after) (.bool value)
  /-- A number. -/
  | number {value : Except Fault Number} {lexeme after : Spot} :
      Shows (.number value after) (.number lexeme)
  /-- A string, which has the units of its text if it has one. -/
  | string {text : Except Fault (List Char)} {named : List Nat} {after : Spot}
      (htext : ∀ chars, text = .ok chars → named = units chars) :
      Shows (.string text after) (.string named)
  /-- An array with its items. -/
  | array {start : Spot} {items : List Node} {trees : List Tree} {ending : Ending}
      (hitems : List.Forall₂ Shows items trees) : Shows (.array start items ending) (.array trees)
  /-- An object with its members. -/
  | object {start : Spot} {members : List (Key × Node)} {trees : List (List Nat × Tree)}
      {ending : Ending} (hmembers : ShowsMembers members trees) :
      Shows (.object start members ending) (.object trees)

/-- Whether members show what the members of a tree say. -/
inductive ShowsMembers : List (Key × Node) → List (List Nat × Tree) → Prop where
  /-- There are none. -/
  | nil : ShowsMembers [] []
  /-- A member, whose name has the units of its text if it has one. -/
  | cons {key : Key} {value : Node} {members : List (Key × Node)} {named : List Nat} {tree : Tree}
      {trees : List (List Nat × Tree)}
      (hkey : ∀ chars, key.text = .ok chars → named = units chars) (hvalue : Shows value tree)
      (hmembers : ShowsMembers members trees) :
      ShowsMembers ((key, value) :: members) ((named, tree) :: trees)

end

section Lists

variable {α : Type} {element : List Char → α → Prop} {first : Bool} {text : Spot}

/-- Whether a text goes on with another one behind space, with a comma in it unless the other is the
first of a list. -/
def Leads (first : Bool) (text rest : Spot) : Prop :=
  ∃ space lead, IsSpace space ∧ IsSpace lead ∧
    text = space ++ if first then lead ++ rest else ',' :: (lead ++ rest)

/-- What stands between brackets, or between an element and the closing bracket. -/
def Inside (element : List Char → α → Prop) (first : Bool) (inner : List Char) (values : List α) :
    Prop :=
  (IsSpace inner ∧ values = []) ∨
    if first then Separated element inner values
    else ∃ space more, IsSpace space ∧ inner = space ++ ',' :: more ∧ Separated element more values

/-- An element before what stands inside brackets stands inside brackets. -/
theorem Leads.inside (piece : Spot) {inner rest : Spot} {value : α} {values : List α}
    (h : Leads first text (piece ++ (inner ++ rest)))
    (helement : ∀ lead trail, IsSpace lead → IsSpace trail →
      element (lead ++ (piece ++ trail)) value)
    (hinner : Inside element false inner values) :
    ∃ outer, text = outer ++ rest ∧ Inside element first outer (value :: values) := by
  obtain ⟨space, lead, hspace, hlead, rfl⟩ := h
  have hseparated {lead : Spot} (hlead : IsSpace lead) :
      Separated element (lead ++ (piece ++ inner)) (value :: values) := by
    rcases hinner with ⟨hinner, rfl⟩ | ⟨trail, more, htrail, rfl, hmore⟩
    · exact .last (helement lead inner hlead hinner)
    · have hcons := Separated.cons (helement lead trail hlead htrail) hmore
      simpa using hcons
  cases first with
  | true =>
    refine ⟨space ++ lead ++ (piece ++ inner), by simp, .inr ?_⟩
    exact hseparated (hspace.append hlead)
  | false =>
    refine ⟨space ++ ',' :: (lead ++ (piece ++ inner)), by simp, .inr ?_⟩
    exact ⟨space, _, hspace, rfl, hseparated hlead⟩

/-- What is skipped before a character is space. -/
theorem exists_space_of_skipSpace {c : Char} {rest : Spot} (h : skipSpace text = c :: rest) :
    ∃ space, IsSpace space ∧ text = space ++ c :: rest := by
  obtain ⟨space, hspace, htext⟩ := exists_space text
  exact ⟨space, hspace, h ▸ htext⟩

/-- How a text inside brackets goes on: it ends at the closing one, or leads to an element. -/
def GoesOn (close : Char) (first : Bool) (text : Spot) : Bool → Spot → Prop
  | false, rest => ∃ space, IsSpace space ∧ text = space ++ close :: rest
  | true, rest => Leads first text rest

/-- What is next in an array is its bracket or an item. -/
theorem goesOn_of_nextItem {more : Bool} {rest : Spot}
    (h : nextItem first text = .ok (more, rest)) : GoesOn ']' first text more rest := by
  unfold nextItem at h
  split at h
  · cases h
  · rename_i c next hskip
    obtain ⟨space, hspace, rfl⟩ := exists_space_of_skipSpace hskip
    split at h
    · rename_i hclose
      obtain ⟨rfl, rfl⟩ := Prod.mk.inj (Except.ok.inj h)
      exact ⟨space, hspace, by rw [hclose]⟩
    · split at h
      · rename_i hfirst
        obtain ⟨rfl, rfl⟩ := Prod.mk.inj (Except.ok.inj h)
        exact ⟨space, [], hspace, by simp [IsSpace], by simp [hfirst]⟩
      · rename_i hfirst
        split at h
        · rename_i hcomma
          split at h
          · cases h
          · rename_i hmore
            split at h
            · cases h
            · obtain ⟨rfl, rfl⟩ := Prod.mk.inj (Except.ok.inj h)
              obtain ⟨lead, hlead, rfl⟩ := exists_space_of_skipSpace hmore
              exact ⟨space, lead, hspace, hlead, by simp [hfirst, hcomma]⟩
        · cases h

/-- What is next in an object is its brace or a name with its quote. -/
theorem goesOn_of_nextKey {more : Bool} {rest : Spot}
    (h : nextKey first text = .ok (more, rest)) :
    GoesOn '}' first text more (if more then '"' :: rest else rest) := by
  unfold nextKey at h
  split at h
  · cases h
  · rename_i c next hskip
    obtain ⟨space, hspace, rfl⟩ := exists_space_of_skipSpace hskip
    split at h
    · rename_i hclose
      obtain ⟨rfl, rfl⟩ := Prod.mk.inj (Except.ok.inj h)
      exact ⟨space, hspace, by simp [hclose]⟩
    · split at h
      · rename_i hfirst
        split at h
        · rename_i hquote
          obtain ⟨rfl, rfl⟩ := Prod.mk.inj (Except.ok.inj h)
          exact ⟨space, [], hspace, by simp [IsSpace], by simp [hfirst, hquote]⟩
        · cases h
      · rename_i hfirst
        split at h
        · rename_i hcomma
          split at h
          · cases h
          · rename_i hmore
            split at h
            · rename_i hquote
              obtain ⟨rfl, rfl⟩ := Prod.mk.inj (Except.ok.inj h)
              obtain ⟨lead, hlead, rfl⟩ := exists_space_of_skipSpace hmore
              exact ⟨space, lead, hspace, hlead, by simp [hfirst, hcomma, hquote]⟩
            · split at h <;> cases h
        · cases h

end Lists

/-- A colon stands behind space. -/
theorem exists_space_of_afterColon {text rest : Spot} (h : afterColon text = .ok rest) :
    ∃ space, IsSpace space ∧ text = space ++ ':' :: rest := by
  unfold afterColon at h
  split at h
  · rename_i hskip
    obtain rfl := Except.ok.inj h
    exact exists_space_of_skipSpace hskip
  · cases h
  · cases h

/-- Whether a text begins with a value, behind space, that a node shows. -/
def Begins (text : Spot) (node : Node) (after : Spot) : Prop :=
  ∃ space body tree, IsSpace space ∧ text = space ++ (body ++ after) ∧ Denotes body tree ∧
    Shows node tree

/-- A node shows the value that a text begins with from its first character on. -/
theorem begins_of_skipSpace {text rest body after : Spot} {node : Node} {tree : Tree}
    (htext : skipSpace text = rest) (hrest : rest = body ++ after) (hbody : Denotes body tree)
    (hshows : Shows node tree) : Begins text node after := by
  obtain ⟨space, hspace, hsplit⟩ := exists_space text
  exact ⟨space, body, tree, hspace, by rw [hsplit, htext, hrest], hbody, hshows⟩

/-- A value stands for what it says with more space around it. -/
theorem spaced_padded {space body : List Char} {tree : Tree} (hspace : IsSpace space)
    (hbody : Denotes body tree) (lead trail : List Char) (hlead : IsSpace lead)
    (htrail : IsSpace trail) : Spaced Denotes (lead ++ ((space ++ body) ++ trail)) tree := by
  have hspaced := Spaced.intro (hlead.append hspace) hbody htrail
  simpa using hspaced

/-- A member stands for what its name and its value stand for, with space around it. -/
theorem member_padded {body gap text : List Char} {named : List Nat} {tree : Tree}
    (hbody : Body body named) (hgap : IsSpace gap) {space : List Char} (hspace : IsSpace space)
    (htext : Denotes text tree) (lead trail : List Char) (hlead : IsSpace lead)
    (htrail : IsSpace trail) :
    Member Denotes
      (lead ++ (('"' :: (body ++ '"' :: (gap ++ ':' :: (space ++ text)))) ++ trail))
      (named, tree) := by
  have hmember := Member.intro (.intro hlead (.intro hbody) hgap) (.intro hspace htext htrail)
  simpa using hmember

mutual

/-- A complete node shows the value at the beginning of the text that it was scanned from. -/
theorem Scanned.begins {text after : Spot} {node : Node} (h : Scanned text node)
    (hending : node.ending = .ok after) : Begins text node after := by
  cases h with
  | broken => cases hending
  | null htext =>
    obtain rfl := Except.ok.inj hending
    exact begins_of_skipSpace htext rfl .null .null
  | true htext =>
    obtain rfl := Except.ok.inj hending
    exact begins_of_skipSpace htext rfl .true .bool
  | false htext =>
    obtain rfl := Except.ok.inj hending
    exact begins_of_skipSpace htext rfl .false .bool
  | number htext hnumber =>
    obtain rfl := Except.ok.inj hending
    exact begins_of_skipSpace htext rfl (.number hnumber) .number
  | string htext hstring =>
    obtain rfl := Except.ok.inj hending
    obtain ⟨body, named, rfl, hbody, hunits⟩ := exists_body_of_scanString hstring
    exact begins_of_skipSpace htext (by simp) (.string (.intro hbody)) (.string hunits)
  | array htext hitems =>
    obtain rfl : _ = Except.ok after := hending
    obtain ⟨inner, trees, rfl, hinner, hshows⟩ := hitems.exists_values
    rcases hinner with ⟨hinner, rfl⟩ | hinner
    · exact begins_of_skipSpace htext (by simp) (.emptyArray hinner) (.array hshows)
    · exact begins_of_skipSpace htext (by simp) (.array hinner) (.array hshows)
  | object htext hmembers =>
    obtain rfl : _ = Except.ok after := hending
    obtain ⟨inner, trees, rfl, hinner, hshows⟩ := hmembers.exists_members
    rcases hinner with ⟨hinner, rfl⟩ | hinner
    · exact begins_of_skipSpace htext (by simp) (.emptyObject hinner) (.object hshows)
    · exact begins_of_skipSpace htext (by simp) (.object hinner) (.object hshows)

/-- The items of an array that ends show the values up to its bracket. -/
theorem ScannedItems.exists_values {first : Bool} {text after : Spot} {items : List Node}
    (h : ScannedItems first text items (.ok after)) :
    ∃ inner trees, text = inner ++ ']' :: after ∧ Inside (Spaced Denotes) first inner trees ∧
      List.Forall₂ Shows items trees := by
  cases h with
  | close hnext =>
    obtain ⟨space, hspace, rfl⟩ := goesOn_of_nextItem hnext
    exact ⟨space, [], rfl, .inl ⟨hspace, rfl⟩, .nil⟩
  | item hnext hitem hending hitems =>
    obtain ⟨space, body, tree, hspace, rfl, hbody, hshows⟩ := hitem.begins hending
    obtain ⟨inner, trees, rfl, hinner, hshowsItems⟩ := hitems.exists_values
    have hleads : Leads first text _ := goesOn_of_nextItem hnext
    obtain ⟨outer, rfl, houter⟩ :=
      Leads.inside (space ++ body) (by simpa using hleads) (spaced_padded hspace hbody) hinner
    exact ⟨outer, tree :: trees, rfl, houter, .cons hshows hshowsItems⟩

/-- The members of an object that ends show the members up to its brace. -/
theorem ScannedMembers.exists_members {first : Bool} {text after : Spot} {members : List (Key × Node)}
    (h : ScannedMembers first text members (.ok after)) :
    ∃ inner trees, text = inner ++ '}' :: after ∧ Inside (Member Denotes) first inner trees ∧
      ShowsMembers members trees := by
  cases h with
  | close hnext =>
    obtain ⟨space, hspace, rfl⟩ := goesOn_of_nextKey hnext
    exact ⟨space, [], rfl, .inl ⟨hspace, rfl⟩, .nil⟩
  | member hnext hkey hcolon hvalue hending hmembers =>
    obtain ⟨name, named, rfl, hname, hunits⟩ := exists_body_of_scanString hkey
    obtain ⟨gap, hgap, rfl⟩ := exists_space_of_afterColon hcolon
    obtain ⟨space, body, tree, hspace, rfl, hbody, hshows⟩ := hvalue.begins hending
    obtain ⟨inner, trees, rfl, hinner, hshowsMembers⟩ := hmembers.exists_members
    have hleads : Leads first text ('"' :: _) := goesOn_of_nextKey hnext
    obtain ⟨outer, rfl, houter⟩ :=
      Leads.inside _ (by simpa using hleads) (member_padded hname hgap hspace hbody) hinner
    exact ⟨outer, (named, tree) :: trees, rfl, houter, .cons hunits hshows hshowsMembers⟩

end

/-- A value has a character. -/
theorem Denotes.length_pos {text : List Char} {tree : Tree} (h : Denotes text tree) :
    0 < text.length := by
  cases h with
  | number hnumber =>
    obtain ⟨-, ⟨hwhole, -⟩, -, -, -⟩ := hnumber
    have := List.length_pos_of_ne_nil hwhole
    simp only [List.length_append]
    omega
  | string hquoted =>
    obtain ⟨-⟩ := hquoted
    simp
  | _ => simp

/-- A complete node takes a character at least. -/
theorem Scanned.length_lt {text after : Spot} {node : Node} (h : Scanned text node)
    (hending : node.ending = .ok after) : after.length < text.length := by
  obtain ⟨space, body, tree, -, rfl, hbody, -⟩ := h.begins hending
  have := hbody.length_pos
  simp only [List.length_append]
  omega

/-- A text that another leads to is not longer. -/
theorem Leads.length_le {first : Bool} {text rest : Spot} (h : Leads first text rest) :
    rest.length ≤ text.length := by
  obtain ⟨space, lead, -, -, rfl⟩ := h
  cases first <;> simp <;> omega

section Fuel

variable {fuel : Nat} {text : Spot}

/-- A value that is scanned with enough fuel stands to its text as it should, if what is inside its
brackets does. -/
theorem scanned_scanValue_succ
    (hitems : ∀ text, 2 * text.length + 1 < fuel →
      ScannedItems true text (scanItems fuel true text).1 (scanItems fuel true text).2)
    (hmembers : ∀ text, 2 * text.length + 1 < fuel →
      ScannedMembers true text (scanMembers fuel true text).1 (scanMembers fuel true text).2)
    (hfuel : 2 * text.length < fuel + 1) : Scanned text (scanValue (fuel + 1) text) := by
  have hword {node : Spot → Node} {letters rest : Spot}
      (hnode : ∀ after, rest = letters ++ after → Scanned text (node after)) :
      Scanned text (scanWord node letters rest) := by
    rcases scanWord_cases node letters rest with ⟨after, hrest, heq⟩ | ⟨stop, heq⟩
    · rw [heq]
      exact hnode after hrest
    · rw [heq]
      exact .broken
  rw [scanValue]
  split
  · exact .broken
  · rename_i c rest hskip
    have hlength : rest.length < text.length := by
      have hle := (skipSpace_suffix text).length_le
      rw [hskip, List.length_cons] at hle
      omega
    by_cases hn : c = 'n'
    · rw [if_pos hn]
      exact hword fun after hrest => .null (by rw [hskip, hn, hrest]; rfl)
    rw [if_neg hn]
    by_cases ht : c = 't'
    · rw [if_pos ht]
      exact hword fun after hrest => .true (by rw [hskip, ht, hrest]; rfl)
    rw [if_neg ht]
    by_cases hf : c = 'f'
    · rw [if_pos hf]
      exact hword fun after hrest => .false (by rw [hskip, hf, hrest]; rfl)
    rw [if_neg hf]
    split
    · rw [scanNumeral]
      split
      · rename_i hnumber
        obtain ⟨lexeme, hlexeme, hrest⟩ := exists_number hnumber
        exact .number (hskip.trans hrest) hlexeme
      · exact .broken
    · split
      · rename_i hquote
        split
        · rename_i hstring
          exact .string (by rw [hskip, hquote]) hstring
        · exact .broken
      · split
        · rename_i hbracket
          subst hbracket
          exact .array hskip (hitems rest (by omega))
        · split
          · rename_i hbrace
            subst hbrace
            exact .object hskip (hmembers rest (by omega))
          · exact .broken

/-- Items that are scanned with enough fuel stand to their text as they should, if each of them and
those behind it do. -/
theorem scannedItems_scanItems_succ
    (hvalue : ∀ text, 2 * text.length < fuel → Scanned text (scanValue fuel text))
    (hitems : ∀ text, 2 * text.length + 1 < fuel →
      ScannedItems false text (scanItems fuel false text).1 (scanItems fuel false text).2)
    {first : Bool} (hfuel : 2 * text.length + 1 < fuel + 1) :
    ScannedItems first text (scanItems (fuel + 1) first text).1
      (scanItems (fuel + 1) first text).2 := by
  rw [scanItems]
  split
  · rename_i hnext
    exact .stop hnext
  · rename_i hnext
    exact .close hnext
  · rename_i opened hnext
    have hleads : Leads first text opened := goesOn_of_nextItem hnext
    have hle := hleads.length_le
    have hitem := hvalue opened (by omega)
    dsimp only
    split
    · rename_i hending
      exact .broken hnext hitem hending
    · rename_i after hending
      have hlt := hitem.length_lt hending
      exact .item hnext hitem hending (hitems after (by omega))

/-- Members that are scanned with enough fuel stand to their text as they should, if each value and
those behind it do. -/
theorem scannedMembers_scanMembers_succ
    (hvalue : ∀ text, 2 * text.length < fuel → Scanned text (scanValue fuel text))
    (hmembers : ∀ text, 2 * text.length + 1 < fuel →
      ScannedMembers false text (scanMembers fuel false text).1 (scanMembers fuel false text).2)
    {first : Bool} (hfuel : 2 * text.length + 1 < fuel + 1) :
    ScannedMembers first text (scanMembers (fuel + 1) first text).1
      (scanMembers (fuel + 1) first text).2 := by
  rw [scanMembers]
  split
  · exact .stop
  · rename_i hnext
    exact .close hnext
  · rename_i opened hnext
    have hleads : Leads first text ('"' :: opened) := goesOn_of_nextKey hnext
    have hle := hleads.length_le
    rw [List.length_cons] at hle
    split
    · exact .stop
    · rename_i key rest hkey
      obtain ⟨body, -, hopened, -, -⟩ := exists_body_of_scanString hkey
      have hrest : rest.length < opened.length := by
        rw [hopened, List.length_append, List.length_cons]
        omega
      dsimp only
      split
      · exact .stop
      · rename_i after hending
        split at hending
        · rename_i valueText hcolon
          obtain ⟨gap, -, hgap⟩ := exists_space_of_afterColon hcolon
          have hvalueText : valueText.length < rest.length := by
            rw [hgap, List.length_append, List.length_cons]
            omega
          have hscanned := hvalue valueText (by omega)
          have hlt := hscanned.length_lt hending
          exact .member hnext hkey hcolon hscanned hending (hmembers after (by omega))
        · cases hending

/-- Enough fuel does not run out. -/
theorem scanned_of_fuel (fuel : Nat) :
    (∀ text, 2 * text.length < fuel → Scanned text (scanValue fuel text)) ∧
      (∀ first text, 2 * text.length + 1 < fuel →
        ScannedItems first text (scanItems fuel first text).1 (scanItems fuel first text).2) ∧
      ∀ first text, 2 * text.length + 1 < fuel →
        ScannedMembers first text (scanMembers fuel first text).1
          (scanMembers fuel first text).2 := by
  induction fuel with
  | zero => simp
  | succ fuel ih =>
    obtain ⟨hvalue, hitems, hmembers⟩ := ih
    refine ⟨fun text => ?_, fun first text => ?_, fun first text => ?_⟩
    · exact scanned_scanValue_succ (hitems true) (hmembers true)
    · exact scannedItems_scanItems_succ hvalue (hitems false)
    · exact scannedMembers_scanMembers_succ hvalue (hmembers false)

/-- A text is scanned with enough fuel. -/
theorem scanned_scan (text : List Char) : Scanned text (scan text) :=
  (scanned_of_fuel _).1 text (Nat.lt_succ_self _)

end Fuel

end NotebookLint.Json
