import NotebookLint.Proofs.Literal.Number
import NotebookLint.Proofs.Literal.Quoted

/-!
# Reading accepts exactly the grammar

A reader `Reads` a relation if what it reads is related and what is related is read, up to any text
that may come after a value. The readers of items, of pairs and of bracketed literals read their
relations whenever the reader of the values inside does, so that the reader of values reads `Expr`
by induction on the number of brackets that may be open.
-/

namespace NotebookLint.Literal

open NotebookLint.Text

/-- What ties a reader of values to a relation between texts and values. -/
structure Reads (reader : List Char → Step Value) (element : List Char → Value → Prop) : Prop where
  /-- The reader passes over blanks. -/
  skips : ∀ text, reader (skipBlanks text) = reader text
  /-- What is read is related to its value. -/
  sound : ∀ {text rest value}, reader text = .ok (value, rest) →
    ∃ body, skipBlanks text = body ++ rest ∧ element body value
  /-- A related text is read to its end. -/
  complete : ∀ {body rest value}, element body value → EndsValue rest →
    reader (body ++ rest) = .ok (value, rest)
  /-- A related text begins neither with a blank nor with a separator. -/
  begins : ∀ {body value}, element body value →
    ∃ c rest, body = c :: rest ∧ isBlank c = false ∧ isSeparator c = false

section Inside

variable {reader : List Char → Step Value} {element : List Char → Value → Prop}

/-- Blanks before a related text are all that is skipped. -/
theorem Reads.skipBlanks_body (h : Reads reader element) {body : List Char} {value : Value}
    (hbody : element body value) (rest : List Char) : skipBlanks (body ++ rest) = body ++ rest := by
  obtain ⟨c, tail, rfl, hc, -⟩ := h.begins hbody
  exact skipBlanks_cons_of_not_isBlank hc _

/-- A value with blanks around it is read up to the separator after it, and does not begin with
one. -/
theorem Reads.spaced (h : Reads reader element) {text : List Char} {value : Value}
    (hspaced : Spaced element text value) {c : Char} (hc : isSeparator c) (rest : List Char) :
    ∃ after, reader (text ++ c :: rest) = .ok (value, after) ∧ skipBlanks after = c :: rest ∧
      ∀ d ∈ (skipBlanks (text ++ c :: rest)).head?, isSeparator d = false := by
  obtain ⟨hbefore, hbody, hafter⟩ := hspaced
  rename_i before body after
  have hskip : skipBlanks (before ++ (body ++ after) ++ c :: rest) = body ++ (after ++ c :: rest) := by
    rw [List.append_assoc, List.append_assoc, skipBlanks_append hbefore, h.skipBlanks_body hbody]
  refine ⟨after ++ c :: rest, ?_, ?_, ?_⟩
  · rw [← h.skips, hskip, h.complete hbody (endsValue_separator hafter hc rest)]
  · rw [skipBlanks_append hafter, skipBlanks_cons_of_not_isBlank (not_isBlank_of_isSeparator hc)]
  · rw [hskip]
    obtain ⟨d, tail, rfl, -, hd⟩ := h.begins hbody
    exact fun e he => Option.some.inj he ▸ hd

/-- What is read, with the blanks around it, is a value with blanks around it. -/
theorem Reads.spaced_of_ok (h : Reads reader element) {text after rest : List Char} {value : Value}
    (hread : reader text = .ok (value, after)) (hafter : skipBlanks after = rest) :
    ∃ spaced, text = spaced ++ rest ∧ Spaced element spaced value := by
  obtain ⟨body, hbody, helement⟩ := h.sound hread
  obtain ⟨before, hbefore, htext⟩ := exists_gap text
  obtain ⟨gap, hgap, hrest⟩ := exists_gap after
  refine ⟨before ++ (body ++ gap), ?_, .intro hbefore helement hgap⟩
  rw [htext, hbody, hrest, hafter]
  simp

/-- Where no bracket closes, an item is read first. -/
theorem readItems_item (h : Reads reader element) {close : Char} (hclose : isSeparator close)
    {text : List Char} (hhead : ∀ d ∈ (skipBlanks text).head?, isSeparator d = false) {item : Value}
    {after rest : List Char} {c : Char} (hread : reader text = .ok (item, after))
    (hafter : skipBlanks after = c :: rest) (fuel : Nat) (comma : Bool) :
    readItems reader close (fuel + 1) comma text =
      if c = ',' then
        match readItems reader close fuel true rest with
        | .ok ((items, trailing), rest) => .ok ((item :: items, trailing), rest)
        | .error fault => .error fault
      else if c = close then .ok (([item], false), rest)
      else .error ⟨c :: rest, .itemNotSeparated close⟩ := by
  have hopen : (skipBlanks text).head? ≠ some close := fun heq => by
    simpa [hclose] using hhead close heq
  have hitems := readItems.eq_def reader close (fuel + 1) comma text
  simp only [hopen, if_false, h.skips, hread, hafter] at hitems
  exact hitems

/-- Items are read to the closing bracket. -/
theorem readItems_of_items (h : Reads reader element) {close : Char} (hclose : isSeparator close)
    (hcomma : close ≠ ',') {body : List Char} {items : List Value} {trailing : Bool}
    (hitems : Items element body items trailing) {fuel : Nat} (hfuel : body.length < fuel)
    (comma : Bool) (rest : List Char) :
    readItems reader close fuel comma (body ++ close :: rest) =
      .ok ((items, if items.isEmpty then comma else trailing), rest) := by
  induction hitems generalizing fuel comma with
  | nil hgap =>
    obtain ⟨fuel, rfl⟩ := Nat.exists_eq_succ_of_ne_zero (Nat.ne_zero_of_lt hfuel)
    rw [readItems, skipBlanks_append hgap,
      skipBlanks_cons_of_not_isBlank (not_isBlank_of_isSeparator hclose)]
    simp
  | last hitem =>
    obtain ⟨fuel, rfl⟩ := Nat.exists_eq_succ_of_ne_zero (Nat.ne_zero_of_lt hfuel)
    obtain ⟨after, hread, hafter, hhead⟩ := h.spaced hitem hclose rest
    rw [readItems_item h hclose hhead hread hafter, if_neg hcomma, if_pos rfl]
    rfl
  | @cons text more item items trailing hitem hmore ih =>
    obtain ⟨fuel, rfl⟩ := Nat.exists_eq_succ_of_ne_zero (Nat.ne_zero_of_lt hfuel)
    have hlength : more.length < fuel := by
      simp only [List.length_append, List.length_cons] at hfuel
      omega
    rw [List.append_assoc, List.cons_append]
    obtain ⟨after, hread, hafter, hhead⟩ := h.spaced hitem (c := ',') rfl (more ++ close :: rest)
    rw [readItems_item h hclose hhead hread hafter, if_pos rfl, ih hlength]
    cases items <;> simp

/-- What is read up to a closing bracket is items. -/
theorem items_of_readItems (h : Reads reader element) {close : Char} {fuel : Nat} {comma trailing : Bool}
    {text rest : List Char} {items : List Value}
    (hread : readItems reader close fuel comma text = .ok ((items, trailing), rest)) :
    ∃ body, text = body ++ close :: rest ∧ ∃ last, Items element body items last ∧
      trailing = if items.isEmpty then comma else last := by
  induction fuel generalizing comma text items trailing with
  | zero => cases hread
  | succ fuel ih =>
    obtain ⟨gap, hgap, htext⟩ := exists_gap text
    rw [readItems] at hread
    split at hread
    · rename_i hhead
      obtain ⟨htrailing, rfl⟩ := Prod.mk.inj (Except.ok.inj hread)
      obtain ⟨rfl, rfl⟩ := Prod.mk.inj htrailing
      obtain ⟨tail, hskip⟩ := List.head?_eq_some_iff.mp hhead
      rw [hskip] at htext ⊢
      exact ⟨gap, htext, false, .nil hgap, rfl⟩
    · split at hread
      · cases hread
      · rename_i item after hitem
        rw [h.skips] at hitem
        split at hread
        · cases hread
        · rename_i c tail hafter
          obtain ⟨spaced, hspaced, hvalue⟩ := h.spaced_of_ok hitem hafter
          split at hread
          · rename_i hcomma
            split at hread
            · rename_i more last rest' hmore
              obtain ⟨htrailing, rfl⟩ := Prod.mk.inj (Except.ok.inj hread)
              obtain ⟨rfl, rfl⟩ := Prod.mk.inj htrailing
              obtain ⟨body, rfl, found, hitems, rfl⟩ := ih hmore
              refine ⟨spaced ++ ',' :: body, by simp [hspaced, hcomma], _, .cons hvalue hitems, ?_⟩
              cases more <;> simp
            · cases hread
          · split at hread
            · rename_i hclose
              obtain ⟨htrailing, rfl⟩ := Prod.mk.inj (Except.ok.inj hread)
              obtain ⟨rfl, rfl⟩ := Prod.mk.inj htrailing
              exact ⟨spaced, hclose ▸ hspaced, false, .last hvalue, rfl⟩
            · cases hread

/-- When a key with its colon is read. -/
theorem readKey_eq_ok_iff {text rest : List Char} {key : String} :
    readKey reader text = .ok (key, rest) ↔
      ∃ after, reader text = .ok (.text key, after) ∧ skipBlanks after = ':' :: rest := by
  rw [readKey]
  constructor
  · intro h
    split at h
    · cases h
    · rename_i found after hfound
      split at h
      · rename_i hafter
        obtain ⟨rfl, rfl⟩ := Prod.mk.inj (Except.ok.inj h)
        exact ⟨after, hfound, hafter⟩
      all_goals cases h
    · cases h
  · rintro ⟨after, hread, hafter⟩
    simp only [hread, hafter]

/-- Where no brace closes, a pair is read first. -/
theorem readPairs_pair (h : Reads reader element) {text : List Char}
    (hhead : ∀ d ∈ (skipBlanks text).head?, isSeparator d = false) {key : String} {value : Value}
    {afterKey valueText after : List Char} (hkey : reader text = .ok (.text key, afterKey))
    (hcolon : skipBlanks afterKey = ':' :: valueText) (hvalue : reader valueText = .ok (value, after))
    (fuel : Nat) :
    readPairs reader (fuel + 1) text =
      match skipBlanks after with
      | ',' :: rest =>
        match readPairs reader fuel rest with
        | .ok (pairs, rest) => .ok ((key, value) :: pairs, rest)
        | .error fault => .error fault
      | '}' :: rest => .ok ([(key, value)], rest)
      | rest => .error ⟨rest, .itemNotSeparated '}'⟩ := by
  have hopen : (skipBlanks text).head? ≠ some '}' := fun heq => by
    simpa [isSeparator] using hhead '}' heq
  have hread : readKey reader (skipBlanks text) = .ok (key, valueText) :=
    readKey_eq_ok_iff.mpr ⟨afterKey, by rw [h.skips, hkey], hcolon⟩
  have hpairs := readPairs.eq_def reader (fuel + 1) text
  simp only [hopen, if_false, hread, hvalue] at hpairs
  exact hpairs

/-- Pairs are read to the closing brace. -/
theorem readPairs_of_pairs (h : Reads reader element) {body : List Char}
    {pairs : List (String × Value)} (hpairs : Pairs element body pairs) {fuel : Nat}
    (hfuel : body.length < fuel) (rest : List Char) :
    readPairs reader fuel (body ++ '}' :: rest) = .ok (pairs, rest) := by
  induction hpairs generalizing fuel with
  | nil hgap =>
    obtain ⟨fuel, rfl⟩ := Nat.exists_eq_succ_of_ne_zero (Nat.ne_zero_of_lt hfuel)
    rw [readPairs, skipBlanks_append hgap, skipBlanks_cons_of_not_isBlank rfl]
    simp
  | @last keyText text key value hkey hvalue =>
    obtain ⟨fuel, rfl⟩ := Nat.exists_eq_succ_of_ne_zero (Nat.ne_zero_of_lt hfuel)
    rw [List.append_assoc, List.cons_append]
    obtain ⟨afterKey, hreadKey, hcolon, hhead⟩ := h.spaced hkey (c := ':') rfl (text ++ '}' :: rest)
    obtain ⟨after, hread, hafter, -⟩ := h.spaced hvalue (c := '}') rfl rest
    rw [readPairs_pair h hhead hreadKey hcolon hread, hafter]
    rfl
  | @cons keyText text more key value pairs hkey hvalue hmore ih =>
    obtain ⟨fuel, rfl⟩ := Nat.exists_eq_succ_of_ne_zero (Nat.ne_zero_of_lt hfuel)
    have hlength : more.length < fuel := by
      simp only [List.length_append, List.length_cons] at hfuel
      omega
    rw [List.append_assoc, List.cons_append, List.append_assoc, List.cons_append]
    obtain ⟨afterKey, hreadKey, hcolon, hhead⟩ :=
      h.spaced hkey (c := ':') rfl (text ++ ',' :: (more ++ '}' :: rest))
    obtain ⟨after, hread, hafter, -⟩ := h.spaced hvalue (c := ',') rfl (more ++ '}' :: rest)
    rw [readPairs_pair h hhead hreadKey hcolon hread, hafter]
    simp only [ih hlength]

/-- What is read up to a closing brace is pairs. -/
theorem pairs_of_readPairs (h : Reads reader element) {fuel : Nat} {text rest : List Char}
    {pairs : List (String × Value)} (hread : readPairs reader fuel text = .ok (pairs, rest)) :
    ∃ body, text = body ++ '}' :: rest ∧ Pairs element body pairs := by
  induction fuel generalizing text pairs with
  | zero => cases hread
  | succ fuel ih =>
    obtain ⟨gap, hgap, htext⟩ := exists_gap text
    rw [readPairs] at hread
    split at hread
    · rename_i hhead
      obtain ⟨rfl, rfl⟩ := Prod.mk.inj (Except.ok.inj hread)
      obtain ⟨tail, hskip⟩ := List.head?_eq_some_iff.mp hhead
      rw [hskip] at htext ⊢
      exact ⟨gap, htext, .nil hgap⟩
    · split at hread
      · cases hread
      · rename_i key valueText hkey
        obtain ⟨afterKey, hkey, hcolon⟩ := readKey_eq_ok_iff.mp hkey
        rw [h.skips] at hkey
        obtain ⟨keySpaced, hkeySpaced, hkeyDenotes⟩ := h.spaced_of_ok hkey hcolon
        split at hread
        · cases hread
        · rename_i value after hvalue
          split at hread
          · rename_i rest' hafter
            obtain ⟨spaced, hspaced, hdenotes⟩ := h.spaced_of_ok hvalue hafter
            split at hread
            · rename_i more rest'' hmore
              obtain ⟨rfl, rfl⟩ := Prod.mk.inj (Except.ok.inj hread)
              obtain ⟨body, rfl, hpairs⟩ := ih hmore
              exact ⟨keySpaced ++ ':' :: (spaced ++ ',' :: body), by simp [hkeySpaced, hspaced],
                .cons hkeyDenotes hdenotes hpairs⟩
            · cases hread
          · rename_i rest' hafter
            obtain ⟨rfl, rfl⟩ := Prod.mk.inj (Except.ok.inj hread)
            obtain ⟨spaced, hspaced, hdenotes⟩ := h.spaced_of_ok hvalue hafter
            exact ⟨keySpaced ++ ':' :: spaced, by simp [hkeySpaced, hspaced], .last hkeyDenotes hdenotes⟩
          · cases hread

/-- A bracketed literal is read to its closing bracket. -/
theorem readBracketed_of_bracketed (h : Reads reader element) {text : List Char} {value : Value}
    (hbracketed : Bracketed element text value) (rest : List Char) :
    readBracketed reader (text ++ rest) = .ok (value, rest) := by
  have hfuel (body : List Char) (close : Char) : body.length < (body ++ close :: rest).length + 1 := by
    simp only [List.length_append, List.length_cons]
    omega
  cases hbracketed with
  | list hitems =>
    simp only [List.cons_append, List.append_assoc, List.nil_append, readBracketed]
    rw [readItems_of_items h rfl (by decide) hitems (hfuel _ _)]
  | group hitems =>
    simp only [List.cons_append, List.append_assoc, List.nil_append, readBracketed]
    rw [readItems_of_items h rfl (by decide) hitems (hfuel _ _)]
    rfl
  | @tuple body items trailing hitems hmany =>
    simp only [List.cons_append, List.append_assoc, List.nil_append, readBracketed]
    rw [readItems_of_items h rfl (by decide) hitems (hfuel _ _)]
    match items, hmany with
    | [], _ => rfl
    | [item], hmany => rw [hmany rfl]; rfl
    | _ :: _ :: _, _ => rfl
  | dict hpairs hentries =>
    obtain rfl := Entries.settles_iff.mp hentries
    simp only [List.cons_append, List.append_assoc, List.nil_append, readBracketed]
    rw [readPairs_of_pairs h hpairs (hfuel _ _)]

/-- What is read where a bracket opens is a bracketed literal. -/
theorem bracketed_of_readBracketed (h : Reads reader element) {text rest : List Char} {value : Value}
    (hread : readBracketed reader text = .ok (value, rest)) :
    ∃ body, text = body ++ rest ∧ Bracketed element body value := by
  unfold readBracketed at hread
  split at hread
  · split at hread
    · rename_i hitems
      obtain ⟨rfl, rfl⟩ := Prod.mk.inj (Except.ok.inj hread)
      obtain ⟨body, rfl, trailing, hbody, -⟩ := items_of_readItems h hitems
      exact ⟨'[' :: (body ++ [']']), by simp, .list hbody⟩
    · cases hread
  · split at hread
    · rename_i hitems
      obtain ⟨rfl, rfl⟩ := Prod.mk.inj (Except.ok.inj hread)
      obtain ⟨body, rfl, trailing, hbody, hlast⟩ := items_of_readItems h hitems
      obtain rfl : trailing = false := by simpa using hlast.symm
      exact ⟨'(' :: (body ++ [')']), by simp, .group hbody⟩
    · rename_i hmany hitems
      obtain ⟨rfl, rfl⟩ := Prod.mk.inj (Except.ok.inj hread)
      obtain ⟨body, rfl, trailing, hbody, hlast⟩ := items_of_readItems h hitems
      refine ⟨'(' :: (body ++ [')']), by simp, .tuple hbody fun hone => ?_⟩
      obtain ⟨item, rfl⟩ := List.length_eq_one_iff.mp hone
      cases trailing with
      | true => rfl
      | false => exact absurd hlast (hmany item rfl)
    · cases hread
  · split at hread
    · rename_i hpairs
      obtain ⟨rfl, rfl⟩ := Prod.mk.inj (Except.ok.inj hread)
      obtain ⟨body, rfl, hbody⟩ := pairs_of_readPairs h hpairs
      exact ⟨'{' :: (body ++ ['}']), by simp, .dict hbody (Entries.settles_ofList _)⟩
    · cases hread
  · cases hread

end Inside

/-- Whether a value can begin with a character. -/
def beginsValue (c : Char) : Bool :=
  isOpening c || isQuote c || c == '-' || c == '+' || beginsNumber c || beginsWord c

/-- No value begins with a delimiter. -/
theorem beginsValue_of_isDelimiter {c : Char} (hc : isDelimiter c) : beginsValue c = false := by
  have hall : ∀ d ∈ delimiters, beginsValue d = false :=
    List.all_iff_forall_prop.mp (by decide +kernel)
  exact hall c (mem_delimiters hc)

section Dispatch

variable (bracketed : List Char → Step Value) {c : Char} (rest : List Char)

/-- A value is read from the character on with which it begins. -/
theorem skipBlanks_of_beginsValue {c : Char} (hc : beginsValue c) (rest : List Char) :
    skipBlanks (c :: rest) = c :: rest := by
  refine skipBlanks_cons_of_not_isBlank (Bool.eq_false_iff.mpr fun hblank => ?_) rest
  simp [beginsValue_of_isDelimiter (c := c) (by simp [isDelimiter, hblank])] at hc

/-- Where a bracket opens, the reader of brackets decides. -/
theorem readWith_opening (hc : isOpening c) :
    readWith bracketed (c :: rest) = bracketed (c :: rest) := by
  rw [readWith, skipBlanks_of_beginsValue (by simp [beginsValue, hc])]
  simp only [hc, if_true]

/-- Where a quote opens, strings are read. -/
theorem readWith_quote (hc : isQuote c) :
    readWith bracketed (c :: rest) = textStep (readStrings (c :: rest)) := by
  have hopening : isOpening c = false := by rcases (isQuote_iff c).mp hc with rfl | rfl <;> rfl
  rw [readWith, skipBlanks_of_beginsValue (by simp [beginsValue, hc])]
  simp only [hopening, hc, Bool.false_eq_true, if_false, if_true]

/-- After a sign a number is read. -/
theorem readWith_sign (hc : c = '+' ∨ c = '-') :
    readWith bracketed (c :: rest) = readSigned (c == '-') rest := by
  rcases hc with rfl | rfl <;> rfl

/-- A number is read where one begins. -/
theorem readWith_number (hc : beginsNumber c) :
    readWith bracketed (c :: rest) = readNumber false (c :: rest) := by
  have hopening : isOpening c = false := Bool.eq_false_iff.mpr fun h => by
    rcases (isOpening_iff c).mp h with rfl | rfl | rfl <;> exact absurd hc (by decide)
  have hquote : isQuote c = false := Bool.eq_false_iff.mpr fun h => by
    rcases (isQuote_iff c).mp h with rfl | rfl <;> exact absurd hc (by decide)
  have hminus : c ≠ '-' := fun h => absurd (h ▸ hc) (by decide)
  have hplus : c ≠ '+' := fun h => absurd (h ▸ hc) (by decide)
  rw [readWith, skipBlanks_of_beginsValue (by simp [beginsValue, hc])]
  simp only [hopening, hquote, hminus, hplus, hc, Bool.false_eq_true, if_false, if_true]

/-- A word is read where a constant or a prefix letter begins. -/
theorem readWith_word (hc : c ∈ ['T', 'F', 'N', 'r', 'R', 'u', 'U']) :
    readWith bracketed (c :: rest) = readWord (c :: rest) := by
  have hall : ∀ d ∈ ['T', 'F', 'N', 'r', 'R', 'u', 'U'], isBlank d = false ∧ isOpening d = false ∧
      isQuote d = false ∧ d ≠ '-' ∧ d ≠ '+' ∧ beginsNumber d = false ∧ beginsWord d = true :=
    List.all_iff_forall_prop.mp (by decide)
  obtain ⟨hblank, hopening, hquote, hminus, hplus, hnumber, hword⟩ := hall c hc
  rw [readWith, skipBlanks_cons_of_not_isBlank hblank]
  simp only [hopening, hquote, hminus, hplus, hnumber, hword, Bool.false_eq_true, if_false, if_true]

end Dispatch

/-- The words that denote constants. -/
theorem constant?_eq_some_iff {word : List Char} {value : Value} :
    constant? word = some value ↔
      word = ['T', 'r', 'u', 'e'] ∧ value = .bool true ∨
        word = ['F', 'a', 'l', 's', 'e'] ∧ value = .bool false ∨
          word = ['N', 'o', 'n', 'e'] ∧ value = .null := by
  rw [constant?]
  split
  · rename_i h
    simp [h, eq_comm]
  · split
    · rename_i h
      simp [h, eq_comm]
    · split
      · rename_i h
        simp [h, eq_comm]
      · simp [*]

/-- A word that names a constant is a literal. -/
theorem scalar_of_constant? {word : List Char} {value : Value} (h : constant? word = some value) :
    Scalar word value := by
  rcases constant?_eq_some_iff.mp h with ⟨rfl, rfl⟩ | ⟨rfl, rfl⟩ | ⟨rfl, rfl⟩
  · exact .trueWord
  · exact .falseWord
  · exact .noneWord

/-- A constant is read to the end of its word. -/
theorem readWord_constant {word rest : List Char} {value : Value} (h : constant? word = some value)
    (hrest : EndsValue rest) : readWord (word ++ rest) = .ok (value, rest) := by
  have hword : ∀ c ∈ word, continuesWord c := by
    rcases constant?_eq_some_iff.mp h with ⟨rfl, -⟩ | ⟨rfl, -⟩ | ⟨rfl, -⟩ <;>
      exact List.all_eq_true.mp rfl
  have hhead (c : Char) (hc : c ∈ rest.head?) :=
    not_token_of_isDelimiter (hrest.isDelimiter_of_mem_head? hc)
  obtain ⟨htake, hdrop⟩ := span_append hword fun c hc => (hhead c hc).1
  have hquote : rest.head?.any isQuote = false := by
    cases rest with
    | nil => rfl
    | cons c rest => exact (hhead c rfl).2.2.1
  rw [readWord, htake, hdrop]
  simp only [hquote, Bool.false_eq_true, if_false, h]

/-- A prefix letter directly before a quote belongs to a string. -/
theorem readWord_mark {letter quote : Char} (hletter : isStringPrefix letter) (hquote : isQuote quote)
    (rest : List Char) :
    readWord (letter :: quote :: rest) = textStep (readStrings (letter :: quote :: rest)) := by
  have hcontinues : continuesWord letter := by
    rcases (isStringPrefix_iff letter).mp hletter with rfl | rfl | rfl | rfl <;> rfl
  have hends : continuesWord quote = false := by
    rcases (isQuote_iff quote).mp hquote with rfl | rfl <;> rfl
  have hword : (letter :: quote :: rest).takeWhile continuesWord = [letter] := by
    simp [hcontinues, hends]
  have hafter : (letter :: quote :: rest).dropWhile continuesWord = quote :: rest := by
    simp [hcontinues, hends]
  rw [readWord, hword, hafter]
  simp only [List.head?_cons, Option.any_some, hquote, if_true, hletter]

/-- Strings are read where one begins with its prefix letter or without. -/
theorem readWith_mark (bracketed : List Char → Step Value) {mark : Option Char}
    (hmark : ∀ c ∈ mark, isStringPrefix c) {quote : Char} (hquote : isQuote quote) (rest : List Char) :
    readWith bracketed (mark.toList ++ quote :: rest) =
      textStep (readStrings (mark.toList ++ quote :: rest)) := by
  cases mark with
  | none => exact readWith_quote bracketed rest hquote
  | some letter =>
    have hletter := hmark letter rfl
    have hword : letter ∈ ['T', 'F', 'N', 'r', 'R', 'u', 'U'] := by
      rcases (isStringPrefix_iff letter).mp hletter with rfl | rfl | rfl | rfl <;> decide
    rw [Option.toList_some, List.cons_append, List.nil_append, readWith_word bracketed _ hword,
      readWord_mark hletter hquote]

/-- What is read as a text is adjacent strings. -/
theorem scalar_of_textStep {text rest : List Char} {value : Value} (hbegins : beginsString text)
    (h : textStep (readStrings text) = .ok (value, rest)) :
    ∃ body, text = body ++ rest ∧ Scalar body value := by
  cases hread : readStrings text with
  | error fault => rw [hread] at h; cases h
  | ok result =>
    rw [hread] at h
    obtain ⟨rfl, rfl⟩ := Prod.mk.inj (Except.ok.inj h)
    obtain ⟨body, htext, hstrings⟩ := strings_of_readStrings hbegins hread
    exact ⟨body, htext, .text hstrings⟩

/-- What is read as a word is a literal without brackets. -/
theorem scalar_of_readWord {text rest : List Char} {value : Value}
    (h : readWord text = .ok (value, rest)) : ∃ body, text = body ++ rest ∧ Scalar body value := by
  have hsplit : text = text.takeWhile continuesWord ++ text.dropWhile continuesWord :=
    List.takeWhile_append_dropWhile.symm
  rw [readWord] at h
  split at h
  · rename_i hquote
    split at h
    · rename_i letter hword
      rw [hword] at hsplit
      split at h
      · rename_i hletter
        have hbegins : beginsString text := by
          rw [hsplit]
          simp [beginsString, hletter, hquote]
        exact scalar_of_textStep hbegins h
      · cases h
    · cases h
  · split at h
    · rename_i found hfound
      obtain ⟨rfl, rfl⟩ := Prod.mk.inj (Except.ok.inj h)
      exact ⟨_, hsplit, scalar_of_constant? hfound⟩
    · cases h

/-- What is read after a sign is a signed number. -/
theorem scalar_of_readSigned {sign : Char} (hsign : sign = '+' ∨ sign = '-') {text rest : List Char}
    {value : Value} (h : readSigned (sign == '-') text = .ok (value, rest)) :
    ∃ body, sign :: text = body ++ rest ∧ Scalar body value := by
  obtain ⟨gap, hgap, htext⟩ := exists_gap text
  rw [readSigned] at h
  split at h
  · rename_i hbegins
    obtain ⟨token, htoken, hnumber⟩ := token_of_readNumber hbegins h
    exact ⟨sign :: (gap ++ token), by rw [htext, htoken]; simp, .signed hsign hgap hnumber⟩
  · cases h

/-- A literal without brackets is read to its end. -/
theorem readWith_of_scalar (bracketed : List Char → Step Value) {text rest : List Char} {value : Value}
    (h : Scalar text value) (hrest : EndsValue rest) :
    readWith bracketed (text ++ rest) = .ok (value, rest) := by
  cases h with
  | trueWord =>
    rw [List.cons_append, readWith_word bracketed _ (by decide)]
    exact readWord_constant (constant?_eq_some_iff.mpr (.inl ⟨rfl, rfl⟩)) hrest
  | falseWord =>
    rw [List.cons_append, readWith_word bracketed _ (by decide)]
    exact readWord_constant (constant?_eq_some_iff.mpr (.inr (.inl ⟨rfl, rfl⟩))) hrest
  | noneWord =>
    rw [List.cons_append, readWith_word bracketed _ (by decide)]
    exact readWord_constant (constant?_eq_some_iff.mpr (.inr (.inr ⟨rfl, rfl⟩))) hrest
  | unsigned htoken =>
    have hbegins := htoken.begins
    have hread := readNumber_of_token htoken hrest
    cases text with
    | nil => simp at hbegins
    | cons c text =>
      rw [List.cons_append] at hread ⊢
      rw [readWith_number bracketed _ (by simpa using hbegins), hread]
  | @signed sign gap token _ hsign hgap htoken =>
    have hbegins := htoken.begins
    have hread := readNumber_of_token htoken hrest
    cases token with
    | nil => simp at hbegins
    | cons c token =>
      rw [List.head?_cons, Option.any_some] at hbegins
      rw [List.cons_append, List.append_assoc, readWith_sign bracketed _ hsign, readSigned,
        skipBlanks_append hgap, List.cons_append,
        skipBlanks_of_beginsValue (by simp [beginsValue, hbegins])]
      simp only [List.head?_cons, Option.any_some, hbegins, if_true]
      exact hread
  | text hstrings =>
    have hread := readStrings_of_strings hstrings hrest
    obtain ⟨mark, quote, body, hmark, hquote, htext⟩ :=
      exists_mark_of_beginsString (hstrings.beginsString rest)
    rw [htext] at hread ⊢
    rw [readWith_mark bracketed hmark hquote, hread]
    rfl

/-- What is read is a literal without brackets, or what the reader of brackets reads. -/
theorem scalar_or_bracketed_of_readWith {bracketed : List Char → Step Value} {text rest : List Char}
    {value : Value} (h : readWith bracketed text = .ok (value, rest)) :
    (∃ body, skipBlanks text = body ++ rest ∧ Scalar body value) ∨
      bracketed (skipBlanks text) = .ok (value, rest) := by
  rw [readWith] at h
  split at h
  · cases h
  · rename_i c tail htext
    rw [htext]
    split at h
    · exact .inr h
    refine .inl ?_
    split at h
    · rename_i hquote
      exact scalar_of_textStep (by simp [beginsString, hquote]) h
    split at h
    · rename_i hminus
      subst hminus
      exact scalar_of_readSigned (.inr rfl) h
    split at h
    · rename_i hplus
      subst hplus
      exact scalar_of_readSigned (.inl rfl) h
    split at h
    · rename_i hnumber
      obtain ⟨token, htoken, hvalue⟩ := token_of_readNumber (by simpa using hnumber) h
      exact ⟨token, htoken, .unsigned hvalue⟩
    split at h
    · exact scalar_of_readWord h
    · cases h

/-- Blanks in front of a value change nothing. -/
theorem readWith_skipBlanks (bracketed : List Char → Step Value) (text : List Char) :
    readWith bracketed (skipBlanks text) = readWith bracketed text := by
  rw [readWith, readWith, skipBlanks_skipBlanks]

/-- A bracketed literal begins with its opening bracket. -/
theorem Bracketed.exists_opening {element : List Char → Value → Prop} {text : List Char} {value : Value}
    (h : Bracketed element text value) : ∃ c rest, text = c :: rest ∧ isOpening c := by
  cases h <;> exact ⟨_, _, rfl, rfl⟩

/-- A literal without brackets begins as values do. -/
theorem Scalar.exists_head {text : List Char} {value : Value} (h : Scalar text value) :
    ∃ c rest, text = c :: rest ∧ beginsValue c := by
  cases h with
  | trueWord | falseWord | noneWord => exact ⟨_, _, rfl, rfl⟩
  | unsigned htoken =>
    have hbegins := htoken.begins
    cases text with
    | nil => simp at hbegins
    | cons c rest => exact ⟨c, rest, rfl, by simp_all [beginsValue]⟩
  | signed hsign => exact ⟨_, _, rfl, by rcases hsign with rfl | rfl <;> rfl⟩
  | text hstrings =>
    have hbegins := hstrings.beginsString []
    rw [List.append_nil] at hbegins
    obtain ⟨mark, quote, rest, hmark, hquote, rfl⟩ := exists_mark_of_beginsString hbegins
    cases mark with
    | none => exact ⟨quote, rest, rfl, by simp [beginsValue, hquote]⟩
    | some c =>
      refine ⟨c, quote :: rest, rfl, ?_⟩
      rcases (isStringPrefix_iff c).mp (hmark c rfl) with rfl | rfl | rfl | rfl <;> rfl

/-- Every literal begins as values do. -/
theorem Expr.exists_beginsValue {room : Nat} {text : List Char} {value : Value}
    (h : Expr room text value) : ∃ c rest, text = c :: rest ∧ beginsValue c := by
  cases room with
  | zero => exact Scalar.exists_head h
  | succ room =>
    rcases h with hscalar | hbracketed
    · exact hscalar.exists_head
    · cases hbracketed <;> exact ⟨_, _, rfl, rfl⟩

/-- No literal begins with a blank or a separator. -/
theorem Expr.exists_head {room : Nat} {text : List Char} {value : Value} (h : Expr room text value) :
    ∃ c rest, text = c :: rest ∧ isBlank c = false ∧ isSeparator c = false := by
  obtain ⟨c, rest, htext, hc⟩ := h.exists_beginsValue
  have hdelimiter : isDelimiter c = false := Bool.eq_false_iff.mpr fun hdelimiter => by
    simp [beginsValue_of_isDelimiter hdelimiter] at hc
  rw [isDelimiter, Bool.or_eq_false_iff] at hdelimiter
  exact ⟨c, rest, htext, hdelimiter⟩

/-- The reader of values reads the literals in which no more brackets than allowed are open. -/
theorem readValue_reads (room : Nat) : Reads (readValue room) (Expr room) := by
  induction room with
  | zero =>
    refine ⟨readWith_skipBlanks _, fun h => ?_, readWith_of_scalar _, Expr.exists_head⟩
    rcases scalar_or_bracketed_of_readWith h with hscalar | hbracketed
    · exact hscalar
    · cases hbracketed
  | succ room ih =>
    refine ⟨readWith_skipBlanks _, fun h => ?_, fun h hrest => ?_, Expr.exists_head⟩
    · rcases scalar_or_bracketed_of_readWith h with ⟨body, htext, hscalar⟩ | hbracketed
      · exact ⟨body, htext, .inl hscalar⟩
      · obtain ⟨body, htext, hbody⟩ := bracketed_of_readBracketed ih hbracketed
        exact ⟨body, htext, .inr hbody⟩
    · rcases h with hscalar | hbracketed
      · exact readWith_of_scalar _ hscalar hrest
      · obtain ⟨c, body, rfl, hc⟩ := hbracketed.exists_opening
        exact (readWith_opening _ _ hc).trans (readBracketed_of_bracketed ih hbracketed _)

/-- Exactly the texts of the grammar are read whole. -/
theorem readWhole_eq_ok_iff {text : List Char} {value : Value} :
    readWhole text = .ok value ↔ Denotes text value := by
  have hreads := readValue_reads maxNesting
  rw [readWhole]
  constructor
  · intro h
    split at h
    · cases h
    · split at h
      · cases h
      · rename_i found rest hread
        split at h
        · rename_i hrest
          obtain rfl := Except.ok.inj h
          obtain ⟨spaced, htext, hspaced⟩ := hreads.spaced_of_ok hread hrest
          rw [List.append_nil] at htext
          exact htext ▸ hspaced
        · cases h
  · rintro ⟨hbefore, hbody, hafter⟩
    rename_i before body after
    have hskip : skipBlanks (before ++ (body ++ after)) = body ++ after := by
      rw [skipBlanks_append hbefore, hreads.skipBlanks_body hbody]
    have hread : readValue maxNesting (before ++ (body ++ after)) = .ok (value, after) := by
      rw [← hreads.skips, hskip, hreads.complete hbody (endsValue_blank hafter)]
    have hblank : isBlankText (before ++ (body ++ after)) = false := by
      obtain ⟨c, rest, rfl, -⟩ := hreads.begins hbody
      rw [Bool.eq_false_iff, Ne, ← skipBlanks_eq_nil_iff, hskip]
      exact List.cons_ne_nil _ _
    simp only [hblank, Bool.false_eq_true, if_false, hread, (skipBlanks_eq_nil_iff after).mpr hafter]

/-- Reading a text of given characters is reading these. -/
theorem read_ofList_eq_ok_iff {text : List Char} {value : Value} :
    read (String.ofList text) = .ok value ↔ readWhole text = .ok value := by
  rw [read, String.toList_ofList]
  cases readWhole text <;> simp [Except.mapError]

/-- A text is accepted as a literal exactly if the grammar derives it, with exactly the value that
the grammar gives it. -/
theorem read_eq_ok_iff_denotes (source : String) (value : Value) :
    read source = .ok value ↔ Denotes source.toList value := by
  rw [← readWhole_eq_ok_iff, ← read_ofList_eq_ok_iff, String.ofList_toList]

end NotebookLint.Literal
