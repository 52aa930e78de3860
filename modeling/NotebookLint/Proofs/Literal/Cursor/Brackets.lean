import NotebookLint.Proofs.Literal.Acceptance
import NotebookLint.Proofs.Literal.Cursor.Scalars

/-!
# Reading items and pairs with a cursor

The rounds over items and over pairs read what the readers of texts read, as long as the reader of
the values inside does so. The readers of texts count their rounds by the characters that are left,
which is enough because a reader of values takes some of them.
-/

namespace NotebookLint.Literal

open NotebookLint.Text

/-- A reader takes characters whenever it gives a result. -/
def Shortens {α : Type} (reader : List Char → Step α) : Prop :=
  ∀ ⦃text value rest⦄, reader text = .ok (value, rest) → rest.length < text.length

/-- The reader of values takes characters. -/
theorem readValue_shortens (room : Nat) : Shortens (readValue room) := by
  intro text value rest h
  obtain ⟨body, hbody, hexpr⟩ := (readValue_reads room).sound h
  obtain ⟨c, inner, rfl, -⟩ := (readValue_reads room).begins hexpr
  exact Nat.lt_of_lt_of_le (length_lt_of_eq_append hbody (List.cons_ne_nil c inner))
    (skipBlanks_length_le text)

section Inside

variable {reader : List Char → Step Value}

/-- Behind a character after blanks there is less text. -/
theorem length_lt_of_skipBlanks {text rest : List Char} {c : Char} (h : skipBlanks text = c :: rest) :
    rest.length < text.length := by
  have hlength := skipBlanks_length_le text
  rwa [h, List.length_cons] at hlength

/-- The reader of keys takes characters. -/
theorem readKey_shortens (hshort : Shortens reader) : Shortens (readKey reader) := by
  intro text key rest h
  obtain ⟨after, hread, hafter⟩ := readKey_eq_ok_iff.mp h
  exact Nat.lt_trans (length_lt_of_skipBlanks hafter) (hshort hread)

/-- There is room for all items if there is room for the text. -/
theorem readItems_eq (hshort : Shortens reader) (close : Char) {fuel fuel' : Nat} {text : List Char}
    (hfuel : text.length < fuel) (hfuel' : text.length < fuel') (trailing : Bool) :
    readItems reader close fuel trailing text = readItems reader close fuel' trailing text := by
  induction fuel generalizing fuel' text trailing with
  | zero => exact absurd hfuel (Nat.not_lt_zero _)
  | succ fuel ih =>
    obtain ⟨fuel', rfl⟩ := Nat.exists_eq_succ_of_ne_zero (Nat.ne_zero_of_lt hfuel')
    rw [readItems, readItems]
    cases hread : reader (skipBlanks text) with
    | error fault => rfl
    | ok result =>
      obtain ⟨item, after⟩ := result
      dsimp only
      cases hafter : skipBlanks after with
      | nil => rfl
      | cons c rest =>
        have hskip := skipBlanks_length_le text
        have hitem := hshort hread
        have hrest := length_lt_of_skipBlanks hafter
        dsimp only
        rw [ih (show rest.length < fuel by omega) (show rest.length < fuel' by omega)]

/-- There is room for all pairs if there is room for the text. -/
theorem readPairs_eq (hshort : Shortens reader) {fuel fuel' : Nat} {text : List Char}
    (hfuel : text.length < fuel) (hfuel' : text.length < fuel') :
    readPairs reader fuel text = readPairs reader fuel' text := by
  induction fuel generalizing fuel' text with
  | zero => exact absurd hfuel (Nat.not_lt_zero _)
  | succ fuel ih =>
    obtain ⟨fuel', rfl⟩ := Nat.exists_eq_succ_of_ne_zero (Nat.ne_zero_of_lt hfuel')
    have hskip := skipBlanks_length_le text
    rw [readPairs, readPairs]
    cases hkey : readKey reader (skipBlanks text) with
    | error fault => rfl
    | ok result =>
      have hlength := readKey_shortens hshort hkey
      dsimp only
      cases hread : reader result.2 with
      | error fault => rfl
      | ok found =>
        have hlength' := hshort hread
        dsimp only
        split
        · rfl
        split
        · rename_i rest hafter
          have hrest := length_lt_of_skipBlanks hafter
          rw [ih (show rest.length < fuel by omega) (show rest.length < fuel' by omega)]
        · rfl
        · rfl

end Inside

namespace Scan

variable {α β : Type} {source text : List Char} {pos depth : Nat}

/-- A round takes the closing bracket, or ends as the reading of one more item does. -/
theorem closedOr_turns {σ : Type} {reader : σ → List Char → Step α} {state : σ} {final : α}
    {close : Char} {item : Scan (σ ⊕ α)} (hdepth : depth ≤ maxNesting) (h : Before source pos text)
    (hclose : ∀ {rest}, skipBlanks text = close :: rest → reader state text = .ok (final, rest))
    (hitem : (skipBlanks text).head? ≠ some close → ∀ {pos}, Before source pos (skipBlanks text) →
      Turns source depth reader state text (item ⟨pos, depth⟩)) :
    Turns source depth reader state text (closedOr source close final item ⟨pos, depth⟩) := by
  rw [closedOr]
  refine ends_skip hdepth h fun hnext => ?_
  rw [peek_bind hnext]
  by_cases hhead : (skipBlanks text).head? = some close
  · obtain ⟨rest, hrest⟩ := List.head?_eq_some_iff.mp hhead
    rw [if_pos hhead]
    rw [hrest] at hnext
    rw [bump_bind hnext hdepth]
    exact ends_return hnext.cons (hclose hrest)
  · rw [if_neg hhead]
    exact hitem hhead hnext

/-- What is read behind an item: the comma, or nothing if a closing bracket comes next. -/
def separate {σ : Type} (close : Char) (reader : σ → List Char → Step α) (behindComma atClose : σ)
    (text : List Char) : Step α :=
  match skipBlanks text with
  | [] => .error ⟨[], .itemNotSeparated close⟩
  | c :: rest =>
    if c = ',' then reader behindComma rest
    else if c = close then reader atClose (c :: rest)
    else .error ⟨c :: rest, .itemNotSeparated close⟩

/-- A round that has read an item ends behind it. -/
theorem separator_turns {σ : Type} {reader : σ → List Char → Step α} {state behindComma atClose : σ}
    {before : List Char} {close : Char} (hdepth : depth ≤ maxNesting) (h : Before source pos text)
    (hlength : text.length < before.length)
    (hread : reader state before = separate close reader behindComma atClose text) :
    Turns source depth reader state before (separator source close behindComma atClose ⟨pos, depth⟩) := by
  rw [separate] at hread
  rw [separator]
  refine ends_skip hdepth h fun hnext => ?_
  rw [peek_bind hnext]
  cases hrest : skipBlanks text with
  | nil =>
    rw [hrest] at hnext hread
    exact ends_fail hnext hread
  | cons c rest =>
    have hshorter := length_lt_of_skipBlanks hrest
    rw [hrest] at hnext hread
    dsimp only [List.head?_cons] at hread ⊢
    split
    · rename_i hcomma
      rw [if_pos hcomma] at hread
      rw [bump_bind hnext hdepth]
      exact ends_return hnext.cons ⟨by omega, hread⟩
    rename_i hcomma
    rw [if_neg hcomma] at hread
    split
    · rename_i hclose
      rw [if_pos hclose] at hread
      exact ends_return hnext ⟨by rw [List.length_cons]; omega, hread⟩
    · rename_i hclose
      rw [if_neg hclose] at hread
      exact ends_fail hnext hread

section Inside

variable {reader : List Char → Step Value} {element : Scan Value}

/-- Items that are not all read yet: those so far, whether a comma follows them, and what comes. -/
def itemsAfter (reader : List Char → Step Value) (close : Char) (state : List Value × Bool)
    (text : List Char) : Step (List Value × Bool) :=
  match readItems reader close (text.length + 1) state.2 text with
  | .ok ((items, trailing), rest) => .ok ((state.1 ++ items, trailing), rest)
  | .error fault => .error fault

/-- At the closing bracket there are no more items. -/
theorem itemsAfter_close {close : Char} {rest : List Char} (h : skipBlanks text = close :: rest)
    (state : List Value × Bool) : itemsAfter reader close state text = .ok (state, rest) := by
  rw [itemsAfter, readItems, h]
  simp

/-- An item that is refused is all that matters. -/
theorem itemsAfter_error {close : Char} (hopen : (skipBlanks text).head? ≠ some close) {fault : Fault}
    (hitem : reader (skipBlanks text) = .error fault) (state : List Value × Bool) :
    itemsAfter reader close state text = .error fault := by
  rw [itemsAfter, readItems]
  simp only [hopen, if_false, hitem]

/-- An item is added to those so far. -/
theorem itemsAfter_item (hshort : Shortens reader) {close : Char}
    (hopen : (skipBlanks text).head? ≠ some close) {item : Value} {after : List Char}
    (hitem : reader (skipBlanks text) = .ok (item, after)) (state : List Value × Bool) :
    itemsAfter reader close state text =
      separate close (itemsAfter reader close) (state.1 ++ [item], true) (state.1 ++ [item], false) after := by
  have hlength := hshort hitem
  have hskip := skipBlanks_length_le text
  rw [itemsAfter, readItems, separate]
  simp only [hopen, if_false, hitem]
  cases hafter : skipBlanks after with
  | nil => rfl
  | cons c rest =>
    have hrest := length_lt_of_skipBlanks hafter
    dsimp only
    by_cases hcomma : c = ','
    · rw [if_pos hcomma, if_pos hcomma,
        readItems_eq hshort close (show rest.length < text.length by omega) (Nat.lt_succ_self _), itemsAfter]
      cases readItems reader close (rest.length + 1) true rest <;> simp
    · rw [if_neg hcomma, if_neg hcomma]
      by_cases hclose : c = close
      · rw [if_pos hclose, if_pos hclose, itemsAfter_close]
        rw [← hafter, skipBlanks_skipBlanks, hafter, hclose]
      · rw [if_neg hclose, if_neg hclose]

/-- The rounds over items read the items. -/
theorem itemRound_turns (hdepth : depth ≤ maxNesting) (hshort : Shortens reader)
    (helement : Tracks source depth reader element)
    (close : Char) (h : Before source pos text) (state : List Value × Bool) :
    Turns source depth (itemsAfter reader close) state text
      (itemRound source element close state ⟨pos, depth⟩) := by
  refine closedOr_turns hdepth h (fun hrest => itemsAfter_close hrest state) fun hopen _ hnext => ?_
  refine (helement hnext).bind (fun hitem hafter => ?_) fun hitem => itemsAfter_error hopen hitem state
  have hlength := Nat.lt_of_lt_of_le (hshort hitem) (skipBlanks_length_le text)
  exact separator_turns hdepth hafter hlength (itemsAfter_item hshort hopen hitem state)

/-- A text is a key if a colon comes next. -/
theorem readKey_text {key : String} {after : List Char} (hread : reader text = .ok (.text key, after)) :
    readKey reader text =
      match skipBlanks after with
      | [] => .error ⟨[], .colonMissing⟩
      | c :: rest =>
        if c = ':' then .ok (key, rest)
        else if c = ',' ∨ c = '}' then .error ⟨c :: rest, .setNotSupported⟩
        else .error ⟨c :: rest, .colonMissing⟩ := by
  simp only [readKey, hread]
  cases skipBlanks after with
  | nil => rfl
  | cons c rest => split <;> simp_all

/-- The cursor reads keys with their colons. -/
theorem key_follows (hdepth : depth ≤ maxNesting)
    (helement : Tracks source depth reader element)
    (h : Before source pos text) :
    Follows source depth (readKey reader text) (key source element ⟨pos, depth⟩) := by
  rw [key, cursor_bind]
  refine (helement h).bind (fun hread hafter => ?_) fun hread => by rw [readKey, hread]
  rename_i found after _
  cases found with
  | text key =>
    rw [readKey_text hread]
    refine ends_skip hdepth hafter fun hnext => ?_
    rw [peek_bind hnext]
    cases hrest : skipBlanks after with
    | nil =>
      rw [hrest] at hnext
      exact ends_fail hnext rfl
    | cons c rest =>
      rw [hrest] at hnext
      dsimp only [List.head?_cons]
      split
      · rw [bump_bind hnext hdepth]
        exact ends_return hnext.cons rfl
      · split <;> exact ends_fail hnext rfl
  | _ => exact ends_failAt h hafter (by rw [readKey, hread])

/-- Pairs that are not all read yet: the entries that those so far leave, and what comes. -/
def pairsAfter (reader : List Char → Step Value) (entries : Entries Value) (text : List Char) :
    Step (Entries Value) :=
  match readPairs reader (text.length + 1) text with
  | .ok (pairs, rest) =>
    .ok (pairs.foldl (fun entries pair => Entries.put pair.1 pair.2 entries) entries, rest)
  | .error fault => .error fault

/-- At the closing brace there are no more pairs. -/
theorem pairsAfter_close {rest : List Char} (h : skipBlanks text = '}' :: rest)
    (entries : Entries Value) : pairsAfter reader entries text = .ok (entries, rest) := by
  rw [pairsAfter, readPairs, h]
  simp

/-- A key that is refused is all that matters. -/
theorem pairsAfter_key_error (hopen : (skipBlanks text).head? ≠ some '}') {fault : Fault}
    (hkey : readKey reader (skipBlanks text) = .error fault) (entries : Entries Value) :
    pairsAfter reader entries text = .error fault := by
  rw [pairsAfter, readPairs]
  simp only [hopen, if_false, hkey]

/-- After a key, a value that is refused is all that matters. -/
theorem pairsAfter_value_error (hopen : (skipBlanks text).head? ≠ some '}') {key : String}
    {valueText : List Char} (hkey : readKey reader (skipBlanks text) = .ok (key, valueText))
    {fault : Fault} (hvalue : reader valueText = .error fault) (entries : Entries Value) :
    pairsAfter reader entries text = .error fault := by
  rw [pairsAfter, readPairs]
  simp only [hopen, if_false, hkey, hvalue]

/-- A pair is put into the entries so far. -/
theorem pairsAfter_pair (hshort : Shortens reader) (hopen : (skipBlanks text).head? ≠ some '}')
    {key : String} {valueText : List Char} (hkey : readKey reader (skipBlanks text) = .ok (key, valueText))
    {value : Value} {after : List Char} (hvalue : reader valueText = .ok (value, after))
    (entries : Entries Value) :
    pairsAfter reader entries text =
      separate '}' (pairsAfter reader) (Entries.put key value entries) (Entries.put key value entries)
        after := by
  have hskip := skipBlanks_length_le text
  have hkeyLength := readKey_shortens hshort hkey
  have hlength := hshort hvalue
  rw [pairsAfter, readPairs, separate]
  simp only [hopen, if_false, hkey, hvalue]
  cases hafter : skipBlanks after with
  | nil => rfl
  | cons c rest =>
    have hrest := length_lt_of_skipBlanks hafter
    dsimp only
    by_cases hcomma : c = ','
    · subst hcomma
      have hfuel := readPairs_eq hshort (show rest.length < text.length by omega) (Nat.lt_succ_self _)
      simp only [if_true, pairsAfter, hfuel]
      cases readPairs reader (rest.length + 1) rest <;> rfl
    · rw [if_neg hcomma]
      by_cases hclose : c = '}'
      · subst hclose
        rw [if_pos rfl, pairsAfter_close (by rw [← hafter, skipBlanks_skipBlanks, hafter])]
        rfl
      · rw [if_neg hclose]
        split <;> simp_all

/-- The rounds over pairs read the pairs. -/
theorem pairRound_turns (hdepth : depth ≤ maxNesting) (hshort : Shortens reader)
    (helement : Tracks source depth reader element)
    (h : Before source pos text) (entries : Entries Value) :
    Turns source depth (pairsAfter reader) entries text (pairRound source element entries ⟨pos, depth⟩) := by
  refine closedOr_turns hdepth h (fun hrest => pairsAfter_close hrest entries) fun hopen _ hnext => ?_
  refine (key_follows hdepth helement hnext).bind (fun hkey hcolon => ?_) fun hkey =>
    pairsAfter_key_error hopen hkey entries
  refine (helement hcolon).bind (fun hvalue hafter => ?_) fun hvalue =>
    pairsAfter_value_error hopen hkey hvalue entries
  have hlength := Nat.lt_of_lt_of_le (readKey_shortens hshort hkey) (skipBlanks_length_le text)
  exact separator_turns hdepth hafter (Nat.lt_trans (hshort hvalue) hlength)
    (pairsAfter_pair hshort hopen hkey hvalue entries)

end Inside

end Scan

end NotebookLint.Literal
