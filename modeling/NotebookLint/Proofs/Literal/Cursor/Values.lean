import NotebookLint.Proofs.Literal.Cursor.Brackets

/-!
# Reading values with a cursor

A bracket that is opened is closed again, and none is opened where as many as allowed are open
already, so that the reader of values follows the one whose recursion is on the number of brackets
that may still be opened. With no bracket open it has enough calls of itself for every source.
-/

namespace NotebookLint.Literal.Scan

open NotebookLint.Text

variable {α β : Type} {source text rest : List Char} {pos depth : Nat}

/-- A closed bracket leaves the rest of how a computation ends. -/
theorem ends_leaving {good : α → List Char → Prop} {bad : Fault → Prop} {inner : Scan α}
    {cursor : Cursor} (h : Ends source (depth + 1) good bad (inner cursor)) :
    Ends source depth good bad (leaving inner cursor) := by
  rw [leaving]
  generalize inner cursor = outcome at h
  cases h with
  | ok hbefore hgood => exact .ok hbefore hgood
  | error hplace hbefore hbad => exact .error hplace hbefore hbad

/-- What is read where a bracket opens, if it may. -/
def opened (depth : Nat) (text : List Char) (step : Step α) : Step α :=
  if depth < maxNesting then step else .error ⟨text, .nestingTooDeep⟩

/-- What is read was read where a bracket opens. -/
theorem eq_ok_of_opened {step : Step α} {result : α × List Char} (h : opened depth text step = .ok result) :
    step = .ok result := by
  rw [opened] at h
  split at h
  · exact h
  · cases h

/-- A bracket is opened only if it may, and what is in it is read with one bracket more open. -/
theorem nested_follows {step : Step α} {inner : Scan α} (h : Before source pos text)
    (hinner : depth < maxNesting → Follows source (depth + 1) step (inner ⟨pos, depth + 1⟩)) :
    Follows source depth (opened depth text step) (nested source inner ⟨pos, depth⟩) := by
  rw [nested, cursor_bind, opened]
  by_cases hdepth : depth < maxNesting
  · simp only [hdepth, if_true, Nat.not_le.mpr hdepth, if_false]
    rw [moveTo_bind h hdepth]
    exact ends_leaving (hinner hdepth)
  · simp only [hdepth, if_false, Nat.not_lt.mp hdepth, if_true]
    exact ends_fail h rfl

/-- What comes after brackets is read where they were opened. -/
theorem nested_bind_follows {step : Step α} {result : Step β} {inner : Scan α} {next : α → Scan β}
    (h : Before source pos text)
    (hinner : depth < maxNesting → Follows source (depth + 1) step (inner ⟨pos, depth + 1⟩))
    (hok : ∀ {value rest pos}, step = .ok (value, rest) → Before source pos rest →
      Follows source depth result (next value ⟨pos, depth⟩))
    (herror : ∀ {fault}, step = .error fault → result = .error fault) :
    Follows source depth (opened depth text result) ((nested source inner >>= next) ⟨pos, depth⟩) := by
  have hnested := nested_follows h hinner
  rw [opened] at hnested ⊢
  by_cases hdepth : depth < maxNesting
  · rw [if_pos hdepth] at hnested ⊢
    exact hnested.bind hok herror
  · rw [if_neg hdepth] at hnested ⊢
    exact hnested.bind nofun fun hfault => congrArg Except.error (Except.error.inj hfault)

section Inside

variable {reader : List Char → Step Value} {element : Scan Value}

/-- Items in brackets are read if the values inside are. -/
theorem items_follow (hshort : Shortens reader) (hdepth : depth ≤ maxNesting)
    (helement : Tracks source depth reader element)
    (opening close : Char) (h : Before source pos (opening :: rest)) :
    Follows source depth (readItems reader close (rest.length + 1) false rest)
      ((expect source opening >>= fun _ =>
        loop (itemRound source element close) (rounds source) ([], false)) ⟨pos, depth⟩) := by
  have hstart : itemsAfter reader close ([], false) rest =
      readItems reader close (rest.length + 1) false rest := by
    rw [itemsAfter]
    cases readItems reader close (rest.length + 1) false rest <;> rfl
  rw [expect_bind h hdepth, ← hstart]
  exact loop_follows (itemsAfter reader close) (itemRound_turns hdepth hshort helement close) h.cons _

/-- A dictionary is what its pairs leave. -/
theorem readBracketed_brace : readBracketed reader ('{' :: rest) =
    match pairsAfter reader [] rest with
    | .ok (entries, rest) => .ok (.dict entries, rest)
    | .error fault => .error fault := by
  rw [readBracketed, pairsAfter]
  cases readPairs reader (rest.length + 1) rest <;> rfl

/-- Pairs in brackets are read if the values inside are. -/
theorem pairs_follow (hshort : Shortens reader) (hdepth : depth ≤ maxNesting)
    (helement : Tracks source depth reader element)
    (h : Before source pos ('{' :: rest)) :
    Follows source depth (readBracketed reader ('{' :: rest))
      ((expect source '{' >>= fun _ =>
        loop (pairRound source element) (rounds source) [] >>= fun entries =>
          pure (Value.dict entries)) ⟨pos, depth⟩) := by
  rw [expect_bind h hdepth]
  have hloop := loop_follows (pairsAfter reader) (pairRound_turns hdepth hshort helement) h.cons []
  exact hloop.bind (fun hpairs hrest => ends_return hrest (by rw [readBracketed_brace, hpairs]))
    fun hpairs => by rw [readBracketed_brace, hpairs]

/-- The values inside brackets are read with one bracket more open, if one more may be open. -/
def Inside (source : List Char) (depth : Nat) (reader : List Char → Step Value)
    (element : Scan Value) : Prop :=
  depth < maxNesting → Tracks source (depth + 1) reader element

/-- Lists are read. -/
theorem list_follows (hshort : Shortens reader) (hinside : Inside source depth reader element)
    (h : Before source pos ('[' :: rest)) :
    Follows source depth (opened depth ('[' :: rest) (readBracketed reader ('[' :: rest)))
      (list source element ⟨pos, depth⟩) := by
  refine nested_bind_follows h (fun hdepth => items_follow hshort hdepth (hinside hdepth) '[' ']' h)
    (fun hitems hrest => ?_) fun hitems => by rw [readBracketed, hitems]
  exact ends_return hrest (by rw [readBracketed, hitems])

/-- What is in round brackets is read. -/
theorem parenthesized_follows (hshort : Shortens reader) (hinside : Inside source depth reader element)
    (h : Before source pos ('(' :: rest)) :
    Follows source depth (opened depth ('(' :: rest) (readBracketed reader ('(' :: rest)))
      (parenthesized source element ⟨pos, depth⟩) := by
  refine nested_bind_follows h (fun hdepth => items_follow hshort hdepth (hinside hdepth) '(' ')' h)
    (fun hitems hrest => ?_) fun hitems => by rw [readBracketed, hitems]
  rename_i found _ _
  rw [readBracketed, hitems]
  obtain ⟨items, trailing⟩ := found
  cases trailing <;> rcases items with _ | ⟨_, _ | _⟩ <;> exact ends_return hrest rfl

/-- Dictionaries are read. -/
theorem dict_follows (hshort : Shortens reader) (hinside : Inside source depth reader element)
    (h : Before source pos ('{' :: rest)) :
    Follows source depth (opened depth ('{' :: rest) (readBracketed reader ('{' :: rest)))
      (dict source element ⟨pos, depth⟩) :=
  nested_follows h fun hdepth => pairs_follow hshort hdepth (hinside hdepth) h

/-- A value is read with the brackets it begins with. -/
theorem valueWith_follows (hdepth : depth ≤ maxNesting) (hshort : Shortens reader)
    (hinside : Inside source depth reader element) (h : Before source pos text) :
    Follows source depth
      (readWith (fun bracketed => opened depth bracketed (readBracketed reader bracketed)) text)
      (valueWith source element ⟨pos, depth⟩) := by
  rw [valueWith, readWith]
  refine ends_skip hdepth h fun hnext => ?_
  rw [peek_bind hnext]
  cases hrest : skipBlanks text with
  | nil =>
    rw [hrest] at hnext
    exact ends_fail hnext rfl
  | cons c rest =>
    rw [hrest] at hnext
    dsimp only [List.head?_cons]
    by_cases hopening : isOpening c
    · rw [if_pos hopening]
      rcases (isOpening_iff c).mp hopening with rfl | rfl | rfl
      · rw [if_pos rfl]
        exact list_follows hshort hinside hnext
      · rw [if_neg (by decide), if_pos rfl]
        exact parenthesized_follows hshort hinside hnext
      · rw [if_neg (by decide), if_neg (by decide), if_pos rfl]
        exact dict_follows hshort hinside hnext
    rw [if_neg hopening]
    simp only [isOpening_iff, not_or] at hopening
    rw [if_neg hopening.1, if_neg hopening.2.1, if_neg hopening.2.2]
    by_cases hquote : isQuote c
    · rw [if_pos hquote, if_pos hquote]
      exact strings_follows hdepth (by simp [beginsString, hquote]) hnext
    rw [if_neg hquote, if_neg hquote]
    by_cases hminus : c = '-'
    · subst hminus
      rw [if_pos rfl, if_pos (.inl rfl), ← show ('-' == '-') = true from rfl]
      exact signed_follows hdepth hnext
    by_cases hplus : c = '+'
    · subst hplus
      rw [if_neg hminus, if_pos rfl, if_pos (.inr rfl), ← show ('+' == '-') = false from rfl]
      exact signed_follows hdepth hnext
    rw [if_neg hminus, if_neg hplus, if_neg (not_or.mpr ⟨hminus, hplus⟩)]
    by_cases hnumber : beginsNumber c
    · rw [if_pos hnumber, if_pos hnumber]
      exact number_follows hdepth hnext false
    rw [if_neg hnumber, if_neg hnumber]
    by_cases hword : beginsWord c
    · rw [if_pos hword, if_pos hword]
      exact word_follows hdepth hnext
    · rw [if_neg hword, if_neg hword]
      exact ends_fail hnext rfl

end Inside

/-- A reader of values with enough calls of itself reads values. -/
theorem value_tracks {room calls : Nat} (hroom : depth + room = maxNesting) (hcalls : room < calls) :
    Tracks source depth (readValue room) (value source calls) := by
  induction room generalizing depth calls with
  | zero =>
    intro text pos h
    obtain ⟨calls, rfl⟩ := Nat.exists_eq_succ_of_ne_zero (Nat.ne_zero_of_lt hcalls)
    have hfull : ¬depth < maxNesting := by omega
    have hinside : Inside source depth (readValue 0) (value source calls) := fun hfree => absurd hfree hfull
    have hvalue := valueWith_follows (by omega) (readValue_shortens 0) hinside h
    simp only [opened, if_neg hfull] at hvalue
    rw [readValue]
    exact hvalue
  | succ room ih =>
    intro text pos h
    obtain ⟨calls, rfl⟩ := Nat.exists_eq_succ_of_ne_zero (Nat.ne_zero_of_lt hcalls)
    have hfree : depth < maxNesting := by omega
    have hinside : Inside source depth (readValue room) (value source calls) := fun _ =>
      ih (by omega) (by omega)
    have hvalue := valueWith_follows (by omega) (readValue_shortens room) hinside h
    simp only [opened, if_pos hfree] at hvalue
    rw [readValue]
    exact hvalue

/-- The cursor reads a source that holds exactly one literal to its end, and refuses any other. -/
theorem whole_ends (source : List Char) :
    Ends source 0 (fun value rest => readWhole source = .ok value ∧ rest = [])
      (fun fault => readWhole source = .error fault) (whole source ⟨0, 0⟩) := by
  rw [whole, readWhole]
  refine ends_skip (Nat.zero_le _) (Before.start source) fun hnext => ?_
  rw [atEnd_bind hnext]
  cases hblank : isBlankText source with
  | true =>
    rw [(skipBlanks_eq_nil_iff source).mpr hblank] at hnext ⊢
    exact ends_fail hnext rfl
  | false =>
    have hmore : (skipBlanks source).isEmpty = false := by
      rw [Bool.eq_false_iff, Ne, List.isEmpty_iff, skipBlanks_eq_nil_iff, hblank]
      exact Bool.false_ne_true
    rw [hmore]
    simp only [Bool.false_eq_true, if_false]
    have hvalue := value_tracks (Nat.zero_add maxNesting) (Nat.lt_succ_self maxNesting) hnext
    rw [(readValue_reads maxNesting).skips] at hvalue
    refine hvalue.bind (fun hread hafter => ?_) fun hread => by rw [hread]
    refine ends_skip (Nat.zero_le _) hafter fun hend => ?_
    rw [atEnd_bind hend, hread]
    dsimp only
    split
    · rename_i hnil
      rw [hnil] at hend ⊢
      exact ends_return hend ⟨rfl, rfl⟩
    · rename_i hne
      rw [if_neg (by rwa [List.isEmpty_iff])]
      exact ends_fail hend rfl

end NotebookLint.Literal.Scan
