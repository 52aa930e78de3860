import NotebookLint.Proofs.Literal.Cursor

/-!
# How reading with a cursor ends

A computation that starts before a text of the source and is not stuck `Ends` with its cursor and its
error before texts of the source, with as many open brackets as at the beginning. What is known of
the text that is left, and of the place of the error, is carried along: a computation `Follows` a
reader that works on texts if it ends with what this reader gives. The steps of the cursor have
equations, and a loop follows a reader if each of its rounds takes characters from the text and does
not change what the reader gives.
-/

namespace NotebookLint.Literal.Scan

open NotebookLint.Text

variable {α β σ : Type} {source text rest : List Char} {pos depth : Nat}

/-- A computation is not stuck, its result and the text that is left are good, and its error is bad.
The cursor stands before a text, the place of the error is before its text, and the number of open
brackets is given. -/
inductive Ends (source : List Char) (depth : Nat) (good : α → List Char → Prop) (bad : Fault → Prop) :
    Option (Except Error α × Cursor) → Prop where
  /-- A result. -/
  | ok {value : α} {text : List Char} {pos : Nat} (hbefore : Before source pos text)
      (hgood : good value text) : Ends source depth good bad (some (.ok value, ⟨pos, depth⟩))
  /-- An error. -/
  | error {fault : Fault} {place : Nat} {text : List Char} {pos : Nat}
      (hplace : Before source place fault.rest) (hbefore : Before source pos text)
      (hbad : bad fault) :
      Ends source depth good bad (some (.error ⟨place, fault.cause⟩, ⟨pos, depth⟩))

/-- A computation ends with what a reader of texts gives. -/
def Follows (source : List Char) (depth : Nat) (step : Step α) :
    Option (Except Error α × Cursor) → Prop :=
  Ends source depth (fun value text => step = .ok (value, text)) (fun fault => step = .error fault)

/-- A computation follows a reader of texts from wherever the cursor may stand. -/
def Tracks (source : List Char) (depth : Nat) (reader : List Char → Step α) (scan : Scan α) : Prop :=
  ∀ ⦃text pos⦄, Before source pos text → Follows source depth (reader text) (scan ⟨pos, depth⟩)

/-- A round of a loop ends the loop with what a reader of texts gives, or it takes characters from
the text and leaves what the reader gives. -/
def Turns (source : List Char) (depth : Nat) (reader : σ → List Char → Step α) (state : σ)
    (text : List Char) : Option (Except Error (σ ⊕ α) × Cursor) → Prop :=
  Ends source depth
    (fun result rest =>
      match result with
      | .inl next => rest.length < text.length ∧ reader state text = reader next rest
      | .inr value => reader state text = .ok (value, rest))
    (fun fault => reader state text = .error fault)

section Ends

variable {good : α → List Char → Prop} {bad : Fault → Prop}

/-- One computation after another ends as the second one does after the first one's result. -/
theorem Ends.bind {good' : β → List Char → Prop} {bad' : Fault → Prop} {scan : Scan α} {cursor : Cursor}
    {next : α → Scan β} (h : Ends source depth good bad (scan cursor))
    (hnext : ∀ value text pos, Before source pos text → good value text →
      Ends source depth good' bad' (next value ⟨pos, depth⟩))
    (hbad : ∀ fault, bad fault → bad' fault) :
    Ends source depth good' bad' ((scan >>= next) cursor) := by
  change Ends source depth good' bad' (andThen scan next cursor)
  rw [andThen]
  generalize scan cursor = outcome at h
  cases h with
  | ok hbefore hgood => exact hnext _ _ _ hbefore hgood
  | error hplace hbefore h => exact .error hplace hbefore (hbad _ h)

/-- One computation after another ends as the second one does after what the first one gives. -/
theorem Follows.bind {step : Step α} {scan : Scan α} {cursor : Cursor} {next : α → Scan β}
    {good : β → List Char → Prop} (h : Follows source depth step (scan cursor))
    (hok : ∀ {value rest pos}, step = .ok (value, rest) → Before source pos rest →
      Ends source depth good bad (next value ⟨pos, depth⟩))
    (herror : ∀ {fault}, step = .error fault → bad fault) :
    Ends source depth good bad ((scan >>= next) cursor) :=
  Ends.bind h (fun _ _ _ hrest hstep => hok hstep hrest) fun _ => herror

/-- A result at the cursor. -/
theorem ends_return {value : α} (h : Before source pos text) (hgood : good value text) :
    Ends source depth good bad ((pure value : Scan α) ⟨pos, depth⟩) :=
  .ok h hgood

/-- An error at an earlier position. -/
theorem ends_failAt {cause : Cause} {place : Nat} (hplace : Before source place rest)
    (h : Before source pos text) (hbad : bad ⟨rest, cause⟩) :
    Ends source depth good bad ((failAt place cause : Scan α) ⟨pos, depth⟩) :=
  have hfault : Before source place (Fault.mk rest cause).rest := hplace
  .error hfault h hbad

/-- An error at the cursor. -/
theorem ends_fail {cause : Cause} (h : Before source pos text) (hbad : bad ⟨text, cause⟩) :
    Ends source depth good bad ((fail cause : Scan α) ⟨pos, depth⟩) :=
  ends_failAt h h hbad

end Ends

/-- Nothing to do after a computation changes nothing. -/
theorem andThen_done (scan : Scan α) : andThen scan done = scan := by
  funext cursor
  rw [andThen]
  rcases scan cursor with _ | ⟨_ | _, _⟩ <;> rfl

/-- One after another is associative. -/
theorem andThen_assoc {γ : Type} (scan : Scan α) (next : α → Scan β) (last : β → Scan γ) :
    andThen (andThen scan next) last = andThen scan fun value => andThen (next value) last := by
  funext cursor
  rw [andThen, andThen, andThen]
  rcases scan cursor with _ | ⟨_ | _, _⟩ <;> rfl

instance : LawfulMonad Scan :=
  LawfulMonad.mk' Scan andThen_done (fun _ _ => rfl) andThen_assoc

section Steps

/-- The cursor does not move when it is asked for. -/
theorem cursor_bind (next : Cursor → Scan β) (here : Cursor) :
    (cursor >>= next) here = next here here :=
  rfl

/-- A result is handed on. -/
theorem return_bind (value : α) (next : α → Scan β) (here : Cursor) :
    ((pure value : Scan α) >>= next) here = next value here :=
  rfl

/-- Where a text is cut. -/
theorem cut_bind {front : List Char} (next : List Char → Scan β) (here : Cursor) {bytes : Nat}
    (hbytes : byteLength front = bytes) :
    (cut (front ++ text) bytes >>= next) here = next text here := by
  change andThen (cut (front ++ text) bytes) next here = next text here
  rw [andThen, cut, splitBytes_eq_some_iff.mpr ⟨rfl, hbytes⟩]
  rfl

/-- The text from a position on. -/
theorem sliceFrom_bind (h : Before source pos text) (next : List Char → Scan β) (here : Cursor) :
    (sliceFrom source pos >>= next) here = next text here := by
  obtain ⟨front, rfl, hlength⟩ := h
  exact cut_bind next here hlength

/-- The text of a number of bytes. -/
theorem slice_bind {chars : List Char} (h : Before source pos (chars ++ text)) {bytes : Nat}
    (hbytes : byteLength chars = bytes) (next : List Char → Scan β) (here : Cursor) :
    (slice source pos bytes >>= next) here = next chars here := by
  obtain ⟨front, hsource, hlength⟩ := h
  change andThen (slice source pos bytes) next here = next chars here
  rw [andThen, slice, splitBytes_eq_some_iff.mpr ⟨hsource, hlength⟩, Option.bind_some,
    splitBytes_eq_some_iff.mpr ⟨rfl, hbytes⟩]
  rfl

/-- The cursor moves to a position before a text. -/
theorem moveTo_bind (h : Before source pos text) (hdepth : depth ≤ maxNesting) (next : Unit → Scan β)
    (here : Cursor) : (moveTo source ⟨pos, depth⟩ >>= next) here = next () ⟨pos, depth⟩ := by
  obtain ⟨front, hsource, hlength⟩ := h
  change andThen (moveTo source ⟨pos, depth⟩) next here = next () ⟨pos, depth⟩
  rw [andThen, moveTo, splitBytes_eq_some_iff.mpr ⟨hsource, hlength⟩, if_pos ⟨rfl, hdepth⟩]

/-- The text ahead. -/
theorem ahead_bind (h : Before source pos text) (next : List Char → Scan β) :
    (ahead source >>= next) ⟨pos, depth⟩ = next text ⟨pos, depth⟩ := by
  rw [ahead, bind_assoc, cursor_bind, sliceFrom_bind h]

/-- The next character. -/
theorem peek_bind (h : Before source pos text) (next : Option Char → Scan β) :
    (peek source >>= next) ⟨pos, depth⟩ = next text.head? ⟨pos, depth⟩ := by
  rw [peek, bind_assoc, ahead_bind h, return_bind]

/-- Looking at the next character gives it. -/
theorem peek_eq (h : Before source pos text) :
    peek source ⟨pos, depth⟩ = some (.ok text.head?, ⟨pos, depth⟩) := by
  rw [← bind_pure (peek source), peek_bind h]
  rfl

/-- The cursor moves over characters. -/
theorem advance_bind {chars : List Char} (h : Before source pos (chars ++ text)) {bytes : Nat}
    (hbytes : byteLength chars = bytes) (hdepth : depth ≤ maxNesting) (next : Unit → Scan β) :
    (advance source bytes >>= next) ⟨pos, depth⟩ = next () ⟨pos + bytes, depth⟩ := by
  rw [advance, bind_assoc, cursor_bind, moveTo_bind (hbytes ▸ h.append) hdepth]

/-- The next character is taken. -/
theorem bump_bind {c : Char} (h : Before source pos (c :: text)) (hdepth : depth ≤ maxNesting)
    (next : Option Char → Scan β) :
    (bump source >>= next) ⟨pos, depth⟩ = next (some c) ⟨pos + c.utf8Size, depth⟩ := by
  rw [bump, bind_assoc, peek_bind h]
  change ((advance source c.utf8Size >>= fun _ => pure (some c)) >>= next) ⟨pos, depth⟩ = _
  rw [bind_assoc, advance_bind (show Before source pos ([c] ++ text) from h) (by simp [byteLength]) hdepth,
    return_bind]

/-- At the end there is no character to take. -/
theorem bump_bind_nil (h : Before source pos []) (next : Option Char → Scan β) :
    (bump source >>= next) ⟨pos, depth⟩ = next none ⟨pos, depth⟩ := by
  rw [bump, bind_assoc, peek_bind h]
  rfl

/-- A character that comes next is taken. -/
theorem expect_bind {c : Char} (h : Before source pos (c :: text)) (hdepth : depth ≤ maxNesting)
    (next : Unit → Scan β) :
    (expect source c >>= next) ⟨pos, depth⟩ = next () ⟨pos + c.utf8Size, depth⟩ := by
  rw [expect, bind_assoc, bump_bind h hdepth]
  simp only [if_true, return_bind]

/-- Whether there is nothing more. -/
theorem atEnd_bind (h : Before source pos text) (next : Bool → Scan β) :
    (atEnd source >>= next) ⟨pos, depth⟩ = next text.isEmpty ⟨pos, depth⟩ := by
  have hend : decide (byteLength source ≤ pos) = text.isEmpty := by
    have hlength := h.add_byteLength
    cases text with
    | nil => simpa [byteLength] using hlength.symm.le
    | cons c text =>
      have hpos := byteLength_pos (List.cons_ne_nil c text)
      simpa using show pos < byteLength source by omega
  rw [atEnd, bind_assoc, cursor_bind, return_bind]
  dsimp only
  rw [hend]

end Steps

section Loop

variable {round : σ → Scan (σ ⊕ α)}

/-- A loop with more rounds than there are characters follows a reader of texts if each of its rounds
takes part in it. -/
theorem loop_follows_of_lt (reader : σ → List Char → Step α)
    (hround : ∀ {text pos}, Before source pos text → ∀ state,
      Turns source depth reader state text (round state ⟨pos, depth⟩))
    {fuel : Nat} (hfuel : text.length < fuel) (h : Before source pos text) (state : σ) :
    Follows source depth (reader state text) (loop round fuel state ⟨pos, depth⟩) := by
  induction fuel generalizing text pos state with
  | zero => exact absurd hfuel (Nat.not_lt_zero _)
  | succ fuel ih =>
    rw [loop]
    refine Ends.bind (hround h state) (fun result rest pos' hrest hresult => ?_) fun _ hfault => hfault
    cases result with
    | inl next =>
      obtain ⟨hlength, hreader⟩ := hresult
      rw [hreader]
      exact ih (by omega) hrest next
    | inr value => exact ends_return hrest hresult

/-- A loop with a round for every byte has enough of them. -/
theorem loop_follows (reader : σ → List Char → Step α)
    (hround : ∀ {text pos}, Before source pos text → ∀ state,
      Turns source depth reader state text (round state ⟨pos, depth⟩))
    (h : Before source pos text) (state : σ) :
    Follows source depth (reader state text) (loop round (rounds source) state ⟨pos, depth⟩) := by
  have hlength := h.add_byteLength
  have hle := length_le_byteLength text
  exact loop_follows_of_lt reader hround (show text.length < byteLength source + 1 by omega) h state

end Loop

end NotebookLint.Literal.Scan
