import NotebookLint.Proofs.Literal.Cursor.Values

/-!
# The reader of literals is safe

Whatever the source is, reading it with a cursor comes to an end without getting stuck and gives what
is read from the text, with every bracket closed and every error at a character boundary. The same
holds of every reader and of every round of a loop from wherever a cursor may stand, and whenever one
of them gives something, the cursor has moved on, except when blanks or adjacent strings end.
-/

namespace NotebookLint.Literal

open NotebookLint.Text

variable {α σ : Type} {source : String}

/-- A number of bytes after which a string can be cut. -/
structure Boundary (source : String) (pos : Nat) : Prop where
  /-- There are so many bytes. -/
  le : pos ≤ source.utf8ByteSize
  /-- There is no character across. -/
  isValid : (⟨pos⟩ : String.Pos.Raw).IsValid source

/-- The boundaries are the positions before texts at the end. -/
theorem boundary_iff {pos : Nat} : Boundary source pos ↔ ∃ text, Before source.toList pos text := by
  constructor
  · rintro ⟨-, hvalid⟩
    obtain ⟨front, text, hsource, hpos⟩ := String.Pos.Raw.isValid_iff_exists_append.mp hvalid
    refine ⟨text.toList, front.toList, ?_, ?_⟩
    · rw [hsource, String.toList_append]
    · rw [byteLength_eq_utf8ByteSize, String.ofList_toList]
      exact (congrArg String.Pos.Raw.byteIdx hpos).symm
  · rintro ⟨text, h⟩
    refine ⟨?_, h.isValid⟩
    have hlength := h.add_byteLength
    rw [byteLength_eq_utf8ByteSize source.toList, String.ofList_toList] at hlength
    omega

/-- A computation that began at a cursor has not got stuck. The cursor is at a boundary again, with as
many brackets open as before, and further on if the result is one that takes characters. An error is
at a boundary. -/
inductive Completes (source : String) (start : Cursor) (takes : α → Prop) :
    Option (Except Error α × Cursor) → Prop where
  /-- A result. -/
  | ok {value : α} {pos : Nat} (hpos : Boundary source pos) (hmoved : takes value → start.pos < pos) :
      Completes source start takes (some (.ok value, ⟨pos, start.depth⟩))
  /-- An error. -/
  | error {error : Error} {pos : Nat} (hpos : Boundary source pos)
      (hoffset : Boundary source error.offset) :
      Completes source start takes (some (.error error, ⟨pos, start.depth⟩))

/-- A computation that ends as known completes. -/
theorem Scan.Ends.completes {good : α → List Char → Prop} {bad : Fault → Prop} {takes : α → Prop}
    {text : List Char} {start : Cursor} {outcome : Option (Except Error α × Cursor)}
    (h : Scan.Ends source.toList start.depth good bad outcome) (hstart : Before source.toList start.pos text)
    (hshort : ∀ value rest, good value rest → takes value → rest.length < text.length) :
    Completes source start takes outcome := by
  cases h with
  | ok hbefore hgood =>
    exact .ok (boundary_iff.mpr ⟨_, hbefore⟩) fun htakes =>
      hstart.lt_of_length_lt hbefore (hshort _ _ hgood htakes)
  | error hplace hbefore _ => exact .error (boundary_iff.mpr ⟨_, hbefore⟩) (boundary_iff.mpr ⟨_, hplace⟩)

/-- A computation completes, and takes characters whenever it gives something. -/
def Advances (source : String) (start : Cursor) (outcome : Option (Except Error α × Cursor)) : Prop :=
  Completes source start (fun _ => True) outcome

section Progress

variable {text rest : List Char}

/-- The reader of adjacent strings takes characters. -/
theorem length_lt_of_textStep {value : Value} (hbegins : beginsString text)
    (h : textStep (readStrings text) = .ok (value, rest)) : rest.length < text.length := by
  obtain ⟨body, htext, hbody⟩ := scalar_of_textStep hbegins h
  obtain ⟨c, inner, rfl, -⟩ := hbody.exists_head
  exact length_lt_of_eq_append htext (List.cons_ne_nil _ _)

/-- The reader of numbers takes characters. -/
theorem readNumber_shortens (negative : Bool) : Shortens (readNumber negative) := by
  intro text value rest h
  obtain ⟨token, hsplit, -, -, hvalue⟩ := readNumber_eq_ok_iff.mp h
  refine length_lt_of_eq_append (shape_of_splitNumber hsplit).2.symm ?_
  rintro rfl
  cases hvalue

/-- The reader of bracketed literals takes characters. -/
theorem readBracketed_shortens (room : Nat) : Shortens (readBracketed (readValue room)) := by
  intro text value rest h
  obtain ⟨body, htext, hbody⟩ := bracketed_of_readBracketed (readValue_reads room) h
  obtain ⟨c, inner, rfl, -⟩ := hbody.exists_opening
  exact length_lt_of_eq_append htext (List.cons_ne_nil _ _)

/-- The reader of a body takes at least the closing quotes. -/
theorem bodyAfter_shortens (form : BodyForm) (start out : List Char) :
    Shortens (Scan.bodyAfter form start out) := by
  intro text chars rest h
  obtain ⟨more, hmore, -⟩ := prepend_eq_ok h
  obtain ⟨digits, body, rfl, hdigits, hbody⟩ := body_of_readBody hmore
  obtain rfl := List.eq_nil_of_length_eq_zero hdigits
  refine length_lt_of_eq_append rfl ?_
  rintro rfl
  have hlength := hbody.length_quotes_le
  rw [BodyForm.quotes] at hlength
  split at hlength <;> cases hlength

/-- The reader of items takes at least the closing bracket. -/
theorem itemsAfter_shortens (room : Nat) (close : Char) (state : List Value × Bool) :
    Shortens (Scan.itemsAfter (readValue room) close state) := by
  intro text found rest h
  rw [Scan.itemsAfter] at h
  split at h
  · rename_i hitems
    obtain ⟨-, rfl⟩ := Prod.mk.inj (Except.ok.inj h)
    obtain ⟨body, rfl, -⟩ := items_of_readItems (readValue_reads room) hitems
    exact length_lt_of_eq_append (List.append_cons body close _) (by simp)
  · cases h

/-- The reader of pairs takes at least the closing brace. -/
theorem pairsAfter_shortens (room : Nat) (entries : Entries Value) :
    Shortens (Scan.pairsAfter (readValue room) entries) := by
  intro text found rest h
  rw [Scan.pairsAfter] at h
  split at h
  · rename_i hpairs
    obtain ⟨-, rfl⟩ := Prod.mk.inj (Except.ok.inj h)
    obtain ⟨body, rfl, -⟩ := pairs_of_readPairs (readValue_reads room) hpairs
    exact length_lt_of_eq_append (List.append_cons body '}' _) (by simp)
  · cases h

end Progress

/-- A character comes next. -/
def Next (source : String) (start : Cursor) (c : Char) : Prop :=
  Scan.peek source.toList start = some (.ok (some c), start)

/-- A string literal comes next. -/
def NextString (source : String) (start : Cursor) : Prop :=
  Scan.stringAhead source.toList start = some (.ok true, start)

/-- Every reader that is called where what it reads begins completes, and takes characters if it gives a
value. -/
structure ReadersComplete (source : String) (start : Cursor) : Prop where
  /-- The reader of values. -/
  value : ∀ calls, maxNesting < start.depth + calls →
    Advances source start (Scan.value source.toList calls start)
  /-- The reader of one string. -/
  string : NextString source start → Advances source start (Scan.string source.toList start)
  /-- The reader of adjacent strings. -/
  strings : NextString source start → Advances source start (Scan.strings source.toList start)
  /-- The reader of numbers. -/
  number : ∀ negative, Advances source start (Scan.number source.toList negative start)
  /-- The reader of lists. -/
  list : Next source start '[' → ∀ calls, maxNesting ≤ start.depth + calls →
    Advances source start (Scan.list source.toList (Scan.value source.toList calls) start)
  /-- The reader of what is in round brackets. -/
  parenthesized : Next source start '(' → ∀ calls, maxNesting ≤ start.depth + calls →
    Advances source start (Scan.parenthesized source.toList (Scan.value source.toList calls) start)
  /-- The reader of dictionaries. -/
  dict : Next source start '{' → ∀ calls, maxNesting ≤ start.depth + calls →
    Advances source start (Scan.dict source.toList (Scan.value source.toList calls) start)

/-- Every round of a loop completes. A round that goes on with the loop takes characters, and so does
one that ends it unless blanks or adjacent strings end. -/
structure RoundsComplete (source : String) (start : Cursor) : Prop where
  /-- The rounds over blanks. -/
  blank : Completes source start (fun result => result.isLeft) (Scan.blankRound source.toList () start)
  /-- The rounds over a body. -/
  body : ∀ form place out, isQuote form.quote → Boundary source place →
    Advances source start (Scan.bodyRound source.toList form place out start)
  /-- The rounds over adjacent strings. -/
  adjacent : ∀ out,
    Completes source start (fun result => result.isLeft) (Scan.adjacentRound source.toList out start)
  /-- The rounds over items. -/
  item : ∀ calls close state, maxNesting < start.depth + calls →
    Advances source start
      (Scan.itemRound source.toList (Scan.value source.toList calls) close state start)
  /-- The rounds over pairs. -/
  pair : ∀ calls entries, maxNesting < start.depth + calls →
    Advances source start
      (Scan.pairRound source.toList (Scan.value source.toList calls) entries start)

section Cursor

variable {text : List Char} {start : Cursor}

/-- A computation that follows a reader that takes characters advances. -/
theorem Scan.Follows.advances {step : Step α} {outcome : Option (Except Error α × Cursor)}
    (h : Scan.Follows source.toList start.depth step outcome) (hstart : Before source.toList start.pos text)
    (hshort : ∀ value rest, step = .ok (value, rest) → rest.length < text.length) :
    Advances source start outcome :=
  Scan.Ends.completes h hstart fun value rest hgood _ => hshort value rest hgood

/-- A round completes, and takes characters if it goes on. -/
theorem Scan.Turns.completes {reader : σ → List Char → Step α} {state : σ}
    {outcome : Option (Except Error (σ ⊕ α) × Cursor)}
    (h : Scan.Turns source.toList start.depth reader state text outcome)
    (hstart : Before source.toList start.pos text) :
    Completes source start (fun result => result.isLeft) outcome :=
  Scan.Ends.completes h hstart fun result _ hgood hleft =>
    match result with
    | .inl _ => hgood.1
    | .inr _ => nomatch hleft

/-- A round advances if the reader that it takes part in takes characters. -/
theorem Scan.Turns.advances {reader : σ → List Char → Step α} {state : σ}
    {outcome : Option (Except Error (σ ⊕ α) × Cursor)}
    (h : Scan.Turns source.toList start.depth reader state text outcome)
    (hstart : Before source.toList start.pos text) (hshort : Shortens (reader state)) :
    Advances source start outcome :=
  Scan.Ends.completes h hstart fun result _ hgood _ =>
    match result with
    | .inl _ => hgood.1
    | .inr _ => hshort hgood

/-- The text that the next character begins. -/
theorem Next.exists_rest {c : Char} (h : Next source start c) (hstart : Before source.toList start.pos text) :
    ∃ rest, text = c :: rest := by
  have hhead := (Prod.mk.inj (Option.some.inj (h.symm.trans (Scan.peek_eq hstart)))).1
  exact List.head?_eq_some_iff.mp (Except.ok.inj hhead).symm

/-- Where a string literal comes next, a string begins. -/
theorem NextString.beginsString (h : NextString source start)
    (hstart : Before source.toList start.pos text) : Literal.beginsString text := by
  have hbegins := (Prod.mk.inj (Option.some.inj (h.symm.trans (Scan.stringAhead_eq hstart)))).1
  exact (Except.ok.inj hbegins).symm

/-- The values inside brackets complete with one bracket more open. -/
theorem inside_value {room calls : Nat} (hroom : maxNesting = start.depth + room) (hcalls : room ≤ calls) :
    Scan.Inside source.toList start.depth (readValue (room - 1)) (Scan.value source.toList calls) :=
  fun hfree => Scan.value_tracks (by omega) (by omega)

/-- From wherever a cursor may stand, the readers complete. -/
theorem readersComplete (hstart : Boundary source start.pos) (hdepth : start.depth ≤ maxNesting) :
    ReadersComplete source start := by
  obtain ⟨text, htext⟩ := boundary_iff.mp hstart
  obtain ⟨room, hroom⟩ := Nat.exists_eq_add_of_le hdepth
  constructor
  case value =>
    intro calls hcalls
    exact (Scan.value_tracks hroom.symm (by omega) htext).advances htext fun _ _ h =>
      readValue_shortens room h
  case string =>
    intro hnext
    have hbegins := hnext.beginsString htext
    exact (Scan.string_follows hdepth hbegins htext).advances htext fun _ _ h =>
      length_lt_of_readString hbegins h
  case strings =>
    intro hnext
    have hbegins := hnext.beginsString htext
    exact (Scan.strings_follows hdepth hbegins htext).advances htext fun _ _ h =>
      length_lt_of_textStep hbegins h
  case number =>
    intro negative
    exact (Scan.number_follows hdepth htext negative).advances htext fun _ _ h =>
      readNumber_shortens negative h
  case list =>
    intro hnext calls hcalls
    obtain ⟨rest, rfl⟩ := hnext.exists_rest htext
    exact (Scan.list_follows (readValue_shortens _) (inside_value hroom (by omega)) htext).advances htext
      fun _ _ h => readBracketed_shortens _ (Scan.eq_ok_of_opened h)
  case parenthesized =>
    intro hnext calls hcalls
    obtain ⟨rest, rfl⟩ := hnext.exists_rest htext
    exact (Scan.parenthesized_follows (readValue_shortens _) (inside_value hroom (by omega))
      htext).advances htext fun _ _ h => readBracketed_shortens _ (Scan.eq_ok_of_opened h)
  case dict =>
    intro hnext calls hcalls
    obtain ⟨rest, rfl⟩ := hnext.exists_rest htext
    exact (Scan.dict_follows (readValue_shortens _) (inside_value hroom (by omega)) htext).advances htext
      fun _ _ h => readBracketed_shortens _ (Scan.eq_ok_of_opened h)

/-- From wherever a cursor may stand, the rounds of loops complete. -/
theorem roundsComplete (hstart : Boundary source start.pos) (hdepth : start.depth ≤ maxNesting) :
    RoundsComplete source start := by
  obtain ⟨text, htext⟩ := boundary_iff.mp hstart
  obtain ⟨room, hroom⟩ := Nat.exists_eq_add_of_le hdepth
  constructor
  case blank => exact (Scan.blankRound_turns hdepth htext ()).completes htext
  case body =>
    intro form place out hquote hplace
    obtain ⟨opening, hopening⟩ := boundary_iff.mp hplace
    exact (Scan.bodyRound_turns hdepth hquote hopening htext out).advances htext
      (bodyAfter_shortens form opening out)
  case adjacent =>
    intro out
    exact (Scan.adjacentRound_turns hdepth htext out).completes htext
  case item =>
    intro calls close state hcalls
    exact (Scan.itemRound_turns hdepth (readValue_shortens room)
      (Scan.value_tracks hroom.symm (by omega)) close htext state).advances htext
      (itemsAfter_shortens room close state)
  case pair =>
    intro calls entries hcalls
    exact (Scan.pairRound_turns hdepth (readValue_shortens room)
      (Scan.value_tracks hroom.symm (by omega)) htext entries).advances htext
      (pairsAfter_shortens room entries)

end Cursor

/-- The cursor is only ever moved to a boundary, with no more brackets open than allowed. -/
theorem boundary_of_moveTo {start target finish : Cursor}
    (h : Scan.moveTo source.toList target start = some (.ok (), finish)) :
    finish = target ∧ Boundary source finish.pos ∧ finish.depth ≤ maxNesting := by
  rw [Scan.moveTo] at h
  split at h
  · rename_i hallowed
    obtain ⟨-, rfl⟩ := Prod.mk.inj (Option.some.inj h)
    obtain ⟨⟨front, text⟩, hsplit⟩ := Option.isSome_iff_exists.mp hallowed.1
    exact ⟨rfl, boundary_iff.mpr ⟨text, front, splitBytes_eq_some_iff.mp hsplit⟩, hallowed.2⟩
  · cases h

/-- Reading with a cursor gives what is read from the text. -/
theorem fst_scan (source : String) : (scan source).map Prod.fst = some (read source) := by
  have hends := Scan.whole_ends source.toList
  rw [scan, read]
  generalize Scan.whole source.toList ⟨0, 0⟩ = outcome at hends
  cases hends with
  | ok hbefore hread =>
    rw [hread.1]
    rfl
  | error hplace hbefore hread =>
    rw [hread, Except.mapError, hplace.located_eq]
    rfl

/-- Reading a source with a cursor completes, and takes characters if it gives a value. -/
theorem scan_advances (source : String) : Advances source ⟨0, 0⟩ (scan source) := by
  refine Scan.Ends.completes (Scan.whole_ends source.toList) (Before.start _) fun value rest hread _ => ?_
  rw [hread.2]
  refine List.length_pos_of_ne_nil fun hnil => ?_
  rw [hnil] at hread
  cases hread.1

/-- Reading a literal comes to an end without getting stuck, whatever the source is: it gives what is
read from the text, it leaves the cursor at a boundary with no bracket open, and an error is at a
boundary. On the way the cursor is only moved to boundaries with no more brackets open than allowed, and
from every one of them every reader and every round of a loop completes. -/
theorem scan_safe (source : String) :
    (scan source).map Prod.fst = some (read source) ∧ Advances source ⟨0, 0⟩ (scan source) ∧
      (∀ error, read source = .error error → Boundary source error.offset) ∧
      (∀ start target finish, Scan.moveTo source.toList target start = some (.ok (), finish) →
        finish = target ∧ Boundary source finish.pos ∧ finish.depth ≤ maxNesting) ∧
      ∀ start : Cursor, Boundary source start.pos → start.depth ≤ maxNesting →
        ReadersComplete source start ∧ RoundsComplete source start := by
  have hread := fst_scan source
  have hscan := scan_advances source
  refine ⟨hread, hscan, fun error herror => ?_, fun _ _ _ => boundary_of_moveTo,
    fun start hstart hdepth => ⟨readersComplete hstart hdepth, roundsComplete hstart hdepth⟩⟩
  rw [herror] at hread
  generalize scan source = outcome at hread hscan
  cases hscan with
  | ok => cases Option.some.inj hread
  | error _ hoffset =>
    cases Except.error.inj (Option.some.inj hread)
    exact hoffset

end NotebookLint.Literal
