import NotebookLint.Proofs.Literal.Cursor.Outcome
import NotebookLint.Proofs.Literal.Digit
import NotebookLint.Proofs.Literal.Quoted

/-!
# Reading blanks and strings with a cursor

The cursor passes over blanks, reads escapes, bodies and string literals, and joins adjacent ones as
the readers of texts do. What is sliced and passed over by a number of bytes is made of characters of
one byte each: quotes, prefix letters and hexadecimal digits.
-/

namespace NotebookLint.Literal

open NotebookLint.Text

/-- A quote has one byte. -/
theorem utf8Size_of_isQuote {c : Char} (hc : isQuote c) : c.utf8Size = 1 := by
  rcases (isQuote_iff c).mp hc with rfl | rfl <;> rfl

/-- A prefix letter has one byte. -/
theorem utf8Size_of_isStringPrefix {c : Char} (hc : isStringPrefix c) : c.utf8Size = 1 := by
  rcases (isStringPrefix_iff c).mp hc with rfl | rfl | rfl | rfl <;> rfl

/-- A hexadecimal digit has one byte. -/
theorem utf8Size_of_hexValue {c : Char} (hc : (hexValue c).isSome) : c.utf8Size = 1 := by
  obtain ⟨value, hvalue⟩ := Option.isSome_iff_exists.mp hc
  exact of_digitChars (p := fun d => d.utf8Size = 1) (by decide) (Nat.le_refl 16)
    (hexValue_eq_some_iff.mp hvalue).1

/-- Hexadecimal digits are the same counted as characters and cut off as bytes. -/
theorem bind_splitBytes (count : Nat) (text : List Char) :
    (((splitBytes text count).map Prod.fst).filter (·.all fun c => (hexValue c).isSome)).bind
      (hexPrefix count 0) = hexPrefix count 0 text := by
  have hbytes {digits : List Char} (hdigits : ∀ c ∈ digits, (hexValue c).isSome) :
      byteLength digits = digits.length :=
    byteLength_eq_length fun c hc => utf8Size_of_hexValue (hdigits c hc)
  cases hcode : hexPrefix count 0 text with
  | some code =>
    obtain ⟨digits, rest, rfl, rfl, hdigits⟩ := exists_digits_of_hexPrefix hcode
    have hall : (digits.all fun c => (hexValue c).isSome) = true := List.all_eq_true.mpr hdigits
    rw [splitBytes_eq_some_iff.mpr ⟨rfl, hbytes hdigits⟩, Option.map_some, Option.filter_some, if_pos hall,
      Option.bind_some, ← hcode, hexPrefix_append]
  | none =>
    refine Option.eq_none_iff_forall_ne_some.mpr fun code hfound => ?_
    obtain ⟨digits, hdigits, hprefix⟩ := Option.bind_eq_some_iff.mp hfound
    obtain ⟨hmap, hall⟩ := Option.filter_eq_some_iff.mp hdigits
    obtain ⟨⟨front, rest⟩, hsplit, rfl⟩ := Option.map_eq_some_iff.mp hmap
    obtain ⟨rfl, hlength⟩ := splitBytes_eq_some_iff.mp hsplit
    rw [← hlength, hbytes (List.all_eq_true.mp hall)] at hcode hprefix
    rw [hexPrefix_append, hprefix] at hcode
    cases hcode

/-- Nothing in front changes nothing. -/
theorem prepend_nil (step : Step (List Char)) : prepend [] step = step := by
  cases step <;> rfl

/-- Characters in front of others are in front of all. -/
theorem prepend_prepend (chars more : List Char) (step : Step (List Char)) :
    prepend chars (prepend more step) = prepend (chars ++ more) step := by
  cases step with
  | ok result => rw [prepend, prepend, prepend, List.append_assoc]
  | error fault => rfl

/-- What an escape means, with the text after its digits. -/
def escapeStep (text : List Char) : Except Cause (List Char × Nat) → Step (List Char)
  | .ok (chars, skip) => .ok (chars, text.drop skip)
  | .error cause => .error ⟨text, cause⟩

/-- What a backslash in a body stands for, with the text after what belongs to it. -/
def backslashStep (form : BodyForm) : List Char → Step (List Char)
  | [] => if form.raw then .ok (['\\'], []) else .error ⟨[], .unterminatedEscape⟩
  | letter :: rest =>
    if form.raw then .ok (['\\', letter], rest) else escapeStep rest (escape letter rest)

/-- A backslash takes no text back. -/
theorem length_le_of_backslashStep {form : BodyForm} {text chars rest : List Char}
    (h : backslashStep form text = .ok (chars, rest)) : rest.length ≤ text.length := by
  rw [backslashStep.eq_def] at h
  split at h
  · split at h
    · obtain ⟨-, rfl⟩ := Prod.mk.inj (Except.ok.inj h)
      exact Nat.le_refl _
    · cases h
  · rename_i letter after
    split at h
    · obtain ⟨-, rfl⟩ := Prod.mk.inj (Except.ok.inj h)
      exact Nat.le_succ _
    · rw [escapeStep.eq_def] at h
      split at h
      · obtain ⟨-, rfl⟩ := Prod.mk.inj (Except.ok.inj h)
        rw [List.length_drop, List.length_cons]
        omega
      · cases h

/-- After a backslash a body goes on with the text after what belongs to it. -/
theorem readBody_backslash {form : BodyForm} (hquote : isQuote form.quote) (start text : List Char) :
    readBody form start 0 ('\\' :: text) =
      match backslashStep form text with
      | .ok (chars, rest) => prepend chars (readBody form start 0 rest)
      | .error fault => .error fault := by
  rw [readBody.eq_def]
  simp only [closes_backslash hquote, Bool.false_eq_true, if_false, if_true]
  rw [if_neg (by simp)]
  cases text with
  | nil => cases hraw : form.raw <;> simp [backslashStep, hraw, readBody, prepend]
  | cons letter rest =>
    cases hraw : form.raw with
    | true => simp only [backslashStep, hraw, if_true]
    | false =>
      simp only [backslashStep, hraw, Bool.false_eq_true, if_false]
      cases escape letter rest with
      | ok result => exact congrArg (prepend result.1) (readBody_drop start result.2 rest)
      | error cause => rfl

/-- Behind characters there is less text. -/
theorem length_lt_of_eq_append {text body rest : List Char} (htext : text = body ++ rest) (hbody : body ≠ []) :
    rest.length < text.length := by
  rw [htext, List.length_append]
  exact Nat.lt_add_of_pos_left (List.length_pos_of_ne_nil hbody)

/-- Reading where a string begins takes characters. -/
theorem length_lt_of_readString {text chars rest : List Char} (hbegins : beginsString text)
    (h : readString text = .ok (chars, rest)) : rest.length < text.length := by
  obtain ⟨literal, htext, hliteral⟩ := literal_of_readString hbegins h
  exact length_lt_of_eq_append htext (List.ne_nil_of_length_pos hliteral.length_pos)

/-- There is room for all adjacent strings if there is room for the text. -/
theorem readAdjacent_eq {fuel fuel' : Nat} {text : List Char} (hfuel : text.length ≤ fuel)
    (hfuel' : text.length ≤ fuel') : readAdjacent fuel text = readAdjacent fuel' text := by
  have hnil (fuel : Nat) : readAdjacent fuel [] = .ok ([], []) := by cases fuel <;> rfl
  induction fuel generalizing fuel' text with
  | zero => rw [List.eq_nil_of_length_eq_zero (Nat.le_zero.mp hfuel), hnil, hnil]
  | succ fuel ih =>
    cases fuel' with
    | zero => rw [List.eq_nil_of_length_eq_zero (Nat.le_zero.mp hfuel'), hnil, hnil]
    | succ fuel' =>
      rw [readAdjacent, readAdjacent]
      split
      · rename_i hbegins
        have hskip := skipBlanks_length_le text
        cases hread : readString (skipBlanks text) with
        | error fault => rfl
        | ok result =>
          have hlength := length_lt_of_readString hbegins hread
          dsimp only
          rw [ih (show result.2.length ≤ fuel by omega) (show result.2.length ≤ fuel' by omega)]
      · rfl

/-- The adjacent strings in all of a text. -/
theorem readAdjacent_length (text : List Char) :
    readAdjacent text.length text =
      if beginsString (skipBlanks text) then
        match readString (skipBlanks text) with
        | .ok (chars, rest) => prepend chars (readAdjacent rest.length rest)
        | .error fault => .error fault
      else .ok ([], text) := by
  rw [readAdjacent_eq (Nat.le_refl _) (Nat.le_succ text.length), readAdjacent]
  split
  · rename_i hbegins
    have hskip := skipBlanks_length_le text
    cases hread : readString (skipBlanks text) with
    | error fault => rfl
    | ok result =>
      have hlength := length_lt_of_readString hbegins hread
      dsimp only
      rw [readAdjacent_eq (show result.2.length ≤ text.length by omega) (Nat.le_refl _)]
  · rfl

namespace Scan

variable {α β : Type} {source text : List Char} {pos depth : Nat}

/-- The rounds over blanks pass over blanks. -/
theorem blankRound_turns (hdepth : depth ≤ maxNesting) (h : Before source pos text) (state : Unit) :
    Turns source depth (fun _ text => .ok ((), skipBlanks text)) state text
      (blankRound source state ⟨pos, depth⟩) := by
  rw [blankRound, peek_bind h]
  cases text with
  | nil => exact ends_return h rfl
  | cons c rest =>
    rw [List.head?_cons]
    by_cases hc : isBlank c
    · simp only [hc, if_true]
      rw [bump_bind h hdepth]
      exact ends_return h.cons ⟨Nat.lt_succ_self _, by simp only [skipBlanks, hc, if_true]⟩
    · simp only [hc, Bool.false_eq_true, if_false]
      exact ends_return h (by simp only [skipBlanks, hc, Bool.false_eq_true, if_false])

/-- The cursor passes over blanks. -/
theorem skip_follows (hdepth : depth ≤ maxNesting) (h : Before source pos text) :
    Follows source depth (.ok ((), skipBlanks text)) (skip source ⟨pos, depth⟩) :=
  loop_follows (fun _ text => .ok ((), skipBlanks text)) (blankRound_turns hdepth) h ()

/-- After blanks a computation ends as it does without them. -/
theorem ends_skip {good : α → List Char → Prop} {bad : Fault → Prop} {next : Unit → Scan α}
    (hdepth : depth ≤ maxNesting) (h : Before source pos text)
    (hnext : ∀ {pos}, Before source pos (skipBlanks text) →
      Ends source depth good bad (next () ⟨pos, depth⟩)) :
    Ends source depth good bad ((skip source >>= next) ⟨pos, depth⟩) := by
  refine (skip_follows hdepth h).bind (fun hstep hrest => ?_) nofun
  obtain ⟨-, rfl⟩ := Prod.mk.inj (Except.ok.inj hstep)
  exact hnext hrest

/-- The cursor reads hexadecimal escapes. -/
theorem hexChars_follows (hdepth : depth ≤ maxNesting) (h : Before source pos text) (count : Nat) :
    Follows source depth (escapeStep text (hexEscape count text)) (hexChars source count ⟨pos, depth⟩) := by
  rw [hexChars, ahead_bind h, bind_splitBytes, hexEscape]
  cases hcode : hexPrefix count 0 text with
  | none => exact ends_fail h rfl
  | some code =>
    by_cases hvalid : code.isValidChar
    · simp only [hvalid, if_true]
      obtain ⟨digits, rest, rfl, rfl, hdigits⟩ := exists_digits_of_hexPrefix hcode
      have hbytes := byteLength_eq_length fun c hc => utf8Size_of_hexValue (hdigits c hc)
      rw [advance_bind h hbytes hdepth]
      exact ends_return (hbytes ▸ h.append) (by rw [escapeStep, List.drop_left])
    · simp only [hvalid, if_false]
      exact ends_fail h rfl

/-- The cursor reads escapes. -/
theorem escapeChars_follows (hdepth : depth ≤ maxNesting) {letter : Char}
    (h : Before source pos (letter :: text)) :
    Follows source depth (escapeStep text (escape letter text)) (escapeChars source ⟨pos, depth⟩) := by
  rw [escapeChars, bump_bind h hdepth]
  dsimp only
  split
  · rename_i hletter
    exact hletter ▸ hexChars_follows hdepth h.cons 2
  split
  · rename_i hletter
    exact hletter ▸ hexChars_follows hdepth h.cons 4
  split
  · rename_i hletter
    exact hletter ▸ hexChars_follows hdepth h.cons 8
  have hsimple : ∃ meaning, ∀ rest, escape letter rest = .ok (meaning, 0) := by
    unfold escape
    split <;> first | exact ⟨_, fun _ => rfl⟩ | contradiction
  obtain ⟨meaning, hmeaning⟩ := hsimple
  rw [hmeaning, hmeaning]
  exact ends_return h.cons rfl

/-- The cursor reads what a backslash stands for. -/
theorem afterBackslash_follows (hdepth : depth ≤ maxNesting) (h : Before source pos text)
    (form : BodyForm) :
    Follows source depth (backslashStep form text) (afterBackslash source form ⟨pos, depth⟩) := by
  cases hraw : form.raw with
  | true =>
    simp only [afterBackslash, hraw, if_true]
    cases text with
    | nil =>
      rw [bump_bind_nil h]
      exact ends_return h (by simp only [backslashStep, hraw, if_true])
    | cons letter rest =>
      rw [bump_bind h hdepth]
      exact ends_return h.cons (by simp only [backslashStep, hraw, if_true])
  | false =>
    simp only [afterBackslash, hraw, Bool.false_eq_true, if_false]
    cases text with
    | nil =>
      rw [escapeChars, bump_bind_nil h]
      exact ends_fail h (by simp only [backslashStep, hraw, Bool.false_eq_true, if_false])
    | cons letter rest =>
      simp only [backslashStep, hraw, Bool.false_eq_true, if_false]
      exact escapeChars_follows hdepth h

/-- A body that is not read to its end yet: the characters that it has so far, and what comes. -/
def bodyAfter (form : BodyForm) (start out text : List Char) : Step (List Char) :=
  prepend out (readBody form start 0 text)

/-- The rounds over a body read the body. -/
theorem bodyRound_turns (hdepth : depth ≤ maxNesting) {form : BodyForm} (hquote : isQuote form.quote)
    {start : List Char} {startPos : Nat} (hstart : Before source startPos start)
    (h : Before source pos text) (out : List Char) :
    Turns source depth (bodyAfter form start) out text (bodyRound source form startPos out ⟨pos, depth⟩) := by
  have hcloses {rest : List Char} (htext : text = form.quotes ++ rest) :
      bodyAfter form start out text = .ok (out, rest) := by
    rw [bodyAfter, htext, readBody_quotes, prepend, List.append_nil]
  rw [bodyRound, ahead_bind h]
  -- the cases are those of the round: what closes a tripled body comes before the next character
  split
  · rename_i htriple
    rw [Bool.and_eq_true, List.isPrefixOf_iff_prefix] at htriple
    obtain ⟨rest, rfl⟩ := htriple.2
    have hbytes : byteLength [form.quote, form.quote, form.quote] = 3 :=
      byteLength_eq_length (by simp [utf8Size_of_isQuote hquote])
    rw [advance_bind h hbytes hdepth]
    exact ends_return (hbytes ▸ h.append) (hcloses (by rw [BodyForm.quotes, if_pos htriple.1]))
  rename_i htriple
  cases text with
  | nil =>
    rw [bump_bind_nil h]
    exact ends_failAt hstart h rfl
  | cons c rest =>
    rw [bump_bind h hdepth]
    dsimp only
    split
    · rename_i hclose
      exact ends_return h.cons (hcloses (by rw [BodyForm.quotes, hclose.2, hclose.1]; rfl))
    rename_i hclose
    have hopen : closes form (c :: rest) = false := by
      cases hform : form.triple with
      | true =>
        rw [closes, if_pos hform]
        exact Bool.eq_false_iff.mpr fun hprefix => htriple (by rw [hform, hprefix]; rfl)
      | false =>
        rw [closes, if_neg (by simp [hform])]
        simpa using fun heq => hclose ⟨heq, hform⟩
    split
    · rename_i hfeed
      refine ends_failAt hstart h.cons ?_
      rw [bodyAfter, readBody.eq_def]
      simp only [hopen, Bool.false_eq_true, if_false]
      rw [if_pos hfeed, prepend]
    rename_i hfeed
    split
    · rename_i hbackslash
      subst hbackslash
      have hread := readBody_backslash hquote start rest
      refine (afterBackslash_follows hdepth h.cons form).bind (fun hstep hrest => ?_) fun hstep => ?_
      · have hlength := length_le_of_backslashStep hstep
        refine ends_return hrest ⟨Nat.lt_succ_of_le hlength, ?_⟩
        rw [bodyAfter, hread, hstep]
        exact prepend_prepend _ _ _
      · rw [bodyAfter, hread, hstep]
        rfl
    · rename_i hbackslash
      refine ends_return h.cons ⟨Nat.lt_succ_self _, ?_⟩
      rw [bodyAfter, readBody_plain start hopen (by simpa using hfeed) hbackslash, prepend_prepend]
      rfl

/-- The prefix letter is taken if there is one. -/
theorem rawPrefix_bind (hdepth : depth ≤ maxNesting) {mark : Option Char}
    (hmark : ∀ c ∈ mark, isStringPrefix c) {quote : Char} (hquote : isQuote quote)
    (h : Before source pos (mark.toList ++ quote :: text)) (next : Bool → Scan β) :
    (rawPrefix source >>= next) ⟨pos, depth⟩ =
      next (mark.any isRawPrefix) ⟨pos + byteLength mark.toList, depth⟩ := by
  rw [rawPrefix, bind_assoc, peek_bind h]
  cases mark with
  | none =>
    simp only [Option.toList_none, List.nil_append, List.head?_cons, isStringPrefix_of_isQuote hquote,
      Bool.false_eq_true, if_false, return_bind]
    rfl
  | some letter =>
    simp only [Option.toList_some, List.cons_append, List.nil_append, List.head?_cons, hmark letter rfl,
      if_true]
    rw [bind_assoc, bump_bind h hdepth]
    rfl

/-- Where a string begins the cursor reads it. -/
theorem string_follows (hdepth : depth ≤ maxNesting) (hbegins : beginsString text)
    (h : Before source pos text) :
    Follows source depth (readString text) (string source ⟨pos, depth⟩) := by
  obtain ⟨mark, quote, rest, hmark, hquote, rfl⟩ := exists_mark_of_beginsString hbegins
  rw [string, rawPrefix_bind hdepth hmark hquote h, cursor_bind, bump_bind h.append hdepth,
    readString_mark hmark hquote, readQuoted]
  simp only [hquote, if_true]
  rw [sliceFrom_bind h.append]
  have htriple : [quote, quote, quote].isPrefixOf (quote :: rest) = [quote, quote].isPrefixOf rest := by
    simp [List.isPrefixOf]
  rw [htriple]
  have hloop {form : BodyForm} (hform : isQuote form.quote) {body : List Char} {bodyPos : Nat}
      (hbody : Before source bodyPos body) :=
    loop_follows (bodyAfter form (quote :: rest)) (bodyRound_turns hdepth hform h.append) hbody []
  simp only [bodyAfter, prepend_nil] at hloop
  cases hopen : [quote, quote].isPrefixOf rest with
  | false =>
    simp only [Bool.false_eq_true, if_false]
    exact hloop hquote h.append.cons
  | true =>
    obtain ⟨body, rfl⟩ := List.isPrefixOf_iff_prefix.mp hopen
    simp only [if_true]
    have hsize := utf8Size_of_isQuote hquote
    have hbody := h.append.cons.cons.cons
    rw [hsize] at hbody
    rw [moveTo_bind hbody hdepth]
    exact hloop hquote hbody

/-- Whether a string begins next. -/
theorem stringAhead_bind (h : Before source pos text) (next : Bool → Scan β) :
    (stringAhead source >>= next) ⟨pos, depth⟩ = next (beginsString text) ⟨pos, depth⟩ := by
  rw [stringAhead, bind_assoc, peek_bind h]
  cases text with
  | nil => rfl
  | cons c rest =>
    dsimp only [List.head?_cons]
    rw [beginsString]
    cases hquote : isQuote c with
    | true => rfl
    | false =>
      cases hmark : isStringPrefix c with
      | false => rfl
      | true =>
        have hbytes : byteLength [c] = 1 := utf8Size_of_isStringPrefix hmark
        simp only [Bool.false_eq_true, if_false, if_true, Bool.false_or, Bool.true_and]
        rw [bind_assoc, ahead_bind h, bind_assoc]
        exact cut_bind _ _ hbytes

/-- Looking for a string tells whether one begins. -/
theorem stringAhead_eq (h : Before source pos text) :
    stringAhead source ⟨pos, depth⟩ = some (.ok (beginsString text), ⟨pos, depth⟩) := by
  rw [← bind_pure (stringAhead source), stringAhead_bind h]
  rfl

/-- Adjacent strings that are not joined yet: the characters so far, and what comes. -/
def adjacentAfter (out text : List Char) : Step (List Char) :=
  prepend out (readAdjacent text.length text)

/-- The rounds over adjacent strings join them. -/
theorem adjacentRound_turns (hdepth : depth ≤ maxNesting) (h : Before source pos text)
    (out : List Char) :
    Turns source depth adjacentAfter out text (adjacentRound source out ⟨pos, depth⟩) := by
  have hread := readAdjacent_length text
  rw [adjacentRound, cursor_bind]
  refine ends_skip hdepth h fun hnext => ?_
  rw [stringAhead_bind hnext]
  cases hbegins : beginsString (skipBlanks text) with
  | false =>
    simp only [hbegins, Bool.false_eq_true, if_false] at hread ⊢
    rw [cursor_bind, moveTo_bind h hdepth]
    refine ends_return h ?_
    rw [adjacentAfter, hread, prepend, List.append_nil]
  | true =>
    simp only [hbegins, if_true] at hread ⊢
    refine (string_follows hdepth hbegins hnext).bind (fun hstep hrest => ?_) fun hstep => ?_
    · have hlength := length_lt_of_readString hbegins hstep
      refine ends_return hrest ⟨Nat.lt_of_lt_of_le hlength (skipBlanks_length_le text), ?_⟩
      rw [adjacentAfter, hread, hstep]
      exact prepend_prepend _ _ _
    · rw [adjacentAfter, hread, hstep]
      rfl

/-- Where a string begins the cursor reads it with those adjacent to it. -/
theorem strings_follows (hdepth : depth ≤ maxNesting) (hbegins : beginsString text)
    (h : Before source pos text) :
    Follows source depth (textStep (readStrings text)) (strings source ⟨pos, depth⟩) := by
  rw [strings, readStrings]
  refine (string_follows hdepth hbegins h).bind (fun hstep hrest => ?_) fun hstep => ?_
  · rw [hstep]
    dsimp only
    refine (loop_follows adjacentAfter (adjacentRound_turns hdepth) hrest _).bind
      (fun hstep hrest => ?_) fun hstep => ?_
    · rw [adjacentAfter] at hstep
      exact ends_return hrest (by rw [hstep, textStep])
    · rw [adjacentAfter] at hstep
      rw [hstep, textStep]
  · rw [hstep]
    rfl

end Scan

end NotebookLint.Literal
