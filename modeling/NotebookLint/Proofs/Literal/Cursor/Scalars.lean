import NotebookLint.Proofs.Literal.Cursor.Strings
import NotebookLint.Proofs.Literal.Number

/-!
# Reading numbers and words with a cursor

A number token is found by its length in bytes, with the sign of an exponent as the one character in
it that is looked at behind the longest run, and a word by the length of its longest run. The cursor
moves over a token only when it has a value.
-/

namespace NotebookLint.Literal.Scan

open NotebookLint.Text

variable {α β : Type} {source text : List Char} {pos depth : Nat}

/-- The length of a number token is that of the token split off. -/
theorem tokenLength_bind (h : Before source pos text) (next : Nat → Scan β) (here : Cursor) :
    (tokenLength source pos (text.takeWhile isNumberChar) >>= next) here =
      next (byteLength (splitNumber text).1) here := by
  have hrest : Before source (pos + byteLength (text.takeWhile isNumberChar)) (text.dropWhile isNumberChar) :=
    Before.append (by rwa [List.takeWhile_append_dropWhile])
  rw [tokenLength, splitNumber]
  generalize text.takeWhile isNumberChar = run at hrest ⊢
  generalize text.dropWhile isNumberChar = rest at hrest ⊢
  cases hmark : endsInExponentMark run with
  | false =>
    simp only [Bool.false_eq_true, if_false, Bool.false_and]
    cases rest <;> rfl
  | true =>
    simp only [if_true, Bool.true_and]
    rw [bind_assoc, sliceFrom_bind hrest]
    cases rest with
    | nil => simp [return_bind]
    | cons sign tail =>
      by_cases hsign : sign = '+' ∨ sign = '-'
      · have hbytes : byteLength [sign] = 1 := by rcases hsign with rfl | rfl <;> rfl
        simp only [List.head?_cons, Option.some.injEq, hsign, if_true]
        rw [bind_assoc, show sign :: tail = [sign] ++ tail from rfl, cut_bind _ _ hbytes, return_bind]
        rw [if_pos (by simpa using hsign), byteLength_append,
          show sign :: tail.takeWhile isExponentChar = [sign] ++ tail.takeWhile isExponentChar from rfl,
          byteLength_append, hbytes]
      · simp [hsign, return_bind]

/-- The cursor reads numbers. -/
theorem number_follows (hdepth : depth ≤ maxNesting) (h : Before source pos text) (negative : Bool) :
    Follows source depth (readNumber negative text) (number source negative ⟨pos, depth⟩) := by
  have hrun : Before source pos (text.takeWhile isNumberChar ++ text.dropWhile isNumberChar) := by
    rwa [List.takeWhile_append_dropWhile]
  rw [number, cursor_bind, ahead_bind h, slice_bind hrun rfl, tokenLength_bind h, readNumber]
  cases hsplit : splitNumber text with
  | mk token rest =>
    obtain ⟨-, rfl⟩ := shape_of_splitNumber hsplit
    rw [slice_bind h rfl]
    dsimp only
    cases hvalue : numberValue negative ((token.filter (· != '_')).map Char.toLower) with
    | none =>
      have hrefused : Follows source depth (.error ⟨token ++ rest, .badNumber (String.ofList token)⟩)
          ((fail (.badNumber (String.ofList token)) : Scan Value) ⟨pos, depth⟩) := ends_fail h rfl
      split <;> exact hrefused
    | some value =>
      split
      · exact ends_fail h rfl
      · dsimp only
        rw [advance_bind h rfl hdepth]
        exact ends_return h.append rfl

/-- After a sign the cursor reads a number. -/
theorem signed_follows (hdepth : depth ≤ maxNesting) {sign : Char}
    (h : Before source pos (sign :: text)) :
    Follows source depth (readSigned (sign == '-') text) (signed source ⟨pos, depth⟩) := by
  rw [signed, bump_bind h hdepth, readSigned]
  refine ends_skip hdepth h.cons fun hnumber => ?_
  rw [peek_bind hnumber]
  cases hbegins : (skipBlanks text).head?.any beginsNumber with
  | true =>
    simp only [if_true]
    exact number_follows hdepth hnumber _
  | false =>
    simp only [Bool.false_eq_true, if_false]
    exact ends_fail hnumber rfl

/-- The cursor reads words. -/
theorem word_follows (hdepth : depth ≤ maxNesting) (h : Before source pos text) :
    Follows source depth (readWord text) (word source ⟨pos, depth⟩) := by
  have hword : text = text.takeWhile continuesWord ++ text.dropWhile continuesWord :=
    List.takeWhile_append_dropWhile.symm
  rw [word, cursor_bind, ahead_bind h, slice_bind (hword ▸ h) rfl,
    sliceFrom_bind (Before.append (hword ▸ h)), readWord]
  generalize text.takeWhile continuesWord = word at hword ⊢
  generalize text.dropWhile continuesWord = rest at hword ⊢
  subst hword
  split
  · rename_i hquote
    match word with
    | [letter] =>
      dsimp only
      split
      · rename_i hletter
        exact strings_follows hdepth (by simp [beginsString, hletter, hquote]) h
      · exact ends_fail h rfl
    | [] | _ :: _ :: _ => exact ends_fail h rfl
  · cases constant? word with
    | some value =>
      dsimp only
      rw [advance_bind h rfl hdepth]
      exact ends_return h.append rfl
    | none => exact ends_fail h rfl

end NotebookLint.Literal.Scan
