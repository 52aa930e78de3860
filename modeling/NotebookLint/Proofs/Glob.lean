import Mathlib.Data.List.Basic
import NotebookLint.Glob

/-!
# What globs mean

A text denotes at most one glob, and is refused exactly if it has a bracket that is not closed; the
place of the first one is reported. A glob matches a text if its tokens can be laid along the text,
a sequence over any number of characters and every other token over one. The matcher decides this
for all ends of the text together, and what it decides is the same as by the obvious recursion.
-/

namespace NotebookLint.Glob

section Matching

/-- Whether the tokens of a glob can be laid along a text. -/
inductive Matches : Glob → List Char → Prop where
  /-- No token is left, and no character. -/
  | nil : Matches [] []
  /-- A token accepts the first character. -/
  | accept {token : GlobToken} {glob : Glob} {c : Char} {text : List Char}
      (haccepts : token.accepts c) (hrest : Matches glob text) :
      Matches (token :: glob) (c :: text)
  /-- A sequence skips any characters. -/
  | skip {glob : Glob} {text : List Char} (skipped : List Char) (hrest : Matches glob text) :
      Matches (.anySequence :: glob) (skipped ++ text)

variable {token : GlobToken}

/-- What is decided for the ends of a text by other tokens than sequences. -/
theorem matchesEnds_token (htoken : token ≠ .anySequence) (glob : Glob) (text : List Char) :
    matchesEnds (token :: glob) text =
      List.zipWith (fun c next => token.accepts c && next) text (matchesEnds glob text).tail ++
        [false] := by
  cases token <;> first | rfl | exact absurd rfl htoken

/-- There is a decision for the text, and for what is behind each of its characters. -/
theorem length_matchesEnds (glob : Glob) (text : List Char) :
    (matchesEnds glob text).length = text.length + 1 := by
  have hset (marks : List Bool) : (setFrom marks).length = marks.length := by
    induction marks with
    | nil => rfl
    | cons mark marks ih => rw [setFrom, List.length_cons, ih, List.length_cons]
  induction glob with
  | nil => simp [matchesEnds]
  | cons token glob ih =>
    by_cases htoken : token = .anySequence
    · rw [htoken, matchesEnds, hset, ih]
    · simp [matchesEnds_token htoken, ih]

/-- The decision for the text itself comes first. -/
theorem matchesEnds_eq_cons (glob : Glob) (text : List Char) :
    matchesEnds glob text = matchesText glob text :: (matchesEnds glob text).tail := by
  have hne : matchesEnds glob text ≠ [] := by
    apply List.ne_nil_of_length_pos
    rw [length_matchesEnds]
    exact Nat.succ_pos _
  obtain ⟨mark, marks, hmarks⟩ := List.exists_cons_of_ne_nil hne
  rw [matchesText, hmarks]
  rfl

/-- The ends behind the first character of a text are decided as the ends of what is behind it. -/
theorem tail_matchesEnds_cons (glob : Glob) (c : Char) (text : List Char) :
    (matchesEnds glob (c :: text)).tail = matchesEnds glob text := by
  induction glob with
  | nil => rfl
  | cons token glob ih =>
    by_cases htoken : token = .anySequence
    · rw [htoken, matchesEnds, matchesEnds, matchesEnds_eq_cons glob (c :: text), ih]
      rfl
    · rw [matchesEnds_token htoken, matchesEnds_token htoken, ih, matchesEnds_eq_cons glob text]
      rfl

/-- No token matches the empty text only. -/
theorem matchesText_nil (text : List Char) : matchesText [] text = text.isEmpty := by
  cases text <;> rfl

/-- A sequence matches the empty text if what is behind it does. -/
theorem matchesText_sequence_nil (glob : Glob) :
    matchesText (.anySequence :: glob) [] = matchesText glob [] := by
  have htail : (matchesEnds glob []).tail = [] := by
    apply List.eq_nil_of_length_eq_zero
    rw [List.length_tail, length_matchesEnds]
    rfl
  rw [matchesText, matchesEnds, matchesEnds_eq_cons, htail]
  exact Bool.or_false _

/-- A sequence skips a character, or what is behind it matches. -/
theorem matchesText_sequence_cons (glob : Glob) (c : Char) (text : List Char) :
    matchesText (.anySequence :: glob) (c :: text) =
      (matchesText glob (c :: text) || matchesText (.anySequence :: glob) text) := by
  rw [matchesText, matchesEnds, matchesEnds_eq_cons glob (c :: text), tail_matchesEnds_cons]
  rfl

/-- Any other token needs a character. -/
theorem matchesText_token_nil (htoken : token ≠ .anySequence) (glob : Glob) :
    matchesText (token :: glob) [] = false := by
  rw [matchesText, matchesEnds_token htoken]
  rfl

/-- Any other token has to accept the first character. -/
theorem matchesText_token_cons (htoken : token ≠ .anySequence) (glob : Glob) (c : Char)
    (text : List Char) :
    matchesText (token :: glob) (c :: text) = (token.accepts c && matchesText glob text) := by
  rw [matchesText, matchesEnds_token htoken, tail_matchesEnds_cons, matchesEnds_eq_cons]
  rfl

/-- What is behind a sequence matches an end of the text. -/
theorem Matches.exists_skipped {glob : Glob} {text : List Char}
    (h : Matches (.anySequence :: glob) text) :
    ∃ skipped rest, text = skipped ++ rest ∧ Matches glob rest := by
  cases h with
  | accept haccepts _ => cases haccepts
  | skip skipped hrest => exact ⟨skipped, _, rfl, hrest⟩

/-- A glob matches a text exactly if its tokens can be laid along it. -/
theorem matchesText_iff (glob : Glob) (text : List Char) :
    matchesText glob text ↔ Matches glob text := by
  constructor
  · intro h
    induction glob generalizing text with
    | nil =>
      rw [matchesText_nil, List.isEmpty_iff] at h
      rw [h]
      exact .nil
    | cons token glob ih =>
      by_cases htoken : token = .anySequence
      · subst htoken
        induction text with
        | nil =>
          rw [matchesText_sequence_nil] at h
          exact .skip [] (ih [] h)
        | cons c text ihText =>
          rw [matchesText_sequence_cons, Bool.or_eq_true] at h
          rcases h with hhere | hlater
          · exact .skip [] (ih _ hhere)
          · obtain ⟨skipped, rest, rfl, hrest⟩ := (ihText hlater).exists_skipped
            exact .skip (c :: skipped) hrest
      · cases text with
        | nil =>
          rw [matchesText_token_nil htoken] at h
          cases h
        | cons c text =>
          rw [matchesText_token_cons htoken, Bool.and_eq_true] at h
          exact .accept h.1 (ih text h.2)
  · intro h
    induction h with
    | nil => rfl
    | @accept token glob c text haccepts _ ih =>
      have htoken : token ≠ .anySequence := by
        rintro rfl
        cases haccepts
      rw [matchesText_token_cons htoken, haccepts, ih]
      rfl
    | @skip glob text skipped _ ih =>
      induction skipped with
      | nil =>
        cases text with
        | nil => rwa [List.nil_append, matchesText_sequence_nil]
        | cons c text => rw [List.nil_append, matchesText_sequence_cons, ih, Bool.true_or]
      | cons c skipped ihSkipped =>
        rw [List.cons_append, matchesText_sequence_cons, ihSkipped, Bool.or_true]

end Matching

section Reading

/-- What stands between brackets: a class of characters, or of exceptions. It holds a closing bracket
only as its first character. -/
inductive Bracketed : List Char → GlobToken → Prop where
  /-- A class of characters. -/
  | within {first : Char} {inner : List Char} (hfirst : first ≠ '!') (hinner : ']' ∉ inner) :
      Bracketed (first :: inner) (.within (classItems (first :: inner)))
  /-- A class of exceptions. -/
  | except {first : Char} {inner : List Char} (hinner : ']' ∉ inner) :
      Bracketed ('!' :: first :: inner) (.except (classItems (first :: inner)))

/-- The texts of single tokens. -/
inductive Spells : List Char → GlobToken → Prop where
  /-- A question mark stands for any character. -/
  | anyChar : Spells ['?'] .anyChar
  /-- A star stands for any characters. -/
  | anySequence : Spells ['*'] .anySequence
  /-- Brackets stand for the class between them. -/
  | bracketed {inside : List Char} {token : GlobToken} (hinside : Bracketed inside token) :
      Spells ('[' :: (inside ++ [']'])) token
  /-- Any other character stands for itself. -/
  | char {c : Char} (hc : c ∉ ['?', '*', '[']) : Spells [c] (.char c)

/-- Whether a text says a glob, token by token. -/
inductive Reads : List Char → Glob → Prop where
  /-- An empty text says nothing. -/
  | nil : Reads [] []
  /-- A token is in front. -/
  | cons {piece text : List Char} {token : GlobToken} {glob : Glob} (hpiece : Spells piece token)
      (hrest : Reads text glob) : Reads (piece ++ text) (token :: glob)

/-- Whether the first bracket of a text that nothing closes is at a place. -/
def UnclosedAt (text : List Char) (place : Nat) : Prop :=
  ∃ front glob rest, text = front ++ '[' :: rest ∧ Reads front glob ∧ place = front.length ∧
    ∀ inside token after, Bracketed inside token → rest ≠ inside ++ ']' :: after

/-- A text is split at its first closing bracket. -/
theorem splitClosing_eq_some_iff {text inner after : List Char} :
    splitClosing text = some (inner, after) ↔ text = inner ++ ']' :: after ∧ ']' ∉ inner := by
  constructor
  · intro h
    induction text generalizing inner with
    | nil => cases h
    | cons c text ih =>
      rw [splitClosing] at h
      split at h
      · rename_i hc
        obtain ⟨rfl, rfl⟩ := Prod.mk.inj (Option.some.inj h)
        exact ⟨by rw [hc]; rfl, List.not_mem_nil⟩
      · rename_i hc
        obtain ⟨⟨rest, after'⟩, hrest, heq⟩ := Option.map_eq_some_iff.mp h
        obtain ⟨rfl, rfl⟩ := Prod.mk.inj heq
        obtain ⟨rfl, hinner⟩ := ih hrest
        exact ⟨rfl, by simp [Ne.symm hc, hinner]⟩
  · rintro ⟨rfl, hinner⟩
    induction inner with
    | nil => rfl
    | cons c inner ih =>
      rw [List.mem_cons, not_or] at hinner
      rw [List.cons_append, splitClosing, if_neg (Ne.symm hinner.1), ih hinner.2]
      rfl

/-- What is read after an opening bracket is what stands between brackets. -/
theorem bracket_eq_some_iff {text after : List Char} {token : GlobToken} :
    bracket text = some (token, after) ↔
      ∃ inside, Bracketed inside token ∧ text = inside ++ ']' :: after := by
  constructor
  · intro h
    fun_cases bracket text with
    | case1 first rest =>
      obtain ⟨⟨inner, after'⟩, hsplit, heq⟩ := Option.map_eq_some_iff.mp h
      obtain ⟨rfl, rfl⟩ := Prod.mk.inj heq
      obtain ⟨rfl, hinner⟩ := splitClosing_eq_some_iff.mp hsplit
      exact ⟨_, .except hinner, rfl⟩
    | case2 => cases h
    | case3 first rest hexcept hmark =>
      have hfirst : first ≠ '!' := by
        intro hfirst
        cases rest with
        | nil => exact hmark hfirst rfl
        | cons next rest => exact hexcept next rest hfirst rfl
      have hread : bracket (first :: rest) = (splitClosing rest).map fun split =>
          (.within (classItems (first :: split.1)), split.2) := by
        rw [bracket]
        · exact hexcept
        · exact hmark
      rw [hread] at h
      obtain ⟨⟨inner, after'⟩, hsplit, heq⟩ := Option.map_eq_some_iff.mp h
      obtain ⟨rfl, rfl⟩ := Prod.mk.inj heq
      obtain ⟨rfl, hinner⟩ := splitClosing_eq_some_iff.mp hsplit
      exact ⟨_, .within hfirst hinner, rfl⟩
    | case4 => cases h
  · rintro ⟨inside, hinside, rfl⟩
    cases hinside with
    | @within first inner hfirst hinner =>
      have hsplit : splitClosing (inner ++ ']' :: after) = some (inner, after) :=
        splitClosing_eq_some_iff.mpr ⟨rfl, hinner⟩
      rw [List.cons_append, bracket, hsplit]
      · rfl
      · exact fun _ _ h => absurd h hfirst
      · exact fun h => absurd h hfirst
    | @except first inner hinner =>
      rw [List.cons_append, List.cons_append, bracket, splitClosing_eq_some_iff.mpr ⟨rfl, hinner⟩]
      rfl

/-- A token is read, and then what is behind it. -/
theorem parseFrom_of_spells {piece : List Char} {token : GlobToken} (h : Spells piece token)
    (fuel place : Nat) (text : List Char) :
    parseFrom (fuel + 1) place (piece ++ text) =
      (parseFrom fuel (place + piece.length) text).map (token :: ·) := by
  cases h with
  | anyChar => rfl
  | anySequence => rfl
  | @bracketed inside token hinside =>
    have hbracket : bracket (inside ++ ']' :: text) = some (token, text) :=
      bracket_eq_some_iff.mpr ⟨inside, hinside, rfl⟩
    have hplace : place + 1 + ((inside ++ ']' :: text).length - text.length) =
        place + ('[' :: (inside ++ [']'])).length := by
      simp only [List.length_append, List.length_cons, List.length_nil]
      omega
    rw [List.cons_append, List.append_assoc, List.singleton_append, parseFrom, if_neg (by decide),
      if_neg (by decide), if_pos rfl, hbracket]
    dsimp only
    rw [hplace]
  | @char c hc =>
    simp only [List.mem_cons, List.not_mem_nil, or_false, not_or] at hc
    rw [List.singleton_append, parseFrom, if_neg hc.1, if_neg hc.2.1, if_neg hc.2.2]
    rfl

/-- What says a glob is read, and then what is behind it, if there is fuel for all characters. -/
theorem parseFrom_of_reads {front rest : List Char} {glob : Glob} {place : Nat}
    {result : Except Nat Glob} (h : Reads front glob)
    (hrest : ∀ fuel, rest.length ≤ fuel → parseFrom fuel (place + front.length) rest = result)
    {fuel : Nat} (hfuel : (front ++ rest).length ≤ fuel) :
    parseFrom fuel place (front ++ rest) = result.map (glob ++ ·) := by
  induction h generalizing place fuel with
  | nil =>
    have hread := hrest fuel hfuel
    rw [List.length_nil, Nat.add_zero] at hread
    rw [List.nil_append, hread]
    cases result <;> rfl
  | @cons piece text token glob hpiece _ ih =>
    have hpositive : 0 < piece.length := by
      cases hpiece <;> exact Nat.succ_pos _
    rw [List.length_append] at hrest
    rw [List.append_assoc, List.length_append] at hfuel
    obtain ⟨fuel, rfl⟩ : ∃ less, fuel = less + 1 := Nat.exists_eq_add_one.mpr (by omega)
    rw [List.append_assoc, parseFrom_of_spells hpiece,
      ih (by rwa [Nat.add_assoc]) (by omega)]
    cases result <;> rfl

/-- A text that says a glob is read as that glob. -/
theorem parse_of_reads {text : List Char} {glob : Glob} (h : Reads text glob) :
    parse text = .ok glob := by
  have hend (fuel : Nat) (_ : ([] : List Char).length ≤ fuel) :
      parseFrom fuel (0 + text.length) [] = .ok [] := by
    cases fuel <;> rfl
  have hparse := parseFrom_of_reads h hend (Nat.le_refl (text ++ []).length)
  rw [List.append_nil] at hparse
  rw [parse, hparse, Except.map, List.append_nil]

/-- A bracket that nothing closes is reported by its place. -/
theorem parse_of_unclosedAt {text : List Char} {place : Nat} (h : UnclosedAt text place) :
    parse text = .error place := by
  obtain ⟨front, glob, rest, rfl, hreads, rfl, hunclosed⟩ := h
  have hnone : bracket rest = none := by
    cases hbracket : bracket rest with
    | none => rfl
    | some found =>
      obtain ⟨inside, hinside, hrest⟩ := bracket_eq_some_iff.mp hbracket
      exact absurd hrest (hunclosed _ _ _ hinside)
  have hstop (fuel : Nat) (hfuel : ('[' :: rest).length ≤ fuel) :
      parseFrom fuel (0 + front.length) ('[' :: rest) = .error front.length := by
    cases fuel with
    | zero => cases hfuel
    | succ fuel =>
      rw [parseFrom, if_neg (by decide), if_neg (by decide), if_pos rfl, hnone, Nat.zero_add]
  rw [parse, parseFrom_of_reads hreads hstop (Nat.le_refl _)]
  rfl

/-- Every text says a glob or has a bracket that nothing closes. -/
theorem reads_or_unclosedAt (text : List Char) :
    (∃ glob, Reads text glob) ∨ ∃ place, UnclosedAt text place := by
  have hcons {piece rest : List Char} {token : GlobToken} (hpiece : Spells piece token)
      (h : (∃ glob, Reads rest glob) ∨ ∃ place, UnclosedAt rest place) :
      (∃ glob, Reads (piece ++ rest) glob) ∨ ∃ place, UnclosedAt (piece ++ rest) place := by
    rcases h with ⟨glob, hreads⟩ | ⟨place, front, glob, behind, rfl, hreads, rfl, hunclosed⟩
    · exact .inl ⟨token :: glob, .cons hpiece hreads⟩
    · refine .inr ⟨_, piece ++ front, token :: glob, behind, ?_, .cons hpiece hreads, rfl, hunclosed⟩
      rw [List.append_assoc]
  induction hlength : text.length using Nat.strongRecOn generalizing text with
  | ind length ih =>
    subst hlength
    match text with
    | [] => exact .inl ⟨[], .nil⟩
    | c :: rest =>
      by_cases hc : c ∈ ['?', '*', '[']
      · simp only [List.mem_cons, List.not_mem_nil, or_false] at hc
        rcases hc with rfl | rfl | rfl
        · exact hcons .anyChar (ih _ (Nat.lt_succ_self _) rest rfl)
        · exact hcons .anySequence (ih _ (Nat.lt_succ_self _) rest rfl)
        · cases hbracket : bracket rest with
          | some found =>
            obtain ⟨token, after⟩ := found
            obtain ⟨inside, hinside, rfl⟩ := bracket_eq_some_iff.mp hbracket
            have hafter := ih after.length (by simp; omega) after rfl
            simpa using hcons (.bracketed hinside) hafter
          | none =>
            refine .inr ⟨0, [], [], rest, rfl, .nil, rfl, fun inside token after hinside hrest => ?_⟩
            rw [bracket_eq_some_iff.mpr ⟨inside, hinside, hrest⟩] at hbracket
            cases hbracket
      · exact hcons (.char hc) (ih _ (Nat.lt_succ_self _) rest rfl)

/-- A text is read as a glob exactly if it says that glob. -/
theorem parse_eq_ok_iff {text : List Char} {glob : Glob} :
    parse text = .ok glob ↔ Reads text glob := by
  refine ⟨fun h => ?_, parse_of_reads⟩
  rcases reads_or_unclosedAt text with ⟨other, hreads⟩ | ⟨place, hunclosed⟩
  · rw [parse_of_reads hreads, Except.ok.injEq] at h
    rwa [← h]
  · rw [parse_of_unclosedAt hunclosed] at h
    cases h

/-- It is refused exactly if it has a bracket that nothing closes, by the place of the first one. -/
theorem parse_eq_error_iff {text : List Char} {place : Nat} :
    parse text = .error place ↔ UnclosedAt text place := by
  refine ⟨fun h => ?_, parse_of_unclosedAt⟩
  rcases reads_or_unclosedAt text with ⟨glob, hreads⟩ | ⟨other, hunclosed⟩
  · rw [parse_of_reads hreads] at h
    cases h
  · rw [parse_of_unclosedAt hunclosed, Except.error.injEq] at h
    rwa [← h]

end Reading

end NotebookLint.Glob
