import NotebookLint.Proofs.Declaration.Scanner

/-!
# Literals with comments in them

A literal is written over several lines inside brackets, with comments before the line feeds there.
The scanner drops the comments and leaves the literal in the line: since the literal falls into
lexemes, the scanner leaves its brackets and strings where the literal does.
-/

namespace NotebookLint.Declaration

open NotebookLint.Text NotebookLint.Literal

/-- A text that ends with its line. -/
abbrev LineText := { text : List Char // '\n' ∉ text }

/-- A comment with its mark, if there is one. -/
def commentText : Option LineText → List Char
  | none => []
  | some comment => '#' :: comment.val

/-- A comment is dropped, up to the line feed. -/
theorem Scanner.linesOf_commentText (done : List (List Char)) (current : List Char) (depth : Nat)
    (comment : Option LineText) {rest : List Char}
    (hrest : ∀ c ∈ rest.head?, c = '\n') :
    linesOf ⟨done, current, depth, .code⟩ (commentText comment ++ rest) =
      linesOf ⟨done, current, depth, .code⟩ rest := by
  cases comment with
  | none => rfl
  | some comment => exact linesOf_hash done current depth comment.property hrest

/-- A source in which every line feed is inside brackets or a string literal, and the same source
with comments before line feeds that are inside brackets. The first `depth` brackets are open from
before. -/
inductive Commented : (depth : Nat) → (source written : List Char) → Prop where
  /-- Nothing. -/
  | nil {depth : Nat} : Commented depth [] []
  /-- A string literal, whatever it holds. -/
  | literal {depth : Nat} {following text chars written : List Char}
      (hliteral : StringLiteral following text chars) (hrest : Commented depth following written) :
      Commented depth (text ++ following) (text ++ written)
  /-- An opening bracket. -/
  | opening {depth : Nat} {c : Char} {rest written : List Char} (hc : isOpening c)
      (hrest : Commented (depth + 1) rest written) : Commented depth (c :: rest) (c :: written)
  /-- A closing bracket. -/
  | closing {depth : Nat} {c : Char} {rest written : List Char} (hc : isClosing c)
      (hrest : Commented depth rest written) : Commented (depth + 1) (c :: rest) (c :: written)
  /-- A line feed inside brackets, with or without a comment before it. -/
  | lineFeed {depth : Nat} {rest written : List Char} (comment : Option LineText)
      (hrest : Commented (depth + 1) rest written) :
      Commented (depth + 1) ('\n' :: rest) (commentText comment ++ '\n' :: written)
  /-- Any other character. -/
  | other {depth : Nat} {c : Char} {rest written : List Char} (hopening : isOpening c = false)
      (hclosing : isClosing c = false) (hline : c ≠ '\n') (hstring : beginsString (c :: rest) = false)
      (hrest : Commented depth rest written) : Commented depth (c :: rest) (c :: written)

/-- A source without line feeds is written as it is. -/
theorem commented_of_lexed {depth : Nat} {source : List Char} (h : Lexed depth source)
    (hline : '\n' ∉ source) : Commented depth source source := by
  induction h with
  | nil => exact .nil
  | literal hliteral _ ih => exact .literal hliteral (ih fun h => hline (List.mem_append_right _ h))
  | opening hc _ ih => exact .opening hc (ih fun h => hline (List.mem_cons_of_mem _ h))
  | closing hc _ ih => exact .closing hc (ih fun h => hline (List.mem_cons_of_mem _ h))
  | @plain depth c rest hc hplain _ ih =>
    have hne : c ≠ '\n' := fun h => hline (h ▸ List.mem_cons_self)
    have hmark : c ∉ marks := fun h => hne (hc h)
    refine .other (Bool.eq_false_iff.mpr fun hopening => ?_) (Bool.eq_false_iff.mpr fun hclosing => ?_)
      hne hplain (ih fun h => hline (List.mem_cons_of_mem _ h))
    · rcases (isOpening_iff c).mp hopening with rfl | rfl | rfl <;> exact hmark (by decide)
    · rcases (isClosing_iff c).mp hclosing with rfl | rfl | rfl <;> exact hmark (by decide)

/-- Comments put no quote in front. -/
theorem Commented.mem_head? {depth : Nat} {source written : List Char}
    (h : Commented depth source written) :
    ∀ quote ∈ written.head?, isQuote quote → quote ∈ source.head? := by
  cases h with
  | nil => exact fun _ hquote _ => hquote
  | opening | closing | other => exact fun _ hquote _ => hquote
  | @literal _ following text _ written hliteral =>
    intro quote hquote _
    cases text with
    | nil => exact absurd hliteral.length_pos (Nat.lt_irrefl 0)
    | cons c text => exact hquote
  | @lineFeed _ _ _ comment =>
    intro quote hquote hisQuote
    cases comment with
    | none => exact hquote
    | some comment =>
      obtain rfl := Option.some.inj hquote
      cases hisQuote

/-- The scanner leaves in the line what the source says, without the comments, and sees all
brackets closed after it. -/
theorem Scanner.linesOf_commented {depth : Nat} {source written : List Char}
    (h : Commented depth source written) (hlexed : Lexed depth source) (done : List (List Char))
    (current : List Char) {rest : List Char} (hrest : ∀ c ∈ rest.head?, isQuote c = false) :
    linesOf ⟨done, current, depth, .code⟩ (written ++ rest) =
      linesOf ⟨done, source.reverse ++ current, 0, .code⟩ rest := by
  induction h generalizing current with
  | nil =>
    obtain rfl := hlexed.eq_zero
    rfl
  | @literal depth following text chars written hliteral hmore ih =>
    have hbefore : StringLiteral (written ++ rest) text chars :=
      (hliteral.of_head? hmore.mem_head?).extend fun _ => hrest
    rw [List.append_assoc, linesOf_stringLiteral done depth hbefore,
      ih (hlexed.of_literal hliteral)]
    simp
  | opening hc _ ih =>
    rw [List.cons_append, linesOf_opening done current _ hc, ih (hlexed.of_opening hc)]
    simp
  | closing hc _ ih =>
    rw [List.cons_append, linesOf_closing done current _ hc, ih (hlexed.of_closing hc)]
    simp
  | @lineFeed depth _ _ comment hmore ih =>
    have hinside := (hlexed.of_plain rfl rfl rfl).2
    rw [List.append_assoc, List.cons_append, linesOf_commentText done current _ comment (by simp),
      linesOf_lineFeed_inside, ih hinside]
    simp
  | other hopening hclosing hline hstring _ ih =>
    obtain ⟨hmark, hmore⟩ := hlexed.of_plain hstring hopening hclosing
    rw [List.cons_append, linesOf_plain done current _ fun h => hline (hmark h), ih hmore]
    simp

end NotebookLint.Declaration
