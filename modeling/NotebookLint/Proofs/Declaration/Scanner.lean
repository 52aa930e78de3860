import NotebookLint.Declaration.LogicalLine
import NotebookLint.Proofs.Literal.Lexeme

/-!
# What the scanner of logical lines makes of a text

The lines that a text gives from a state on, one kind of text at a time: characters without a mark
and string literals stay in the line, comments are dropped, and a line feed ends the line unless a
bracket is open. Each lemma reads one such text and says from which state the rest is read, so that
a cell is read by rewriting from its beginning.

The scanner follows quotes with modes of its own. What it makes of a string literal is derived from
the grammar of literals alone: the two agree on where a body ends.
-/

namespace NotebookLint.Declaration.Scanner

open NotebookLint.Text NotebookLint.Literal

/-- The lines, the current one included, after a text is read. -/
def linesOf (s : Scanner) (text : List Char) : List (List Char) :=
  (s.run text).allLines

/-- A text is read a character at a time. -/
theorem linesOf_cons (s : Scanner) (c : Char) (rest : List Char) :
    s.linesOf (c :: rest) = (s.step c).linesOf rest :=
  rfl

/-- Two states that do the same with the next character make the same lines of a text. -/
theorem linesOf_congr {first second : Scanner} {rest : List Char}
    (hlines : first.allLines = second.allLines)
    (hstep : ∀ c ∈ rest.head?, first.step c = second.step c) :
    first.linesOf rest = second.linesOf rest := by
  cases rest with
  | nil => exact hlines
  | cons c rest => rw [linesOf_cons, linesOf_cons, hstep c rfl]

/-- Outside strings and comments a character is read in the same way in every mode. -/
theorem stepCode_mode (s : Scanner) (c : Char) (mode : Mode) :
    ({ s with mode := mode } : Scanner).stepCode c = s.stepCode c := by
  unfold stepCode keep endLine
  split <;> rfl

section Code

variable (done : List (List Char)) (current : List Char) (depth : Nat)

/-- At the end the lines are the finished ones and the current one. -/
theorem linesOf_nil :
    linesOf ⟨done, current, depth, .code⟩ [] = (current.reverse :: done).reverse :=
  rfl

/-- A character without a mark stays in the line. -/
theorem linesOf_plain {c : Char} (hc : c ∉ marks) (rest : List Char) :
    linesOf ⟨done, current, depth, .code⟩ (c :: rest) =
      linesOf ⟨done, c :: current, depth, .code⟩ rest := by
  have hstep : stepCode ⟨done, current, depth, .code⟩ c = ⟨done, c :: current, depth, .code⟩ := by
    unfold stepCode
    split <;> first
      | rfl
      | exact absurd hc (by decide)
  rw [linesOf_cons, step, hstep]

/-- Characters without a mark stay in the line. -/
theorem linesOf_plain_append {text : List Char} (htext : ∀ c ∈ text, c ∉ marks) (rest : List Char) :
    linesOf ⟨done, current, depth, .code⟩ (text ++ rest) =
      linesOf ⟨done, text.reverse ++ current, depth, .code⟩ rest := by
  induction text generalizing current with
  | nil => rfl
  | cons c text ih =>
    obtain ⟨hc, htext⟩ := List.forall_mem_cons.mp htext
    rw [List.cons_append, linesOf_plain done current depth hc, ih _ htext]
    simp

/-- An opening bracket is counted. -/
theorem linesOf_opening {c : Char} (hc : isOpening c) (rest : List Char) :
    linesOf ⟨done, current, depth, .code⟩ (c :: rest) =
      linesOf ⟨done, c :: current, depth + 1, .code⟩ rest := by
  rcases (isOpening_iff c).mp hc with rfl | rfl | rfl <;> rfl

/-- A closing bracket is counted. -/
theorem linesOf_closing {c : Char} (hc : isClosing c) (rest : List Char) :
    linesOf ⟨done, current, depth + 1, .code⟩ (c :: rest) =
      linesOf ⟨done, c :: current, depth, .code⟩ rest := by
  rcases (isClosing_iff c).mp hc with rfl | rfl | rfl <;> rfl

/-- Inside brackets a line feed stays in the line. -/
theorem linesOf_lineFeed_inside (rest : List Char) :
    linesOf ⟨done, current, depth + 1, .code⟩ ('\n' :: rest) =
      linesOf ⟨done, '\n' :: current, depth + 1, .code⟩ rest :=
  rfl

/-- Outside brackets a line feed ends the line. -/
theorem linesOf_lineFeed (rest : List Char) :
    linesOf ⟨done, current, 0, .code⟩ ('\n' :: rest) =
      linesOf ⟨current.reverse :: done, [], 0, .code⟩ rest :=
  rfl

/-- The inside of a comment is dropped, up to the line feed. -/
theorem linesOf_comment {comment rest : List Char} (hcomment : '\n' ∉ comment)
    (hrest : ∀ c ∈ rest.head?, c = '\n') :
    linesOf ⟨done, current, depth, .comment⟩ (comment ++ rest) =
      linesOf ⟨done, current, depth, .code⟩ rest := by
  induction comment with
  | nil =>
    refine linesOf_congr rfl fun c hc => ?_
    obtain rfl := hrest c hc
    exact stepCode_mode ⟨done, current, depth, .code⟩ '\n' .comment
  | cons c comment ih =>
    rw [List.mem_cons, not_or] at hcomment
    have hstep : step ⟨done, current, depth, .comment⟩ c = ⟨done, current, depth, .comment⟩ :=
      if_neg (Ne.symm hcomment.1)
    rw [List.cons_append, linesOf_cons, hstep, ih hcomment.2]

/-- A comment is dropped, up to the line feed. -/
theorem linesOf_hash {comment rest : List Char} (hcomment : '\n' ∉ comment)
    (hrest : ∀ c ∈ rest.head?, c = '\n') :
    linesOf ⟨done, current, depth, .code⟩ ('#' :: (comment ++ rest)) =
      linesOf ⟨done, current, depth, .code⟩ rest :=
  linesOf_comment done current depth hcomment hrest

end Code

/-- A quote is no backslash. -/
theorem ne_backslash_of_isQuote {quote : Char} (hquote : isQuote quote) : quote ≠ '\\' := by
  rcases (isQuote_iff quote).mp hquote with rfl | rfl <;> decide

/-- Hexadecimal digits carry no mark. -/
theorem not_mem_marks_of_hexPrefix {digits : List Char} {soFar code : Nat}
    (h : hexPrefix digits.length soFar digits = some code) : ∀ c ∈ digits, c ∉ marks := by
  induction digits generalizing soFar with
  | nil => simp
  | cons c digits ih =>
    obtain ⟨digit, hdigit, hrest⟩ := Option.bind_eq_some_iff.mp h
    have hc : (hexValue c).isSome := by rw [hdigit]; rfl
    exact List.forall_mem_cons.mpr
      ⟨@not_mem_of_all (fun d => (hexValue d).isSome) marks (by decide) c hc, ih hrest⟩

/-- The digits of an escape carry no mark. -/
theorem not_mem_marks_of_escape {letter : Char} {digits meaning : List Char}
    (h : escape letter digits = .ok (meaning, digits.length)) : ∀ c ∈ digits, c ∉ marks := by
  rcases escape_cases letter with ⟨count, hhex⟩ | ⟨fixed, hfixed⟩
  · rw [hhex, hexEscape_eq_ok_iff] at h
    obtain ⟨hcount, code, hcode, -⟩ := h
    rw [← hcount] at hcode
    exact not_mem_marks_of_hexPrefix hcode
  · rw [hfixed] at h
    have hlength : 0 = digits.length := (Prod.mk.inj (Except.ok.inj h)).2
    rw [List.eq_nil_of_length_eq_zero hlength.symm]
    simp

/-- What does not begin with a character has another first character. -/
theorem ne_of_head? {rest : List Char} {quote c : Char} (hrest : rest.head? ≠ some quote)
    (hc : c ∈ rest.head?) : c ≠ quote :=
  fun h => hrest (h ▸ hc)

section Strings

variable (done : List (List Char)) (current : List Char) (depth : Nat) {quote : Char}

/-- After two quotes a third one does not follow: the string was empty. -/
theorem linesOf_openedTwice {rest : List Char} (hrest : rest.head? ≠ some quote) :
    linesOf ⟨done, current, depth, .openedTwice quote⟩ rest =
      linesOf ⟨done, current, depth, .code⟩ rest :=
  linesOf_congr rfl fun c hc =>
    (if_neg (ne_of_head? hrest hc)).trans (stepCode_mode ⟨done, current, depth, .code⟩ c _)

/-- After one quote another one does not follow: a string goes on. -/
theorem linesOf_opened {rest : List Char} (hrest : rest.head? ≠ some quote) :
    linesOf ⟨done, current, depth, .opened quote⟩ rest =
      linesOf ⟨done, current, depth, .quoted quote false⟩ rest :=
  linesOf_congr rfl fun _ hc => if_neg (ne_of_head? hrest hc)

/-- A quote in a tripled string that no other follows does not close it. -/
theorem linesOf_closing_one {rest : List Char} (hrest : rest.head? ≠ some quote) :
    linesOf ⟨done, current, depth, .closing quote⟩ rest =
      linesOf ⟨done, current, depth, .quoted quote true⟩ rest :=
  linesOf_congr rfl fun _ hc => if_neg (ne_of_head? hrest hc)

/-- Two quotes in a tripled string that no other follows do not close it. -/
theorem linesOf_closingTwice {rest : List Char} (hrest : rest.head? ≠ some quote) :
    linesOf ⟨done, current, depth, .closingTwice quote⟩ rest =
      linesOf ⟨done, current, depth, .quoted quote true⟩ rest :=
  linesOf_congr rfl fun _ hc => if_neg (ne_of_head? hrest hc)

/-- A quote in a string is counted towards its closing. -/
theorem linesOf_quoted_quote (hquote : isQuote quote) (triple : Bool) (rest : List Char) :
    linesOf ⟨done, current, depth, .quoted quote triple⟩ (quote :: rest) =
      linesOf ⟨done, quote :: current, depth, if triple then .closing quote else .code⟩ rest := by
  have hstep : step ⟨done, current, depth, .quoted quote triple⟩ quote =
      ⟨done, quote :: current, depth, if triple then .closing quote else .code⟩ :=
    (if_neg (ne_backslash_of_isQuote hquote)).trans (if_pos rfl)
  rw [linesOf_cons, hstep]

/-- A quote in code opens a string. -/
theorem linesOf_quote (hquote : isQuote quote) (rest : List Char) :
    linesOf ⟨done, current, depth, .code⟩ (quote :: rest) =
      linesOf ⟨done, quote :: current, depth, .opened quote⟩ rest := by
  rcases (isQuote_iff quote).mp hquote with rfl | rfl <;> rfl

/-- Two more quotes after the first open a tripled string. -/
theorem linesOf_opened_quotes (rest : List Char) :
    linesOf ⟨done, current, depth, .opened quote⟩ (quote :: quote :: rest) =
      linesOf ⟨done, quote :: quote :: current, depth, .quoted quote true⟩ rest := by
  have hfirst : step ⟨done, current, depth, .opened quote⟩ quote =
      ⟨done, quote :: current, depth, .openedTwice quote⟩ := if_pos rfl
  have hsecond : step ⟨done, quote :: current, depth, .openedTwice quote⟩ quote =
      ⟨done, quote :: quote :: current, depth, .quoted quote true⟩ := if_pos rfl
  rw [linesOf_cons, hfirst, linesOf_cons, hsecond]

/-- Two more quotes after the first close a tripled string. -/
theorem linesOf_closing_quotes (rest : List Char) :
    linesOf ⟨done, current, depth, .closing quote⟩ (quote :: quote :: rest) =
      linesOf ⟨done, quote :: quote :: current, depth, .code⟩ rest := by
  have hfirst : step ⟨done, current, depth, .closing quote⟩ quote =
      ⟨done, quote :: current, depth, .closingTwice quote⟩ := if_pos rfl
  have hsecond : step ⟨done, quote :: current, depth, .closingTwice quote⟩ quote =
      ⟨done, quote :: quote :: current, depth, .code⟩ := if_pos rfl
  rw [linesOf_cons, hfirst, linesOf_cons, hsecond]

/-- A quote in a tripled string that two others do not follow does not close it. -/
theorem linesOf_closing_tripled (hquote : isQuote quote) {rest : List Char}
    (hrest : [quote, quote].isPrefixOf rest = false) :
    linesOf ⟨done, current, depth, .closing quote⟩ rest =
      linesOf ⟨done, current, depth, .quoted quote true⟩ rest := by
  by_cases hhead : rest.head? = some quote
  · obtain ⟨rest, rfl⟩ := List.head?_eq_some_iff.mp hhead
    have hnext : rest.head? ≠ some quote := fun hnext => by
      obtain ⟨rest, rfl⟩ := List.head?_eq_some_iff.mp hnext
      simp [List.isPrefixOf] at hrest
    have hstep : step ⟨done, current, depth, .closing quote⟩ quote =
        ⟨done, quote :: current, depth, .closingTwice quote⟩ := if_pos rfl
    rw [linesOf_quoted_quote done current depth hquote, linesOf_cons, hstep, if_pos rfl,
      linesOf_closingTwice done _ depth hnext, linesOf_closing_one done _ depth hnext]
  · exact linesOf_closing_one done current depth hhead

/-- A character that closes nothing stays in the string. -/
theorem linesOf_quoted_plain {triple : Bool} {c : Char} (hbackslash : c ≠ '\\') (hc : c ≠ quote)
    (hline : c = '\n' → triple) (rest : List Char) :
    linesOf ⟨done, current, depth, .quoted quote triple⟩ (c :: rest) =
      linesOf ⟨done, c :: current, depth, .quoted quote triple⟩ rest := by
  have hkept : ¬((c = '\n' && !triple) = true) := by
    rw [Bool.and_eq_true, decide_eq_true_eq, Bool.not_eq_true']
    rintro ⟨hfeed, htriple⟩
    rw [hline hfeed] at htriple
    cases htriple
  have hstep : step ⟨done, current, depth, .quoted quote triple⟩ c =
      ⟨done, c :: current, depth, .quoted quote triple⟩ :=
    (if_neg hbackslash).trans ((if_neg hc).trans (if_neg hkept))
  rw [linesOf_cons, hstep]

/-- A backslash in a string protects the character after it. -/
theorem linesOf_quoted_backslash (triple : Bool) (letter : Char) (rest : List Char) :
    linesOf ⟨done, current, depth, .quoted quote triple⟩ ('\\' :: letter :: rest) =
      linesOf ⟨done, letter :: '\\' :: current, depth, .quoted quote triple⟩ rest :=
  rfl

/-- Characters without a mark stay in the string. -/
theorem linesOf_quoted_append (hquote : isQuote quote) (triple : Bool) {text : List Char}
    (htext : ∀ c ∈ text, c ∉ marks) (rest : List Char) :
    linesOf ⟨done, current, depth, .quoted quote triple⟩ (text ++ rest) =
      linesOf ⟨done, text.reverse ++ current, depth, .quoted quote triple⟩ rest := by
  induction text generalizing current with
  | nil => rfl
  | cons c text ih =>
    obtain ⟨hc, htext⟩ := List.forall_mem_cons.mp htext
    have hmark : quote ∈ marks := by rcases (isQuote_iff quote).mp hquote with rfl | rfl <;> decide
    rw [List.cons_append, linesOf_quoted_plain done current depth, ih _ htext]
    · simp
    · exact fun h => hc (h ▸ by decide)
    · exact fun h => hc (h ▸ hmark)
    · exact fun h => absurd (h ▸ by decide) hc

end Strings

section Literals

variable (done : List (List Char)) (depth : Nat)

/-- The body of a string literal stays in the line, and its closing quotes end the string. -/
theorem linesOf_body {form : BodyForm} {body chars : List Char} (h : Body form body chars)
    (hquote : isQuote form.quote) (current following : List Char) :
    linesOf ⟨done, current, depth, .quoted form.quote form.triple⟩ (body ++ following) =
      linesOf ⟨done, body.reverse ++ current, depth, .code⟩ following := by
  induction h generalizing current with
  | close =>
    cases htriple : form.triple with
    | false =>
      simp only [BodyForm.quotes, htriple]
      exact linesOf_quoted_quote done current depth hquote false following
    | true =>
      simp only [BodyForm.quotes, htriple, if_true, List.cons_append, List.nil_append]
      rw [linesOf_quoted_quote done current depth hquote, if_pos rfl,
        linesOf_closing_quotes done _ depth]
      rfl
  | @plain c body chars hopen hline hc hbody ih =>
    by_cases hcQuote : c = form.quote
    · -- a quote is in a body only between tripled quotes, where two more do not come next
      subst hcQuote
      have htriple : form.triple = true := by
        by_contra htriple
        simp [closes, htriple] at hopen
      rw [← hbody.closes_append _ following] at hopen
      have hnext : [form.quote, form.quote].isPrefixOf (body ++ following) = false := by
        simpa [closes, htriple, List.isPrefixOf] using hopen
      rw [htriple] at ih ⊢
      rw [List.cons_append, linesOf_quoted_quote done current depth hquote, if_pos rfl,
        linesOf_closing_tripled done _ depth hquote hnext, ih]
      simp
    · rw [List.cons_append, linesOf_quoted_plain done current depth hc hcQuote hline, ih]
      simp
  | @verbatim letter body chars _ hbody ih =>
    rw [List.cons_append, List.cons_append, linesOf_quoted_backslash, ih]
    simp
  | @escaped letter digits body meaning chars _ hescape hbody ih =>
    rw [List.cons_append, List.cons_append, List.append_assoc, linesOf_quoted_backslash,
      linesOf_quoted_append done _ depth hquote form.triple (not_mem_marks_of_escape hescape), ih]
    simp

/-- A string literal stays in the line. -/
theorem linesOf_stringLiteral {following text chars : List Char}
    (h : StringLiteral following text chars) (current : List Char) :
    linesOf ⟨done, current, depth, .code⟩ (text ++ following) =
      linesOf ⟨done, text.reverse ++ current, depth, .code⟩ following := by
  have hmarks (mark : Option Char) (hmark : ∀ c ∈ mark, isStringPrefix c) :
      ∀ c ∈ mark.toList, c ∉ marks := fun c hc =>
    not_mem_of_all (by decide) (hmark c (by simpa using hc))
  cases h with
  | @single mark quote body _ hmark hquote hopen hbody =>
    rw [List.append_assoc, linesOf_plain_append done current depth (hmarks mark hmark),
      List.cons_append, linesOf_quote done _ depth hquote]
    by_cases hhead : body.head? = some quote
    · -- the string is empty, and no third quote follows the two
      have hempty := hbody.eq_quotes_of_closes hquote (by simpa [closes] using hhead)
      obtain rfl : body = [quote] := hempty
      have hstep : step ⟨done, quote :: (mark.toList.reverse ++ current), depth, .opened quote⟩ quote =
          ⟨done, quote :: quote :: (mark.toList.reverse ++ current), depth, .openedTwice quote⟩ :=
        if_pos rfl
      have hnext : following.head? ≠ some quote := fun hnext => by
        obtain ⟨rest, rfl⟩ := List.head?_eq_some_iff.mp hnext
        simp [List.isPrefixOf] at hopen
      rw [List.singleton_append, linesOf_cons, hstep, linesOf_openedTwice done _ depth hnext]
      simp
    · have hnext : (body ++ following).head? ≠ some quote := by
        cases body with
        | nil => exact absurd hbody.length_quotes_le (by simp [BodyForm.quotes])
        | cons c body => exact hhead
      rw [linesOf_opened done _ depth hnext,
        linesOf_body done depth hbody hquote]
      simp
  | @triple mark quote body _ hmark hquote hbody =>
    rw [List.append_assoc, linesOf_plain_append done current depth (hmarks mark hmark)]
    simp only [List.cons_append]
    rw [linesOf_quote done _ depth hquote, linesOf_opened_quotes]
    rw [linesOf_body done depth hbody hquote]
    simp

end Literals

end NotebookLint.Declaration.Scanner
