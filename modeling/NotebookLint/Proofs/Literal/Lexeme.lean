import NotebookLint.Proofs.Literal.Acceptance

/-!
# Literals as runs of lexemes

What somebody sees of a literal who knows of string literals and brackets only: strings as wholes,
brackets that balance, and between them characters that no such reader stops at. Every literal of
the grammar is seen so.
-/

namespace NotebookLint.Literal

open NotebookLint.Text

/-- Whether a character closes a bracket. -/
def isClosing (c : Char) : Bool :=
  c == ']' || c == ')' || c == '}'

/-- The characters that mean something to a reader who knows of comments, joined lines, string
literals and brackets only. -/
def marks : List Char :=
  ['#', '\\', '\n', '\'', '"', '[', '(', '{', ']', ')', '}']

/-- The texts that fall into string literals, brackets that balance after `depth` open ones, and
characters without a mark. Line feeds may stand anywhere. -/
inductive Lexed : (depth : Nat) → List Char → Prop where
  /-- Nothing, with no bracket open. -/
  | nil : Lexed 0 []
  /-- A string literal. -/
  | literal {depth : Nat} {following text chars : List Char}
      (hliteral : StringLiteral following text chars) (hrest : Lexed depth following) :
      Lexed depth (text ++ following)
  /-- An opening bracket. -/
  | opening {depth : Nat} {c : Char} {rest : List Char} (hc : isOpening c)
      (hrest : Lexed (depth + 1) rest) : Lexed depth (c :: rest)
  /-- A closing bracket. -/
  | closing {depth : Nat} {c : Char} {rest : List Char} (hc : isClosing c)
      (hrest : Lexed depth rest) : Lexed (depth + 1) (c :: rest)
  /-- Any other character. -/
  | plain {depth : Nat} {c : Char} {rest : List Char} (hc : c ∈ marks → c = '\n')
      (hplain : beginsString (c :: rest) = false) (hrest : Lexed depth rest) :
      Lexed depth (c :: rest)

/-- There are three closing brackets. -/
theorem isClosing_iff (c : Char) : isClosing c ↔ c = ']' ∨ c = ')' ∨ c = '}' := by
  simp [isClosing, or_assoc]

/-- A quote is a mark. -/
theorem not_isQuote_of_not_mem_marks {c : Char} (hc : c ∈ marks → c = '\n') : isQuote c = false := by
  refine Bool.eq_false_iff.mpr fun hquote => ?_
  rcases (isQuote_iff c).mp hquote with rfl | rfl <;> exact absurd (hc (by decide)) (by decide)

/-- Characters without a mark in front change nothing, unless a prefix letter among them comes to
stand before a quote. -/
theorem Lexed.append {depth : Nat} {text following : List Char} (htext : ∀ c ∈ text, c ∈ marks → c = '\n')
    (hend : ∀ c ∈ text, isStringPrefix c → ∀ d ∈ following.head?, isQuote d = false)
    (h : Lexed depth following) : Lexed depth (text ++ following) := by
  induction text with
  | nil => exact h
  | cons c text ih =>
    obtain ⟨hc, htext⟩ := List.forall_mem_cons.mp htext
    obtain ⟨hcEnd, hend⟩ := List.forall_mem_cons.mp hend
    refine .plain hc ?_ (ih htext hend)
    rw [beginsString, not_isQuote_of_not_mem_marks hc, Bool.false_or, Bool.and_eq_false_iff]
    by_cases hprefix : isStringPrefix c
    · refine .inr ?_
      cases text with
      | nil =>
        cases following with
        | nil => rfl
        | cons d following => exact hcEnd hprefix d rfl
      | cons d text => exact not_isQuote_of_not_mem_marks (List.forall_mem_cons.mp htext).1
    · exact .inl (by simpa using hprefix)

/-- Only line feeds among the delimiters that close no bracket are marks. -/
theorem eq_lineFeed_of_isDelimiter {c : Char} (hc : isDelimiter c) (hopen : isClosing c = false) :
    c ∈ marks → c = '\n' := by
  have hall : ∀ d ∈ delimiters, isClosing d = false → d ∈ marks → d = '\n' :=
    List.all_iff_forall_prop.mp (by decide +kernel)
  exact hall c (mem_delimiters hc) hopen

/-- Blanks in front change nothing. -/
theorem Lexed.append_blanks {depth : Nat} {gap following : List Char} (hgap : isBlankText gap)
    (h : Lexed depth following) : Lexed depth (gap ++ following) := by
  have hblank : ∀ c ∈ gap, isDelimiter c ∧ isClosing c = false := fun c hc => by
    have hc := List.all_eq_true.mp hgap c hc
    have hall : ∀ d ∈ blanks, isClosing d = false := List.all_iff_forall_prop.mp (by decide)
    exact ⟨by simp [isDelimiter, hc], hall c (mem_blanks_of_isBlank hc)⟩
  refine .append (fun c hc => eq_lineFeed_of_isDelimiter (hblank c hc).1 (hblank c hc).2)
    (fun c hc hprefix => ?_) h
  simp [(not_token_of_isDelimiter (hblank c hc).1).2.2.2.1] at hprefix

/-- What may come after a value begins with no quote. -/
theorem EndsValue.not_isQuote {rest : List Char} (h : EndsValue rest) :
    ∀ c ∈ rest.head?, isQuote c = false :=
  fun _ hc => (not_token_of_isDelimiter (h.isDelimiter_of_mem_head? hc)).2.2.1

/-- Characters without a mark in front of what may come after a value change nothing. -/
theorem Lexed.append_token {depth : Nat} {token following : List Char}
    (htoken : ∀ c ∈ token, c ∉ marks) (hend : EndsValue following) (h : Lexed depth following) :
    Lexed depth (token ++ following) :=
  .append (fun c hc hmark => absurd hmark (htoken c hc)) (fun _ _ _ => hend.not_isQuote) h

/-- A separator that closes no bracket changes nothing in front. -/
theorem Lexed.cons_separator {depth : Nat} {c : Char} (hc : c = ',' ∨ c = ':') {following : List Char}
    (h : Lexed depth following) : Lexed depth (c :: following) := by
  rcases hc with rfl | rfl
  · exact .plain (by decide) rfl h
  · exact .plain (by decide) rfl h

/-- The characters of numbers carry no mark. -/
theorem not_mem_marks_of_isNumberChar {c : Char} (hc : isNumberChar c) : c ∉ marks :=
  not_mem_of_all (by decide) hc

/-- A number token is written with the characters of numbers and signs. -/
theorem NumberShape.mem {token : List Char} (h : NumberShape token) :
    ∀ c ∈ token, isNumberChar c ∨ c = '+' ∨ c = '-' := by
  intro c hc
  cases h with
  | run hrun => exact .inl (hrun c hc)
  | exponent hrun _ hsign hexponent =>
    rcases List.mem_append.mp hc with hc | hc
    · exact .inl (hrun c hc)
    · rcases List.mem_cons.mp hc with rfl | hc
      · exact .inr hsign
      · exact .inl (isNumberChar_of_isExponentChar (hexponent c hc))

/-- A number token carries no mark. -/
theorem NumberShape.not_mem_marks {token : List Char} (h : NumberShape token) :
    ∀ c ∈ token, c ∉ marks := by
  intro c hc
  rcases h.mem c hc with hc | rfl | rfl
  · exact not_mem_marks_of_isNumberChar hc
  · decide
  · decide

/-- A number token holds no blank. -/
theorem NumberShape.not_isBlank {token : List Char} (h : NumberShape token) :
    ∀ c ∈ token, isBlank c = false := by
  intro c hc
  rcases h.mem c hc with hc | rfl | rfl
  · refine Bool.eq_false_iff.mpr fun hblank => ?_
    have htoken := not_token_of_isDelimiter (c := c) (by simp [isDelimiter, hblank])
    simp [htoken.2.1] at hc
  · rfl
  · rfl

/-- Adjacent strings are string literals with blanks between them. -/
theorem Lexed.append_strings {depth : Nat} {text chars : List Char} (hstrings : Strings text chars)
    {following : List Char} (hend : EndsValue following) (h : Lexed depth following) :
    Lexed depth (text ++ following) := by
  induction hstrings with
  | last hlast => exact .literal (hlast.before_end hend) h
  | cons hfirst hgap hmore ih =>
    rw [List.append_assoc, List.append_assoc]
    exact .literal (hfirst.before_more hmore) (ih.append_blanks hgap)

/-- A literal without brackets changes nothing in front of what may come after it. -/
theorem Lexed.append_scalar {depth : Nat} {text : List Char} {value : Value} (hscalar : Scalar text value)
    {following : List Char} (hend : EndsValue following) (h : Lexed depth following) :
    Lexed depth (text ++ following) := by
  cases hscalar with
  | trueWord | falseWord | noneWord => exact h.append_token (List.all_iff_forall_prop.mp (by decide)) hend
  | unsigned htoken => exact h.append_token htoken.shape.not_mem_marks hend
  | @signed sign gap token _ hsign hgap htoken =>
    have hrest := (h.append_token htoken.shape.not_mem_marks hend).append_blanks hgap
    rw [List.cons_append, List.append_assoc]
    rcases hsign with rfl | rfl
    · exact .plain (by decide) rfl hrest
    · exact .plain (by decide) rfl hrest
  | text hstrings => exact h.append_strings hstrings hend

section Inside

variable {element : List Char → Value → Prop}

/-- Whether the related texts change nothing in front of what may come after a value. -/
def LexesAs (element : List Char → Value → Prop) : Prop :=
  ∀ ⦃text value following depth⦄, element text value → EndsValue following →
    Lexed depth following → Lexed depth (text ++ following)

/-- Neither do they with blanks around them. -/
theorem LexesAs.spaced (h : LexesAs element) : LexesAs (Spaced element) := by
  rintro _ value following depth ⟨hbefore, hbody, hafter⟩ hend hfollowing
  rw [List.append_assoc, List.append_assoc]
  refine .append_blanks hbefore (h hbody ?_ (hfollowing.append_blanks hafter))
  rw [EndsValue, skipBlanks_append hafter]
  exact hend

/-- Items change nothing in front of their closing bracket. -/
theorem LexesAs.items (h : LexesAs element) {body : List Char} {items : List Value} {trailing : Bool}
    (hitems : Items element body items trailing) {depth : Nat} {c : Char} (hc : isSeparator c)
    {rest : List Char} (hrest : Lexed depth (c :: rest)) : Lexed depth (body ++ c :: rest) := by
  induction hitems with
  | nil hgap => exact hrest.append_blanks hgap
  | last hitem => exact h.spaced hitem (endsValue_cons hc rest) hrest
  | cons hitem hmore ih =>
    rw [List.append_assoc]
    exact h.spaced hitem (endsValue_cons rfl _) (ih.cons_separator (.inl rfl))

/-- Pairs change nothing in front of their closing brace. -/
theorem LexesAs.pairs (h : LexesAs element) {body : List Char} {pairs : List (String × Value)}
    (hpairs : Pairs element body pairs) {depth : Nat} {c : Char} (hc : isSeparator c)
    {rest : List Char} (hrest : Lexed depth (c :: rest)) : Lexed depth (body ++ c :: rest) := by
  have hpair {keyText text following : List Char} {key : String} {value : Value}
      (hkey : Spaced element keyText (.text key)) (hvalue : Spaced element text value)
      (hend : EndsValue following) (hfollowing : Lexed depth following) :
      Lexed depth (keyText ++ ':' :: (text ++ following)) :=
    h.spaced hkey (endsValue_cons rfl _)
      ((h.spaced hvalue hend hfollowing).cons_separator (.inr rfl))
  induction hpairs with
  | nil hgap => exact hrest.append_blanks hgap
  | last hkey hvalue =>
    rw [List.append_assoc, List.cons_append]
    exact hpair hkey hvalue (endsValue_cons hc rest) hrest
  | cons hkey hvalue hmore ih =>
    rw [List.append_assoc, List.cons_append, List.append_assoc]
    exact hpair hkey hvalue (endsValue_cons rfl _) (ih.cons_separator (.inl rfl))

/-- A bracketed literal changes nothing in front. -/
theorem LexesAs.bracketed (h : LexesAs element) : LexesAs (Bracketed element) := by
  intro text value following depth hbracketed hend hfollowing
  cases hbracketed with
  | list hitems | group hitems | tuple hitems _ =>
    rw [List.cons_append, List.append_assoc]
    exact .opening rfl (h.items hitems rfl (.closing rfl hfollowing))
  | dict hpairs _ =>
    rw [List.cons_append, List.append_assoc]
    exact .opening rfl (h.pairs hpairs rfl (.closing rfl hfollowing))

end Inside

/-- A literal changes nothing in front of what may come after it. -/
theorem lexesAs_expr (room : Nat) : LexesAs (Expr room) := by
  induction room with
  | zero => exact fun _ _ _ _ hscalar => .append_scalar hscalar
  | succ room ih =>
    intro text value following depth hexpr hend hfollowing
    rcases hexpr with hscalar | hbracketed
    · exact .append_scalar hscalar hend hfollowing
    · exact ih.bracketed hbracketed hend hfollowing

/-- A text that holds exactly one literal falls into lexemes. -/
theorem Denotes.lexed {text : List Char} {value : Value} (h : Denotes text value) : Lexed 0 text := by
  have hlexed := (lexesAs_expr maxNesting).spaced h (endsValue_blank isBlankText_nil) .nil
  rwa [List.append_nil] at hlexed

/-- Where a string begins there is no bracket and no line feed. -/
theorem not_bracket_of_beginsString {c : Char} {rest : List Char} (h : beginsString (c :: rest)) :
    isOpening c = false ∧ isClosing c = false ∧ c ≠ '\n' := by
  have hall : ∀ d ∈ ['\'', '"', 'r', 'R', 'u', 'U'],
      isOpening d = false ∧ isClosing d = false ∧ d ≠ '\n' :=
    List.all_iff_forall_prop.mp (by decide)
  rw [beginsString, Bool.or_eq_true, Bool.and_eq_true, isQuote_iff, isStringPrefix_iff] at h
  refine hall c ?_
  rcases h with (rfl | rfl) | ⟨rfl | rfl | rfl | rfl, -⟩ <;> decide

/-- At the end no bracket is open. -/
theorem Lexed.eq_zero {depth : Nat} (h : Lexed depth []) : depth = 0 := by
  generalize hsource : [] = source at h
  cases h with
  | nil => rfl
  | literal hliteral _ =>
    have hpos := hliteral.length_pos
    rw [(List.append_eq_nil_iff.mp hsource.symm).1] at hpos
    exact absurd hpos (Nat.lt_irrefl 0)
  | opening | closing | plain => cases hsource

/-- After a string literal the lexemes go on. -/
theorem Lexed.of_literal {depth : Nat} {following text chars : List Char}
    (h : Lexed depth (text ++ following)) (hliteral : StringLiteral following text chars) :
    Lexed depth following := by
  have hread := readString_of_literal hliteral
  have hbegins := hliteral.beginsString following
  generalize text ++ following = source at h hread hbegins
  cases h with
  | nil => cases hbegins
  | literal hother hrest =>
    have hsame := (readString_of_literal hother).symm.trans hread
    obtain ⟨-, rfl⟩ := Prod.mk.inj (Except.ok.inj hsame)
    exact hrest
  | opening hc _ => rw [(not_bracket_of_beginsString hbegins).1] at hc; cases hc
  | closing hc _ => rw [(not_bracket_of_beginsString hbegins).2.1] at hc; cases hc
  | plain _ hplain _ => rw [hplain] at hbegins; cases hbegins

/-- What stands in front of lexemes: a string, a bracket, or a character without a mark. -/
theorem Lexed.cons_cases {depth : Nat} {c : Char} {rest : List Char} (h : Lexed depth (c :: rest)) :
    beginsString (c :: rest) ∨ (isOpening c ∧ Lexed (depth + 1) rest) ∨
      (isClosing c ∧ ∃ inner, depth = inner + 1 ∧ Lexed inner rest) ∨
        ((c ∈ marks → c = '\n') ∧ Lexed depth rest) := by
  generalize hsource : c :: rest = source at h
  cases h with
  | nil => cases hsource
  | literal hliteral _ => exact .inl (hliteral.beginsString _)
  | opening hc hrest =>
    obtain ⟨rfl, rfl⟩ := List.cons.inj hsource
    exact .inr (.inl ⟨hc, hrest⟩)
  | closing hc hrest =>
    obtain ⟨rfl, rfl⟩ := List.cons.inj hsource
    exact .inr (.inr (.inl ⟨hc, _, rfl, hrest⟩))
  | plain hc _ hrest =>
    obtain ⟨rfl, rfl⟩ := List.cons.inj hsource
    exact .inr (.inr (.inr ⟨hc, hrest⟩))

/-- A bracket is a mark. -/
theorem not_bracket_of_not_mem_marks {c : Char} (hc : c ∈ marks → c = '\n') :
    isOpening c = false ∧ isClosing c = false := by
  constructor
  · refine Bool.eq_false_iff.mpr fun h => ?_
    rcases (isOpening_iff c).mp h with rfl | rfl | rfl <;> exact absurd (hc (by decide)) (by decide)
  · refine Bool.eq_false_iff.mpr fun h => ?_
    rcases (isClosing_iff c).mp h with rfl | rfl | rfl <;> exact absurd (hc (by decide)) (by decide)

/-- No bracket both opens and closes. -/
theorem not_isClosing_of_isOpening {c : Char} (hc : isOpening c) : isClosing c = false := by
  rcases (isOpening_iff c).mp hc with rfl | rfl | rfl <;> rfl

/-- After an opening bracket the lexemes go on inside it. -/
theorem Lexed.of_opening {depth : Nat} {c : Char} {rest : List Char} (h : Lexed depth (c :: rest))
    (hc : isOpening c) : Lexed (depth + 1) rest := by
  rcases h.cons_cases with hstring | ⟨-, hrest⟩ | ⟨hclosing, -⟩ | ⟨hplain, -⟩
  · rw [(not_bracket_of_beginsString hstring).1] at hc; cases hc
  · exact hrest
  · rw [not_isClosing_of_isOpening hc] at hclosing; cases hclosing
  · rw [(not_bracket_of_not_mem_marks hplain).1] at hc; cases hc

/-- After a closing bracket the lexemes go on outside it. -/
theorem Lexed.of_closing {depth : Nat} {c : Char} {rest : List Char} (h : Lexed (depth + 1) (c :: rest))
    (hc : isClosing c) : Lexed depth rest := by
  rcases h.cons_cases with hstring | ⟨hopening, -⟩ | ⟨-, inner, hinner, hrest⟩ | ⟨hplain, -⟩
  · rw [(not_bracket_of_beginsString hstring).2.1] at hc; cases hc
  · rw [not_isClosing_of_isOpening hopening] at hc; cases hc
  · exact Nat.succ.inj hinner ▸ hrest
  · rw [(not_bracket_of_not_mem_marks hplain).2] at hc; cases hc

/-- Any other character has no mark, and after it the lexemes go on. -/
theorem Lexed.of_plain {depth : Nat} {c : Char} {rest : List Char} (h : Lexed depth (c :: rest))
    (hstring : beginsString (c :: rest) = false) (hopening : isOpening c = false)
    (hclosing : isClosing c = false) : (c ∈ marks → c = '\n') ∧ Lexed depth rest := by
  rcases h.cons_cases with hbegins | ⟨hc, -⟩ | ⟨hc, -⟩ | hplain
  · rw [hstring] at hbegins; cases hbegins
  · rw [hopening] at hc; cases hc
  · rw [hclosing] at hc; cases hc
  · exact hplain

/-- Whether a text ends with something else than a blank. -/
def EndsSolid (text : List Char) : Prop :=
  ∃ init c, text = init ++ [c] ∧ isBlank c = false

/-- What comes before a text does not change how it ends. -/
theorem EndsSolid.append {text : List Char} (h : EndsSolid text) (before : List Char) :
    EndsSolid (before ++ text) := by
  obtain ⟨init, c, rfl, hc⟩ := h
  exact ⟨before ++ init, c, by rw [List.append_assoc], hc⟩

/-- A body ends with its quote. -/
theorem Body.endsSolid {form : BodyForm} (hquote : isQuote form.quote) {body chars : List Char}
    (h : Body form body chars) : EndsSolid body := by
  induction h with
  | close =>
    have hblank : isBlank form.quote = false := by
      rcases (isQuote_iff _).mp hquote with h | h <;> rw [h] <;> rfl
    rw [BodyForm.quotes]
    split
    · exact ⟨[form.quote, form.quote], form.quote, rfl, hblank⟩
    · exact ⟨[], form.quote, rfl, hblank⟩
  | @plain c _ _ _ _ _ _ ih => exact ih.append [c]
  | @verbatim letter _ _ _ _ ih => exact ih.append ['\\', letter]
  | @escaped letter digits _ _ _ _ _ _ ih => exact (ih.append digits).append ['\\', letter]

/-- A string literal ends with its quote. -/
theorem StringLiteral.endsSolid {following text chars : List Char}
    (h : StringLiteral following text chars) : EndsSolid text := by
  cases h with
  | single _ hquote _ hbody => exact ((hbody.endsSolid hquote).append [_]).append _
  | triple _ hquote hbody => exact ((hbody.endsSolid hquote).append [_, _, _]).append _

/-- Adjacent strings end with a quote. -/
theorem Strings.endsSolid {text chars : List Char} (h : Strings text chars) : EndsSolid text := by
  induction h with
  | last hlast => exact hlast.endsSolid
  | cons _ _ _ ih => exact (ih.append _).append _

/-- A number token ends with a character of numbers or a sign. -/
theorem NumberToken.endsSolid {negative : Bool} {token : List Char} {value : Value}
    (h : NumberToken negative token value) : EndsSolid token := by
  have hne : token ≠ [] := fun hnil => by simpa [hnil] using h.begins
  exact ⟨token.dropLast, token.getLast hne, (List.dropLast_append_getLast hne).symm,
    h.shape.not_isBlank _ (List.getLast_mem hne)⟩

/-- No literal without brackets ends with a blank. -/
theorem Scalar.endsSolid {text : List Char} {value : Value} (h : Scalar text value) : EndsSolid text := by
  cases h with
  | trueWord => exact ⟨['T', 'r', 'u'], 'e', rfl, rfl⟩
  | falseWord => exact ⟨['F', 'a', 'l', 's'], 'e', rfl, rfl⟩
  | noneWord => exact ⟨['N', 'o', 'n'], 'e', rfl, rfl⟩
  | unsigned htoken => exact htoken.endsSolid
  | signed _ _ htoken => exact (htoken.endsSolid.append _).append [_]
  | text hstrings => exact hstrings.endsSolid

/-- No literal ends with a blank. -/
theorem Expr.endsSolid {room : Nat} {text : List Char} {value : Value} (h : Expr room text value) :
    EndsSolid text := by
  cases room with
  | zero => exact Scalar.endsSolid h
  | succ room =>
    rcases h with hscalar | hbracketed
    · exact hscalar.endsSolid
    · cases hbracketed <;> exact ⟨_ :: _, _, rfl, rfl⟩

/-- The last character of a text that ends with something else than a blank is none. -/
theorem EndsSolid.getLast? {text : List Char} (h : EndsSolid text) :
    ∀ c ∈ text.getLast?, isBlank c = false := by
  obtain ⟨init, c, rfl, hc⟩ := h
  intro d hd
  rw [List.getLast?_concat] at hd
  exact Option.some.inj hd ▸ hc

/-- Trimming takes the blanks around a literal away, and nothing of the literal. -/
theorem Expr.trim_append {room : Nat} {text : List Char} {value : Value} (h : Expr room text value)
    {before after : List Char} (hbefore : isBlankText before) (hafter : isBlankText after) :
    trim (before ++ (text ++ after)) = text := by
  refine Text.trim_append hbefore hafter ?_ h.endsSolid.getLast?
  obtain ⟨c, rest, rfl, hc, -⟩ := h.exists_head
  exact fun d hd => Option.some.inj hd ▸ hc

/-- Trimming a text that holds exactly one literal leaves the literal. -/
theorem Denotes.exists_trim {text : List Char} {value : Value} (h : Denotes text value) :
    ∃ before after, isBlankText before ∧ isBlankText after ∧
      text = before ++ (trim text ++ after) ∧ Expr maxNesting (trim text) value := by
  obtain ⟨hbefore, hbody, hafter⟩ := h
  rename_i before body after
  rw [hbody.trim_append hbefore hafter]
  exact ⟨before, after, hbefore, hafter, rfl, hbody⟩

end NotebookLint.Literal
