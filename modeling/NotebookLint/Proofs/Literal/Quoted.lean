import NotebookLint.Proofs.Literal.Grammar

/-!
# Reading string literals

The readers of bodies, of literals and of adjacent literals against the grammar: each reads a text
of its kind to the end of that text, whatever comes after it, and what it reads is such a text.
Whether three characters are a closing quote can be told from the body alone, since a body holds
its own closing quotes; a single-quoted empty literal is the one place where what comes after a
text matters.
-/

namespace NotebookLint.Literal

open NotebookLint.Text

/-- A body is closed by its quotes. -/
theorem closes_eq (form : BodyForm) (text : List Char) :
    closes form text = form.quotes.isPrefixOf text := by
  cases h : form.triple with
  | true => rw [closes, BodyForm.quotes, if_pos h, if_pos h]
  | false =>
    cases text with
    | nil => simp [closes, BodyForm.quotes, h]
    | cons c rest => simp [closes, BodyForm.quotes, h, List.isPrefixOf, BEq.comm]

/-- A body holds its closing quotes. -/
theorem Body.length_quotes_le {form : BodyForm} {body chars : List Char} (h : Body form body chars) :
    form.quotes.length ≤ body.length := by
  induction h with
  | close => exact Nat.le_refl _
  | plain _ _ _ _ ih => exact Nat.le_succ_of_le ih
  | verbatim _ _ ih => exact Nat.le_succ_of_le (Nat.le_succ_of_le ih)
  | escaped _ _ _ ih => simp only [List.length_cons, List.length_append]; omega

/-- Whether a text begins with other characters does not depend on what comes after it. -/
theorem isPrefixOf_append {start text : List Char} (hlength : start.length ≤ text.length)
    (following : List Char) : start.isPrefixOf (text ++ following) = start.isPrefixOf text := by
  rw [Bool.eq_iff_iff, List.isPrefixOf_iff_prefix, List.isPrefixOf_iff_prefix]
  exact ⟨fun h => List.prefix_of_prefix_length_le h (List.prefix_append _ _) hlength,
    fun h => h.trans (List.prefix_append _ _)⟩

/-- Whether a body is closed by the next characters does not depend on what comes after it. -/
theorem Body.closes_append {form : BodyForm} {body chars : List Char} (h : Body form body chars)
    (c : Char) (following : List Char) :
    closes form (c :: (body ++ following)) = closes form (c :: body) := by
  rw [closes_eq, closes_eq, ← List.cons_append]
  exact isPrefixOf_append (Nat.le_succ_of_le h.length_quotes_le) following

/-- A backslash is no quote. -/
theorem closes_backslash {form : BodyForm} (hquote : isQuote form.quote) (text : List Char) :
    closes form ('\\' :: text) = false := by
  have hne : form.quote ≠ '\\' := by
    rcases (isQuote_iff _).mp hquote with h | h <;> rw [h] <;> decide
  cases h : form.triple <;> simp [closes_eq, BodyForm.quotes, h, List.isPrefixOf, hne]

/-- A body that begins with its closing quotes is nothing else. -/
theorem Body.eq_quotes_of_closes {form : BodyForm} (hquote : isQuote form.quote)
    {body chars : List Char} (h : Body form body chars) (hcloses : closes form body) :
    body = form.quotes := by
  cases h with
  | close => rfl
  | plain hopen _ _ _ => rw [hopen] at hcloses; cases hcloses
  | verbatim | escaped => rw [closes_backslash hquote] at hcloses; cases hcloses

section ReadBody

variable {form : BodyForm} (start : List Char)

/-- At its closing quotes a body ends. -/
theorem readBody_quotes (following : List Char) :
    readBody form start 0 (form.quotes ++ following) = .ok ([], following) := by
  have hcloses : closes form (form.quotes ++ following) = true := by
    rw [closes_eq, List.isPrefixOf_iff_prefix]
    exact List.prefix_append _ _
  cases h : form.triple <;> simp only [BodyForm.quotes, h] at hcloses ⊢ <;>
    simp_all [readBody.eq_def form start 0 (_ :: _)]

/-- A character that stands for itself is kept. -/
theorem readBody_plain {c : Char} {rest : List Char} (hopen : closes form (c :: rest) = false)
    (hline : c = '\n' → form.triple) (hc : c ≠ '\\') :
    readBody form start 0 (c :: rest) = prepend [c] (readBody form start 0 rest) := by
  have hkept : ¬(c = '\n' ∧ form.triple = false) := by
    rintro ⟨hfeed, htriple⟩
    simp [htriple] at hline
    exact hline hfeed
  rw [readBody.eq_def]
  simp only [hopen, Bool.false_eq_true, hkept, hc, if_false]

/-- In a verbatim body a backslash and the character after it are kept. -/
theorem readBody_verbatim (hquote : isQuote form.quote) (hraw : form.raw = true) (letter : Char)
    (rest : List Char) :
    readBody form start 0 ('\\' :: letter :: rest) =
      prepend ['\\', letter] (readBody form start 0 rest) := by
  rw [readBody, if_neg (by simp [closes_backslash hquote]), if_neg (by simp), if_pos rfl]
  simp only [hraw, if_true]

/-- In any other body an escape is replaced by what it stands for. -/
theorem readBody_escaped (hquote : isQuote form.quote) (hraw : form.raw = false) {letter : Char}
    {rest meaning : List Char} {skip : Nat} (hescape : escape letter rest = .ok (meaning, skip)) :
    readBody form start 0 ('\\' :: letter :: rest) =
      prepend meaning (readBody form start skip rest) := by
  rw [readBody, if_neg (by simp [closes_backslash hquote]), if_neg (by simp), if_pos rfl]
  simp only [hraw, Bool.false_eq_true, if_false, hescape]

/-- Characters that belong to an escape are passed over. -/
theorem readBody_drop (skip : Nat) (text : List Char) :
    readBody form start skip text = readBody form start 0 (text.drop skip) := by
  induction skip generalizing text with
  | zero => rfl
  | succ skip ih =>
    cases text with
    | nil => rw [List.drop_nil, readBody, readBody]
    | cons c text => rw [readBody, ih, List.drop_succ_cons]

/-- The digits of an escape are passed over. -/
theorem readBody_skip (digits rest : List Char) :
    readBody form start digits.length (digits ++ rest) = readBody form start 0 rest := by
  rw [readBody_drop, List.drop_left]

end ReadBody

/-- When a hexadecimal escape is read, and what it stands for. -/
theorem hexEscape_eq_ok_iff {count skip : Nat} {text meaning : List Char} :
    hexEscape count text = .ok (meaning, skip) ↔
      skip = count ∧ ∃ code, hexPrefix count 0 text = some code ∧ code.isValidChar ∧
        meaning = [Char.ofNat code] := by
  rw [hexEscape]
  cases h : hexPrefix count 0 text with
  | none => simp
  | some code =>
    by_cases hvalid : code.isValidChar
    · simp [hvalid, eq_comm, and_comm]
    · simp [hvalid]

/-- An escape either reads a fixed number of hexadecimal digits or no further character at all. -/
theorem escape_cases (letter : Char) :
    (∃ count, ∀ rest, escape letter rest = hexEscape count rest) ∨
      ∃ meaning, ∀ rest, escape letter rest = .ok (meaning, 0) := by
  unfold escape
  split <;> first | exact .inr ⟨_, fun _ => rfl⟩ | exact .inl ⟨_, fun _ => rfl⟩

/-- An escape does not depend on what comes after its digits. -/
theorem escape_append_eq_ok_iff {letter : Char} {digits rest meaning : List Char} :
    escape letter (digits ++ rest) = .ok (meaning, digits.length) ↔
      escape letter digits = .ok (meaning, digits.length) := by
  rcases escape_cases letter with ⟨count, hhex⟩ | ⟨fixed, hfixed⟩
  · rw [hhex, hhex, hexEscape_eq_ok_iff, hexEscape_eq_ok_iff]
    refine and_congr_right fun hcount => ?_
    rw [← hcount, hexPrefix_append]
  · rw [hfixed, hfixed]

/-- A body is read to its end, whatever comes after it. -/
theorem readBody_of_body {form : BodyForm} (hquote : isQuote form.quote) {body chars : List Char}
    (h : Body form body chars) (start following : List Char) :
    readBody form start 0 (body ++ following) = .ok (chars, following) := by
  induction h with
  | close => exact readBody_quotes start following
  | plain hopen hline hc hbody ih =>
    rw [← hbody.closes_append _ following] at hopen
    rw [List.cons_append, readBody_plain start hopen hline hc, ih]
    rfl
  | verbatim hraw hbody ih =>
    rw [List.cons_append, List.cons_append, readBody_verbatim start hquote hraw, ih]
    rfl
  | escaped hraw hescape hbody ih =>
    rw [List.cons_append, List.cons_append, List.append_assoc,
      readBody_escaped start hquote hraw (escape_append_eq_ok_iff.mpr hescape), readBody_skip, ih]
    rfl

/-- What is put in front of a step's result. -/
theorem prepend_eq_ok {new chars rest : List Char} {step : Step (List Char)}
    (h : prepend new step = .ok (chars, rest)) : ∃ more, step = .ok (more, rest) ∧ chars = new ++ more := by
  cases step with
  | error fault => simp [prepend] at h
  | ok result =>
    obtain ⟨rfl, rfl⟩ := Prod.mk.inj (Except.ok.inj h)
    exact ⟨result.1, rfl, rfl⟩

/-- Reading a body reads a body, after the digits that are to be passed over. -/
theorem body_of_readBody {form : BodyForm} {start text chars rest : List Char}
    {skip : Nat} (h : readBody form start skip text = .ok (chars, rest)) :
    ∃ digits body, text = digits ++ (body ++ rest) ∧ digits.length = skip ∧ Body form body chars := by
  fun_induction readBody form start skip text generalizing chars with
  | case1 skip digit text ih =>
    obtain ⟨digits, body, rfl, rfl, hbody⟩ := ih h
    exact ⟨digit :: digits, body, rfl, rfl, hbody⟩
  | case2 => cases h
  | case3 c text hcloses =>
    obtain ⟨rfl, rfl⟩ := Prod.mk.inj (Except.ok.inj h)
    rw [closes_eq, List.isPrefixOf_iff_prefix] at hcloses
    obtain ⟨following, hfollowing⟩ := hcloses
    refine ⟨[], form.quotes, ?_, rfl, .close⟩
    rw [List.nil_append, ← hfollowing]
    cases htriple : form.triple with
    | false => simp_all [BodyForm.quotes]
    | true =>
      simp only [BodyForm.quotes, htriple, if_true, List.cons_append, List.nil_append,
        List.cons.injEq] at hfollowing ⊢
      simp [← hfollowing.2]
  | case4 => cases h
  | case5 => cases h
  | case6 letter text hraw =>
    rename_i ih
    obtain ⟨more, hmore, rfl⟩ := prepend_eq_ok h
    obtain ⟨digits, body, rfl, hdigits, hbody⟩ := ih hmore
    obtain rfl := List.eq_nil_of_length_eq_zero hdigits
    exact ⟨[], _, rfl, rfl, .verbatim hraw hbody⟩
  | case7 letter text hraw meaning skip hescape =>
    rename_i ih
    obtain ⟨more, hmore, rfl⟩ := prepend_eq_ok h
    obtain ⟨digits, body, rfl, rfl, hbody⟩ := ih hmore
    exact ⟨[], _, by simp, rfl,
      .escaped (by simpa using hraw) (escape_append_eq_ok_iff.mp hescape) hbody⟩
  | case8 => cases h
  | case9 c text hopen hline hc ih =>
    obtain ⟨more, hmore, rfl⟩ := prepend_eq_ok h
    obtain ⟨digits, body, rfl, hdigits, hbody⟩ := ih hmore
    obtain rfl := List.eq_nil_of_length_eq_zero hdigits
    refine ⟨[], c :: body, rfl, rfl, .plain ?_ ?_ hc hbody⟩
    · rw [List.nil_append, hbody.closes_append, Bool.not_eq_true] at hopen
      exact hopen
    · intro hfeed
      simpa [hfeed] using hline

/-- A literal begins with its optional prefix letter and a quote. -/
theorem StringLiteral.exists_mark {following text chars : List Char}
    (h : StringLiteral following text chars) :
    ∃ mark : Option Char, ∃ quote rest, (∀ c ∈ mark, isStringPrefix c) ∧ isQuote quote ∧
      text = mark.toList ++ quote :: rest := by
  cases h with
  | single hmark hquote => exact ⟨_, _, _, hmark, hquote, rfl⟩
  | triple hmark hquote => exact ⟨_, _, _, hmark, hquote, rfl⟩

/-- Reading a literal is reading what stands between its quotes. -/
theorem readString_mark {mark : Option Char} {quote : Char} (hmark : ∀ c ∈ mark, isStringPrefix c)
    (hquote : isQuote quote) (rest : List Char) :
    readString (mark.toList ++ quote :: rest) =
      readQuoted (mark.any isRawPrefix) (quote :: rest) := by
  cases mark with
  | none =>
    simp only [Option.toList_none, List.nil_append, readString, isStringPrefix_of_isQuote hquote]
    rfl
  | some c =>
    simp only [Option.toList_some, List.cons_append, List.nil_append, readString, hmark c rfl]
    rfl

/-- A literal is read to its end. -/
theorem readString_of_literal {following text chars : List Char} (h : StringLiteral following text chars) :
    readString (text ++ following) = .ok (chars, following) := by
  cases h with
  | @single mark quote body _ hmark hquote hopen hbody =>
    rw [List.append_assoc, List.cons_append, readString_mark hmark hquote, readQuoted]
    simp only [hopen]
    exact readBody_of_body hquote hbody _ following
  | @triple mark quote body _ hmark hquote hbody =>
    rw [List.append_assoc, List.cons_append, readString_mark hmark hquote, readQuoted]
    simp only [List.cons_append, List.isPrefixOf, beq_self_eq_true, Bool.and_self, if_true,
      List.drop_succ_cons, List.drop_zero]
    exact readBody_of_body hquote hbody _ following

/-- Where a string begins there is an optional prefix letter and a quote. -/
theorem exists_mark_of_beginsString {text : List Char} (h : beginsString text) :
    ∃ mark : Option Char, ∃ quote rest, (∀ c ∈ mark, isStringPrefix c) ∧ isQuote quote ∧
      text = mark.toList ++ quote :: rest := by
  cases text with
  | nil => simp [beginsString] at h
  | cons c rest =>
    rw [beginsString, Bool.or_eq_true, Bool.and_eq_true] at h
    rcases h with hquote | ⟨hmark, hquote⟩
    · exact ⟨none, c, rest, by simp, hquote, rfl⟩
    · cases rest with
      | nil => simp at hquote
      | cons quote rest => exact ⟨some c, quote, rest, by simpa using hmark, by simpa using hquote, rfl⟩

/-- Reading where a string begins reads a literal. -/
theorem literal_of_readString {text chars rest : List Char} (hbegins : beginsString text)
    (h : readString text = .ok (chars, rest)) :
    ∃ literal, text = literal ++ rest ∧ StringLiteral rest literal chars := by
  obtain ⟨mark, quote, after, hmark, hquote, rfl⟩ := exists_mark_of_beginsString hbegins
  rw [readString_mark hmark hquote, readQuoted] at h
  cases hopen : [quote, quote].isPrefixOf after with
  | false =>
    simp only [hopen] at h
    obtain ⟨digits, body, rfl, hdigits, hbody⟩ := body_of_readBody h
    obtain rfl := List.eq_nil_of_length_eq_zero hdigits
    exact ⟨mark.toList ++ quote :: body, by simp, .single hmark hquote hopen hbody⟩
  | true =>
    simp only [hopen, if_true] at h
    rw [List.isPrefixOf_iff_prefix] at hopen
    obtain ⟨inside, rfl⟩ := hopen
    obtain ⟨digits, body, hinside, hdigits, hbody⟩ := body_of_readBody h
    obtain rfl := List.eq_nil_of_length_eq_zero hdigits
    refine ⟨mark.toList ++ quote :: quote :: quote :: body, ?_, .triple hmark hquote hbody⟩
    simp only [List.cons_append, List.nil_append, List.drop_succ_cons, List.drop_zero] at hinside
    simp [hinside]

/-- No string begins where a value ends. -/
theorem EndsValue.beginsString_skipBlanks {rest : List Char} (h : EndsValue rest) :
    beginsString (skipBlanks rest) = false := by
  rw [EndsValue] at h
  cases hrest : skipBlanks rest with
  | nil => rfl
  | cons c tail =>
    rw [hrest] at h
    have hc := not_token_of_isDelimiter (c := c) (by simp [isDelimiter, h c rfl])
    simp [beginsString, hc.2.2.1, hc.2.2.2.1]

/-- A literal is one also before another text, unless that one begins with a quote and the first
does not: only the quote after an empty body matters. -/
theorem StringLiteral.of_head? {following other text chars : List Char}
    (h : StringLiteral following text chars)
    (hhead : ∀ quote ∈ other.head?, isQuote quote → quote ∈ following.head?) :
    StringLiteral other text chars := by
  cases h with
  | @single mark quote body _ hmark hquote hopen hbody =>
    refine .single hmark hquote (Bool.eq_false_iff.mpr fun htwo => ?_) hbody
    by_cases hlength : [quote, quote].length ≤ body.length
    · rw [isPrefixOf_append hlength] at htwo hopen
      rw [hopen] at htwo
      cases htwo
    · have hpos : 1 ≤ body.length := hbody.length_quotes_le
      rw [List.length_cons, List.length_singleton] at hlength
      obtain ⟨c, rfl⟩ := List.length_eq_one_iff.mp (show body.length = 1 by omega)
      cases other with
      | nil => simp [List.isPrefixOf] at htwo
      | cons d other =>
        simp only [List.singleton_append, List.isPrefixOf, Bool.and_eq_true, beq_iff_eq, and_true] at htwo
        obtain ⟨rfl, rfl⟩ := htwo
        obtain ⟨rest, rfl⟩ := List.head?_eq_some_iff.mp (hhead quote rfl hquote)
        simp at hopen
  | triple hmark hquote hbody => exact .triple hmark hquote hbody

/-- A literal is one also before less text. -/
theorem StringLiteral.shrink {following rest text chars : List Char}
    (h : StringLiteral (following ++ rest) text chars) : StringLiteral following text chars :=
  h.of_head? fun quote hquote _ => by
    cases following with
    | nil => cases hquote
    | cons c following => exact hquote

/-- A literal is one also at the end of a text. -/
theorem StringLiteral.alone {following text chars : List Char}
    (h : StringLiteral following text chars) : StringLiteral [] text chars :=
  h.of_head? nofun

/-- A literal is one also before more text, unless a quote comes directly after it. -/
theorem StringLiteral.extend {following rest text chars : List Char}
    (h : StringLiteral following text chars)
    (hrest : following = [] → ∀ c ∈ rest.head?, isQuote c = false) :
    StringLiteral (following ++ rest) text chars :=
  h.of_head? fun quote hquote hisQuote => by
    cases following with
    | nil => rw [hrest rfl quote hquote] at hisQuote; cases hisQuote
    | cons c following => exact hquote

/-- A literal is not empty, and a string begins where it does. -/
theorem StringLiteral.beginsString {following text chars : List Char}
    (h : StringLiteral following text chars) (rest : List Char) :
    Literal.beginsString (text ++ rest) = true := by
  obtain ⟨mark, quote, body, hmark, hquote, rfl⟩ := h.exists_mark
  cases mark with
  | none => simp [Literal.beginsString, hquote]
  | some c => simp [Literal.beginsString, hquote, hmark c rfl]

/-- Adjacent strings begin as one string does. -/
theorem Strings.beginsString {text chars : List Char} (h : Strings text chars) (rest : List Char) :
    Literal.beginsString (text ++ rest) = true := by
  cases h with
  | last hlast => exact hlast.beginsString rest
  | cons hfirst hgap hmore => rw [List.append_assoc]; exact hfirst.beginsString _

/-- Where a string begins there is no blank. -/
theorem skipBlanks_of_beginsString {text : List Char} (h : beginsString text) :
    skipBlanks text = text := by
  obtain ⟨mark, quote, rest, hmark, hquote, rfl⟩ := exists_mark_of_beginsString h
  cases mark with
  | none =>
    refine skipBlanks_cons_of_not_isBlank ?_ _
    rcases (isQuote_iff quote).mp hquote with rfl | rfl <;> rfl
  | some c =>
    refine skipBlanks_cons_of_not_isBlank ?_ _
    rcases (isStringPrefix_iff c).mp (hmark c rfl) with rfl | rfl | rfl | rfl <;> rfl

/-- Where no string begins, nothing more is joined. -/
theorem readAdjacent_of_endsValue {rest : List Char} (hrest : EndsValue rest) (fuel : Nat) :
    readAdjacent fuel rest = .ok ([], rest) := by
  cases fuel with
  | zero => rfl
  | succ fuel => simp [readAdjacent, hrest.beginsString_skipBlanks]

/-- The last of adjacent strings is one also before what may come after a value. -/
theorem StringLiteral.before_end {text chars : List Char} (h : StringLiteral [] text chars)
    {rest : List Char} (hrest : EndsValue rest) : StringLiteral rest text chars :=
  h.of_head? fun quote hquote hisQuote => by
    have htoken := not_token_of_isDelimiter (hrest.isDelimiter_of_mem_head? hquote)
    rw [htoken.2.2.1] at hisQuote
    cases hisQuote

/-- The first of adjacent strings is one also with what may come after the last. -/
theorem StringLiteral.before_more {gap more text chars rest moreChars : List Char}
    (h : StringLiteral (gap ++ more) text chars) (hmore : Strings more moreChars) :
    StringLiteral (gap ++ (more ++ rest)) text chars := by
  rw [← List.append_assoc]
  refine h.extend fun hnil => ?_
  have hbegins := hmore.beginsString []
  simp only [List.append_eq_nil_iff] at hnil
  simp [hnil.2, Literal.beginsString] at hbegins

/-- A literal has a character. -/
theorem StringLiteral.length_pos {following text chars : List Char}
    (h : StringLiteral following text chars) : 0 < text.length := by
  obtain ⟨mark, quote, rest, -, -, rfl⟩ := h.exists_mark
  rw [List.length_append, List.length_cons]
  omega

/-- Adjacent strings are joined up to the end of the value. -/
theorem readAdjacent_of_strings {text chars : List Char} (h : Strings text chars)
    {gap rest : List Char} (hgap : isBlankText gap) (hrest : EndsValue rest) {fuel : Nat}
    (hfuel : text.length ≤ fuel) :
    readAdjacent fuel (gap ++ (text ++ rest)) = .ok (chars, rest) := by
  induction h generalizing gap fuel with
  | last hlast =>
    have hpos := hlast.length_pos
    have hbegins := hlast.beginsString rest
    obtain ⟨fuel, rfl⟩ := Nat.exists_eq_succ_of_ne_zero (show fuel ≠ 0 by omega)
    rw [readAdjacent, skipBlanks_append hgap, skipBlanks_of_beginsString hbegins]
    simp only [hbegins, if_true, readString_of_literal (hlast.before_end hrest),
      readAdjacent_of_endsValue hrest, prepend, List.append_nil]
  | @cons text gap' more chars moreChars hfirst hgap' hmore ih =>
    have hpos := hfirst.length_pos
    simp only [List.length_append] at hfuel
    obtain ⟨fuel, rfl⟩ := Nat.exists_eq_succ_of_ne_zero (show fuel ≠ 0 by omega)
    have hbegins := hfirst.beginsString (gap' ++ (more ++ rest))
    rw [List.append_assoc, List.append_assoc, readAdjacent, skipBlanks_append hgap,
      skipBlanks_of_beginsString hbegins]
    simp only [hbegins, if_true, readString_of_literal (hfirst.before_more hmore),
      ih hgap' (show more.length ≤ fuel by omega), prepend]

/-- Adjacent strings are read to the end of the value. -/
theorem readStrings_of_strings {text chars : List Char} (h : Strings text chars) {rest : List Char}
    (hrest : EndsValue rest) : readStrings (text ++ rest) = .ok (chars, rest) := by
  cases h with
  | last hlast =>
    rw [readStrings, readString_of_literal (hlast.before_end hrest)]
    simp only [readAdjacent_of_endsValue hrest, prepend, List.append_nil]
  | @cons text gap more chars moreChars hfirst hgap hmore =>
    rw [List.append_assoc, List.append_assoc, readStrings,
      readString_of_literal (hfirst.before_more hmore)]
    have hlength : more.length ≤ (gap ++ (more ++ rest)).length := by
      simp only [List.length_append]; omega
    simp only [readAdjacent_of_strings hmore hgap hrest hlength, prepend]

/-- What is joined is nothing, or adjacent strings after blanks. -/
theorem strings_of_readAdjacent {fuel : Nat} {text chars rest : List Char}
    (h : readAdjacent fuel text = .ok (chars, rest)) :
    (chars = [] ∧ text = rest) ∨
      ∃ gap more, isBlankText gap ∧ Strings more chars ∧ text = gap ++ (more ++ rest) := by
  induction fuel generalizing text chars with
  | zero =>
    obtain ⟨rfl, rfl⟩ := Prod.mk.inj (Except.ok.inj h)
    exact .inl ⟨rfl, rfl⟩
  | succ fuel ih =>
    rw [readAdjacent] at h
    split at h
    · rename_i hbegins
      obtain ⟨gap, hgap, htext⟩ := exists_gap text
      split at h
      · rename_i first after hread
        obtain ⟨more, hmore, rfl⟩ := prepend_eq_ok h
        obtain ⟨literal, hliteral, hfirst⟩ := literal_of_readString hbegins hread
        refine .inr ⟨gap, ?_⟩
        rw [htext, hliteral]
        rcases ih hmore with ⟨rfl, rfl⟩ | ⟨gap', others, hgap', hothers, rfl⟩
        · rw [List.append_nil]
          exact ⟨literal, hgap, .last hfirst.alone, rfl⟩
        · rw [← List.append_assoc gap'] at hfirst
          exact ⟨literal ++ (gap' ++ others), hgap, .cons hfirst.shrink hgap' hothers, by simp⟩
      · cases h
    · obtain ⟨rfl, rfl⟩ := Prod.mk.inj (Except.ok.inj h)
      exact .inl ⟨rfl, rfl⟩

/-- Reading where a string begins reads adjacent strings. -/
theorem strings_of_readStrings {text chars rest : List Char} (hbegins : beginsString text)
    (h : readStrings text = .ok (chars, rest)) :
    ∃ body, text = body ++ rest ∧ Strings body chars := by
  rw [readStrings] at h
  split at h
  · rename_i first after hread
    obtain ⟨more, hmore, rfl⟩ := prepend_eq_ok h
    obtain ⟨literal, rfl, hfirst⟩ := literal_of_readString hbegins hread
    rcases strings_of_readAdjacent hmore with ⟨rfl, rfl⟩ | ⟨gap, others, hgap, hothers, rfl⟩
    · rw [List.append_nil]
      exact ⟨literal, rfl, .last hfirst.alone⟩
    · rw [← List.append_assoc gap] at hfirst
      exact ⟨literal ++ (gap ++ others), by simp, .cons hfirst.shrink hgap hothers⟩
  · cases h

end NotebookLint.Literal
