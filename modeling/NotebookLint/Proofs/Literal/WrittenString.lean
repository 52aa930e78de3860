import NotebookLint.Proofs.Literal.Escape

/-!
# String literals as they are written

A string literal that is given by its parts: the prefix letter, the quotes, and the text between
them, in which the closing quotes do not come up. The text means itself in a literal that is
verbatim, and what its escapes mean in any other. A literal that is read whole is read by its own
text alone, so that what is read can be compared with what is meant.
-/

namespace NotebookLint.Literal

/-- What the text between the quotes of a literal means. -/
def Means (raw : Bool) (inner meaning : List Char) : Prop :=
  if raw then meaning = inner else Unescapes inner meaning

/-- The text between the quotes of a literal of a form: the closing quotes do not come up in it
before its end, except behind a backslash, and it has a line feed only if they are tripled. -/
inductive Inner (form : BodyForm) : List Char → Prop where
  /-- Nothing. -/
  | nil : Inner form []
  /-- A character that no backslash protects. -/
  | plain {c : Char} {inner : List Char} (hc : c ≠ '\\') (hline : c = '\n' → form.triple)
      (hopen : ¬form.quotes <+: c :: (inner ++ form.quotes)) (hinner : Inner form inner) :
      Inner form (c :: inner)
  /-- A backslash with the character that it protects. -/
  | escaped {letter : Char} {inner : List Char} (hinner : Inner form inner) :
      Inner form ('\\' :: letter :: inner)

/-- A string literal as it is written. -/
structure WrittenString where
  /-- The prefix letter, if there is one. -/
  mark : Option Char
  /-- The quote character. -/
  quote : Char
  /-- Whether three quotes open and close the literal. -/
  triple : Bool
  /-- The text between the quotes. -/
  inner : List Char
  /-- The prefix letter is one of strings. -/
  mark_prefix : ∀ c ∈ mark, isStringPrefix c
  /-- The quote character is a quote. -/
  quote_isQuote : isQuote quote
  /-- The text ends where the quotes close. -/
  inner_closed : Inner ⟨quote, triple, mark.any isRawPrefix⟩ inner

namespace WrittenString

variable (written : WrittenString)

/-- Whether backslashes are kept. -/
def raw : Bool :=
  written.mark.any isRawPrefix

/-- The form of the literal. -/
def form : BodyForm :=
  ⟨written.quote, written.triple, written.raw⟩

/-- The whole literal. -/
def text : String :=
  String.ofList
    (written.mark.toList ++ (written.form.quotes ++ (written.inner ++ written.form.quotes)))

end WrittenString

/-- The text between the quotes of a literal has one meaning. -/
theorem Means.unique {raw : Bool} {inner meaning meaning' : List Char} (h : Means raw inner meaning)
    (h' : Means raw inner meaning') : meaning = meaning' := by
  cases raw with
  | true => exact h.trans h'.symm
  | false => exact Unescapes.unique h h'

section Inner

variable {form : BodyForm} {inner : List Char}

/-- Closing quotes begin with a quote. -/
theorem BodyForm.exists_quotes (form : BodyForm) : ∃ more, form.quotes = form.quote :: more := by
  unfold quotes
  split <;> exact ⟨_, rfl⟩

/-- Digits at the beginning of the text between quotes are a part of this text. -/
theorem Inner.of_digits (hquote : isQuote form.quote) (h : Inner form inner) {digits rest : List Char}
    (hdigits : ∀ c ∈ digits, isDigitOf 16 c) (htext : digits ++ rest = inner ++ form.quotes) :
    ∃ more, rest = more ++ form.quotes ∧ Inner form more := by
  induction digits generalizing inner with
  | nil => exact ⟨inner, htext, h⟩
  | cons digit digits ih =>
    obtain ⟨hdigit, hdigits⟩ := List.forall_mem_cons.mp hdigits
    obtain ⟨hnotQuote, hnotBackslash⟩ := not_isQuote_of_isDigitOf (Nat.le_refl 16) hdigit
    cases h with
    | nil =>
      obtain ⟨more, hquotes⟩ := form.exists_quotes
      rw [hquotes] at htext
      rw [(List.cons.inj htext).1, hquote] at hnotQuote
      cases hnotQuote
    | plain _ _ _ hinner => exact ih hinner hdigits (List.cons.inj htext).2
    | escaped => exact absurd (List.cons.inj htext).1 hnotBackslash

/-- A body at the beginning of a text between quotes with its closing quotes is all of it. -/
theorem Inner.eq_nil_of_body (hquote : isQuote form.quote) (h : Inner form inner)
    {body chars rest : List Char} (hbody : Body form body chars)
    (htext : body ++ rest = inner ++ form.quotes) : rest = [] := by
  obtain ⟨more, hquotes⟩ := form.exists_quotes
  have hne : form.quote ≠ '\\' := by
    rcases (isQuote_iff _).mp hquote with h | h <;> rw [h] <;> decide
  induction hbody generalizing inner with
  | close =>
    cases h with
    | nil => simpa using htext
    | plain _ _ hopen _ => exact absurd ⟨rest, htext⟩ hopen
    | escaped =>
      rw [hquotes] at htext
      exact absurd (List.cons.inj htext).1 hne
  | plain hopen hline hc hbody ih =>
    cases h with
    | nil =>
      have hlength := hbody.length_quotes_le
      have htotal := congrArg List.length htext
      simp only [List.length_append, List.length_cons, List.nil_append] at htotal
      omega
    | plain _ _ _ hinner => exact ih hinner (List.cons.inj htext).2
    | escaped => exact absurd (List.cons.inj htext).1 hc
  | verbatim hraw hbody ih =>
    cases h with
    | nil =>
      rw [hquotes] at htext
      exact absurd (List.cons.inj htext).1.symm hne
    | plain hc => exact absurd (List.cons.inj htext).1.symm hc
    | escaped hinner => exact ih hinner (List.cons.inj (List.cons.inj htext).2).2
  | @escaped letter digits body meaning chars hraw hescape hbody ih =>
    cases h with
    | nil =>
      rw [hquotes] at htext
      exact absurd (List.cons.inj htext).1.symm hne
    | plain hc => exact absurd (List.cons.inj htext).1.symm hc
    | @escaped letter' inner hinner =>
      have hafter : digits ++ (body ++ rest) = inner ++ form.quotes := by
        rw [← List.append_assoc]
        exact (List.cons.inj (List.cons.inj htext).2).2
      obtain ⟨more, hmore, hrest⟩ := hinner.of_digits hquote (isDigitOf_of_escape hescape) hafter
      exact ih hrest hmore

/-- Single quotes do not open a body between tripled ones, if no quote comes up in it. -/
theorem Inner.not_triple (hquote : isQuote form.quote) (htriple : form.triple = false)
    (h : Inner form inner) : [form.quote, form.quote].isPrefixOf (inner ++ form.quotes) = false := by
  have hne : form.quote ≠ '\\' := by
    rcases (isQuote_iff _).mp hquote with h | h <;> rw [h] <;> decide
  have hquotes : form.quotes = [form.quote] := by rw [BodyForm.quotes, htriple]; rfl
  cases h with
  | nil => simp [hquotes, List.isPrefixOf]
  | @plain c inner hc hline hopen hinner =>
    have hc : form.quote ≠ c := by
      rintro rfl
      rw [hquotes] at hopen
      exact hopen ⟨_, rfl⟩
    simp [List.isPrefixOf, hc]
  | escaped => simp [List.isPrefixOf, hne]

end Inner

namespace WrittenString

variable (written : WrittenString)

/-- The literal is read as the text between its quotes is. -/
theorem readString_text : ∃ start, readString written.text.toList =
    readBody written.form start 0 (written.inner ++ written.form.quotes) := by
  rw [text, String.toList_ofList]
  cases htriple : written.triple with
  | true =>
    have hquotes : written.form.quotes = [written.quote, written.quote, written.quote] := by
      rw [BodyForm.quotes, form, htriple]
      rfl
    rw [hquotes, List.cons_append, readString_mark written.mark_prefix written.quote_isQuote, readQuoted]
    simp only [List.cons_append, List.nil_append, List.isPrefixOf, beq_self_eq_true, Bool.and_self,
      if_true, List.drop_succ_cons, List.drop_zero]
    rw [form, raw, htriple]
    exact ⟨_, rfl⟩
  | false =>
    have hnot : [written.quote, written.quote].isPrefixOf (written.inner ++ written.form.quotes) = false :=
      written.inner_closed.not_triple written.quote_isQuote htriple
    have hquotes : written.form.quotes = [written.quote] := by
      rw [BodyForm.quotes, form, htriple]
      rfl
    rw [hquotes] at hnot ⊢
    rw [List.singleton_append, readString_mark written.mark_prefix written.quote_isQuote, readQuoted]
    simp only [hnot]
    rw [form, raw, htriple]
    exact ⟨_, rfl⟩

/-- What is read is a text, whose characters the body between the quotes denotes. -/
theorem body_of_read {value : Value} (h : read written.text = .ok value) :
    ∃ chars, value = .text (String.ofList chars) ∧
      Body written.form (written.inner ++ written.form.quotes) chars := by
  obtain ⟨more, hmore⟩ := written.form.exists_quotes
  have hform : written.form.quote = written.quote := rfl
  obtain ⟨start, hstring⟩ := written.readString_text
  have hvalue : ∃ rest, textStep (readStrings written.text.toList) = .ok (value, rest) := by
    rw [text, read_ofList_eq_ok_iff, readWhole] at h
    split at h
    · cases h
    · split at h
      · cases h
      · rename_i found rest hread
        rw [show maxNesting = 127 + 1 from rfl, readValue, hmore, List.cons_append, hform,
          readWith_mark _ written.mark_prefix written.quote_isQuote] at hread
        split at h
        · obtain rfl := Except.ok.inj h
          refine ⟨rest, ?_⟩
          rw [text, String.toList_ofList, hmore]
          exact hread
        · cases h
  obtain ⟨rest, hvalue⟩ := hvalue
  rw [readStrings, hstring] at hvalue
  split at hvalue
  · rename_i chars after hread
    obtain ⟨digits, body, hinner, hdigits, hbody⟩ := body_of_readBody hread
    obtain rfl := List.eq_nil_of_length_eq_zero hdigits
    rw [List.nil_append] at hinner
    obtain rfl := written.inner_closed.eq_nil_of_body written.quote_isQuote hbody hinner.symm
    rw [List.append_nil] at hinner
    refine ⟨chars, ?_, hinner ▸ hbody⟩
    rw [List.length_nil, readAdjacent, prepend, List.append_nil] at hvalue
    exact (Prod.mk.inj (Except.ok.inj hvalue)).1.symm
  · cases hvalue

end WrittenString

/-- A string literal without names of characters is read as a text. In Python it means exactly one
text, and this is the one that is read if the literal is verbatim or every octal escape in it is that
of a single zero, and another one otherwise. -/
theorem read_string (written : WrittenString) {value : Value} (hread : read written.text = .ok value)
    (hnames : written.raw = false → anyEscape announcesName written.inner = false) :
    ∃ chars meaning, value = .text (String.ofList chars) ∧ Means written.raw written.inner meaning ∧
      (∀ other, Means written.raw written.inner other → other = meaning) ∧
        (chars = meaning ↔ written.raw ∨ anyEscape isLongOctal written.inner = false) := by
  obtain ⟨chars, rfl, hbody⟩ := written.body_of_read hread
  cases hraw : written.raw with
  | true =>
    have hverbatim := List.append_cancel_right (Body.eq_append_quotes hraw hbody)
    exact ⟨chars, written.inner, rfl, rfl, fun other hother => hother, by simp [hverbatim]⟩
  | false =>
    obtain ⟨meaning, hmeaning⟩ := hbody.exists_readAs written.quote_isQuote hraw (hnames hraw)
    have hmeans : Means false written.inner meaning := hmeaning.means
    exact ⟨chars, meaning, rfl, hmeans, fun other hother => hother.unique hmeans,
      by simpa using hmeaning.eq_iff⟩

/-- A literal with three kinds of escapes. -/
def escapedLetter : WrittenString where
  mark := some 'u'
  quote := '"'
  triple := false
  inner := ['\\', 't', '\\', 'x', '4', '1', '\\', 'd']
  mark_prefix := by simp [isStringPrefix]
  quote_isQuote := rfl
  inner_closed := .escaped (.escaped
    (.plain (by decide) (by decide) (by decide) (.plain (by decide) (by decide) (by decide)
      (.escaped .nil))))

/-- It is read as what it means: a tabulator, a letter, and a backslash that stays. -/
theorem read_escapedLetter :
    escapedLetter.text = "u\"\\t\\x41\\d\"" ∧ read escapedLetter.text = .ok (.text "\tA\\d") ∧
      ∃ chars meaning, Value.text "\tA\\d" = .text (String.ofList chars) ∧
        Means escapedLetter.raw escapedLetter.inner meaning ∧
          (∀ other, Means escapedLetter.raw escapedLetter.inner other → other = meaning) ∧
            (chars = meaning ↔
              escapedLetter.raw ∨ anyEscape isLongOctal escapedLetter.inner = false) := by
  have hread : read escapedLetter.text = .ok (.text "\tA\\d") := read_ofList_eq_ok_iff.mpr rfl
  exact ⟨rfl, hread, read_string escapedLetter hread fun _ => rfl⟩

/-- A literal with a line feed in octal. -/
def octalNewline : WrittenString where
  mark := none
  quote := '\''
  triple := false
  inner := ['\\', '0', '1', '2']
  mark_prefix := by simp
  quote_isQuote := rfl
  inner_closed := .escaped
    (.plain (by decide) (by decide) (by decide) (.plain (by decide) (by decide) (by decide) .nil))

/-- A line feed in octal is read as a zero byte with two digits after it. -/
theorem read_octalNewline :
    octalNewline.text = "'\\012'" ∧ read octalNewline.text = .ok (.text "\x0012") ∧
      Means octalNewline.raw octalNewline.inner ['\n'] := by
  have hdigits : ∀ c ∈ ['1', '2'], isDigitOf 8 c := List.all_eq_true.mp (by decide)
  exact ⟨rfl, read_ofList_eq_ok_iff.mpr rfl, .escape (.octal rfl hdigits (.inl rfl)) .nil⟩

end NotebookLint.Literal
