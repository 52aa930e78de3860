import NotebookLint.Proofs.Literal.Acceptance
import NotebookLint.Proofs.Literal.Digit

/-!
# What escapes mean in Python

The Python rules for a text with escapes between the quotes of a literal, as a relation that gives
every text at most one meaning. Only one kind of escape is read otherwise: an octal escape takes up
to three digits in Python, as many as follow, and only that of a single zero is known here. A text
with any other is read as a longer one than it means.
-/

namespace NotebookLint.Literal

open NotebookLint.Text

/-- The letters that stand for one character after a backslash. -/
def simpleEscapes : List (Char × Char) :=
  [('\\', '\\'), ('\'', '\''), ('"', '"'), ('a', '\x07'), ('b', '\x08'), ('f', '\x0c'), ('n', '\n'),
    ('r', '\r'), ('t', '\t'), ('v', '\x0b')]

/-- The letters that a fixed number of hexadecimal digits follows. -/
def hexEscapes : List (Char × Nat) :=
  [('x', 2), ('u', 4), ('U', 8)]

/-- Whether a letter after a backslash announces the name of a character. -/
def announcesName (letter : Char) (following : List Char) : Bool :=
  letter == 'N' && following.head? == some '{'

/-- What stands after a backslash, directly before the text `following`, and what it means together
with the backslash. -/
inductive Escape (following : List Char) : List Char → List Char → Prop where
  /-- A line feed joins two lines. -/
  | joined : Escape following ['\n'] []
  /-- A letter that stands for a character. -/
  | simple {letter c : Char} (hletter : (letter, c) ∈ simpleEscapes) : Escape following [letter] [c]
  /-- One, two or three octal digits, and fewer than three only if no further one follows. -/
  | octal {first : Char} {digits : List Char} (hfirst : isDigitOf 8 first)
      (hdigits : ∀ c ∈ digits, isDigitOf 8 c)
      (hlongest : digits.length = 2 ∨
        digits.length < 2 ∧ ∀ c ∈ following.head?, isDigitOf 8 c = false) :
      Escape following (first :: digits) [Char.ofNat (numberOf 8 (first :: digits))]
  /-- As many hexadecimal digits as the letter announces. -/
  | hex {letter : Char} {digits : List Char} (hletter : (letter, digits.length) ∈ hexEscapes)
      (hdigits : ∀ c ∈ digits, isDigitOf 16 c) (hvalid : (numberOf 16 digits).isValidChar) :
      Escape following (letter :: digits) [Char.ofNat (numberOf 16 digits)]
  /-- Any other character is kept, and so is the backslash. -/
  | kept {letter : Char} (hline : letter ≠ '\n') (hsimple : letter ∉ simpleEscapes.map Prod.fst)
      (hoctal : isDigitOf 8 letter = false) (hhex : letter ∉ hexEscapes.map Prod.fst)
      (hname : announcesName letter following = false) : Escape following [letter] ['\\', letter]

/-- A text with escapes and what it means, read from left to right. -/
inductive Unescapes : List Char → List Char → Prop where
  /-- Nothing means nothing. -/
  | nil : Unescapes [] []
  /-- Any character but a backslash means itself. -/
  | plain {c : Char} {inner meaning : List Char} (hc : c ≠ '\\') (hinner : Unescapes inner meaning) :
      Unescapes (c :: inner) (c :: meaning)
  /-- A backslash begins an escape. -/
  | escape {text chars inner meaning : List Char} (hescape : Escape inner text chars)
      (hinner : Unescapes inner meaning) : Unescapes ('\\' :: (text ++ inner)) (chars ++ meaning)

/-- Whether some escape of a text has a property of its letter and of what follows this. -/
def anyEscape (p : Char → List Char → Bool) : List Char → Bool
  | '\\' :: letter :: rest => p letter rest || anyEscape p rest
  | _ :: rest => anyEscape p rest
  | [] => false

/-- Whether an escape is octal and more than a single zero. -/
def isLongOctal (letter : Char) (following : List Char) : Bool :=
  isDigitOf 8 letter && (letter != '0' || following.head?.any (isDigitOf 8))

/-- A character other than a backslash begins no escape. -/
theorem anyEscape_cons {p : Char → List Char → Bool} {c : Char} (hc : c ≠ '\\') (rest : List Char) :
    anyEscape p (c :: rest) = anyEscape p rest := by
  rw [anyEscape]
  exact fun _ _ hbackslash _ => hc hbackslash

/-- The escapes behind characters other than backslashes are all there are. -/
theorem anyEscape_append {p : Char → List Char → Bool} {chars : List Char} (hchars : '\\' ∉ chars)
    (rest : List Char) : anyEscape p (chars ++ rest) = anyEscape p rest := by
  induction chars with
  | nil => rfl
  | cons c chars ih =>
    rw [List.mem_cons, not_or] at hchars
    rw [List.cons_append, anyEscape_cons (Ne.symm hchars.1), ih hchars.2]

/-- Digits are neither quotes nor backslashes. -/
theorem not_isQuote_of_isDigitOf {base : Nat} (hbase : base ≤ 16) {c : Char} (hc : isDigitOf base c) :
    isQuote c = false ∧ c ≠ '\\' :=
  of_digitChars (p := fun d => isQuote d = false ∧ d ≠ '\\') (by decide) hbase hc

/-- There is no backslash among digits. -/
theorem backslash_not_mem_digits {base : Nat} (hbase : base ≤ 16) {digits : List Char}
    (hdigits : ∀ c ∈ digits, isDigitOf base c) : '\\' ∉ digits :=
  fun hmem => (not_isQuote_of_isDigitOf hbase (hdigits _ hmem)).2 rfl

/-- The characters that belong to an escape behind its letter are hexadecimal digits. -/
theorem isDigitOf_of_escape {letter : Char} {digits meaning : List Char}
    (h : escape letter digits = .ok (meaning, digits.length)) : ∀ c ∈ digits, isDigitOf 16 c := by
  rcases escape_cases letter with ⟨count, hhex⟩ | ⟨fixed, hfixed⟩
  · rw [hhex, hexEscape_eq_ok_iff] at h
    obtain ⟨hcount, code, hcode, -⟩ := h
    rw [← hcount] at hcode
    exact (hexPrefix_eq_some_iff.mp hcode).1
  · rw [hfixed] at h
    have hlength : 0 = digits.length := (Prod.mk.inj (Except.ok.inj h)).2
    rw [List.eq_nil_of_length_eq_zero hlength.symm]
    simp

/-- An escape that is read means what it means in Python, unless it is octal. -/
theorem escape_of_read {letter : Char} {digits meaning following : List Char}
    (h : escape letter digits = .ok (meaning, digits.length)) (hoctal : isDigitOf 8 letter = false)
    (hname : announcesName letter (digits ++ following) = false) :
    Escape following (letter :: digits) meaning := by
  have hfixed {fixed : List Char}
      (hread : (.ok (fixed, 0) : Except Cause _) = .ok (meaning, digits.length)) :
      digits = [] ∧ meaning = fixed := by
    obtain ⟨rfl, hlength⟩ := Prod.mk.inj (Except.ok.inj hread)
    exact ⟨List.eq_nil_of_length_eq_zero hlength.symm, rfl⟩
  have hhex {count : Nat} (hletter : (letter, count) ∈ hexEscapes)
      (hread : hexEscape count digits = .ok (meaning, digits.length)) :
      Escape following (letter :: digits) meaning := by
    obtain ⟨rfl, code, hcode, hvalid, rfl⟩ := hexEscape_eq_ok_iff.mp hread
    obtain ⟨hdigits, rfl⟩ := hexPrefix_eq_some_iff.mp hcode
    exact .hex hletter hdigits hvalid
  unfold escape at h
  split at h
  case h_1 =>
    obtain ⟨rfl, rfl⟩ := hfixed h
    exact .joined
  case h_8 => exact absurd hoctal (by decide)
  case h_13 | h_14 | h_15 => exact hhex (by decide) h
  case h_16 =>
    obtain ⟨rfl, rfl⟩ := hfixed h
    refine .kept ‹_› ?_ hoctal ?_ hname
    · simp only [simpleEscapes, List.map_cons, List.map_nil, List.mem_cons, List.not_mem_nil, or_false,
        not_or]
      and_intros <;> assumption
    · simp only [hexEscapes, List.map_cons, List.map_nil, List.mem_cons, List.not_mem_nil, or_false,
        not_or]
      and_intros <;> assumption
  all_goals
    obtain ⟨rfl, rfl⟩ := hfixed h
    exact .simple (by decide)

/-- Of the octal escapes only the zero is known. -/
theorem escape_octal {letter : Char} (hoctal : isDigitOf 8 letter) (rest : List Char) :
    escape letter rest = .ok (if letter = '0' then ['\x00'] else ['\\', letter], 0) := by
  have hmem : letter ∈ ['0', '1', '2', '3', '4', '5', '6', '7'] :=
    of_digitChars (p := fun d => isDigitOf 8 d → d ∈ ['0', '1', '2', '3', '4', '5', '6', '7'])
      (by decide) (by decide) hoctal hoctal
  simp only [List.mem_cons, List.not_mem_nil, or_false] at hmem
  rcases hmem with rfl | rfl | rfl | rfl | rfl | rfl | rfl | rfl <;> rfl

section Body

variable {form : BodyForm} {chars : List Char}

/-- Closing quotes alone are a body without characters. -/
theorem Body.eq_nil_of_quotes (h : Body form form.quotes chars) : chars = [] := by
  generalize htext : form.quotes = text at h
  cases h with
  | close => rfl
  | plain _ _ _ hbody | verbatim _ hbody | escaped _ _ hbody =>
    have hlength := hbody.length_quotes_le
    rw [htext] at hlength
    simp only [List.length_cons, List.length_append] at hlength
    omega

/-- Before the closing quotes a character that is neither a quote nor a backslash means itself. -/
theorem Body.cons_plain {c : Char} {inner : List Char} (hc : c ≠ '\\')
    (h : Body form (c :: (inner ++ form.quotes)) chars) :
    ∃ rest, chars = c :: rest ∧ Body form (inner ++ form.quotes) rest := by
  generalize htext : c :: (inner ++ form.quotes) = text at h
  cases h with
  | close =>
    have hlength := congrArg List.length htext
    simp at hlength
    omega
  | plain _ _ _ hbody =>
    obtain ⟨rfl, rfl⟩ := List.cons.inj htext
    exact ⟨_, rfl, hbody⟩
  | verbatim | escaped => exact absurd (List.cons.inj htext).1 hc

/-- Before the closing quotes characters without backslashes mean themselves. -/
theorem Body.append_plain {run inner : List Char} (hrun : '\\' ∉ run)
    (h : Body form (run ++ inner ++ form.quotes) chars) :
    ∃ rest, chars = run ++ rest ∧ Body form (inner ++ form.quotes) rest := by
  induction run generalizing chars with
  | nil => exact ⟨chars, rfl, h⟩
  | cons c run ih =>
    rw [List.mem_cons, not_or] at hrun
    obtain ⟨rest, rfl, hrest⟩ := Body.cons_plain (Ne.symm hrun.1) h
    obtain ⟨more, rfl, hmore⟩ := ih hrun.2 hrest
    exact ⟨more, rfl, hmore⟩

/-- Before the closing quotes a backslash begins an escape that is read. -/
theorem Body.cons_backslash (hquote : isQuote form.quote) (hraw : form.raw = false)
    {inner : List Char} (h : Body form ('\\' :: (inner ++ form.quotes)) chars) :
    ∃ letter digits rest meaning more, inner = letter :: (digits ++ rest) ∧
      escape letter digits = .ok (meaning, digits.length) ∧ chars = meaning ++ more ∧
      Body form (rest ++ form.quotes) more := by
  generalize htext : '\\' :: (inner ++ form.quotes) = text at h
  cases h with
  | close =>
    have hcloses : closes form ('\\' :: (inner ++ form.quotes)) = true := by
      rw [htext, closes_eq]
      exact List.isPrefixOf_iff_prefix.mpr (List.prefix_refl _)
    rw [closes_backslash hquote] at hcloses
    cases hcloses
  | plain _ _ hc _ => exact absurd (List.cons.inj htext).1.symm hc
  | verbatim hverbatim => rw [hraw] at hverbatim; cases hverbatim
  | @escaped letter digits body meaning more _ hescape hbody =>
    have hinside := (List.cons.inj htext).2
    have hlength := hbody.length_quotes_le
    rw [← List.cons_append] at hinside
    rcases List.append_eq_append_iff.mp hinside with ⟨between, hletter, hquotes⟩ | ⟨rest, rfl, rfl⟩
    · obtain rfl : between = [] := by
        rw [hquotes, List.length_append] at hlength
        exact List.eq_nil_of_length_eq_zero (by omega)
      rw [List.append_nil] at hletter
      rw [List.nil_append] at hquotes
      exact ⟨letter, digits, [], meaning, more, by simp [← hletter], hescape, rfl, hquotes ▸ hbody⟩
    · exact ⟨letter, digits, rest, meaning, more, by simp, hescape, rfl, hbody⟩

/-- In a verbatim body every character means itself. -/
theorem Body.eq_append_quotes (hraw : form.raw = true) {body : List Char} (h : Body form body chars) :
    body = chars ++ form.quotes := by
  induction h with
  | close => rfl
  | plain _ _ _ _ ih => rw [ih, List.cons_append]
  | verbatim _ _ ih => rw [ih, List.cons_append, List.cons_append]
  | escaped hescaped => rw [hraw] at hescaped; cases hescaped

end Body

/-- A text of which some characters are read, and what it means in Python. Both are the same unless
there is a long octal escape, and then more is read than meant. -/
structure ReadAs (inner chars meaning : List Char) : Prop where
  /-- The text has this meaning. -/
  means : Unescapes inner meaning
  /-- At least as many characters are read. -/
  length_le : meaning.length ≤ chars.length
  /-- Only long octal escapes make a difference. -/
  eq_iff : chars = meaning ↔ anyEscape isLongOctal inner = false

namespace ReadAs

variable {inner chars meaning : List Char}

/-- A character other than a backslash is read as itself. -/
theorem plain {c : Char} (hc : c ≠ '\\') (h : ReadAs inner chars meaning) :
    ReadAs (c :: inner) (c :: chars) (c :: meaning) where
  means := .plain hc h.means
  length_le := Nat.succ_le_succ h.length_le
  eq_iff := by
    rw [List.cons.injEq, anyEscape_cons hc, ← h.eq_iff]
    simp

/-- An escape that is not octal is read as what it means. -/
theorem escape {letter : Char} {digits meant : List Char} (hoctal : isDigitOf 8 letter = false)
    (hdigits : '\\' ∉ digits) (hescape : Escape inner (letter :: digits) meant)
    (h : ReadAs inner chars meaning) :
    ReadAs ('\\' :: letter :: (digits ++ inner)) (meant ++ chars) (meant ++ meaning) where
  means := .escape hescape h.means
  length_le := by
    rw [List.length_append, List.length_append]
    exact Nat.add_le_add_left h.length_le _
  eq_iff := by
    rw [List.append_cancel_left_eq, h.eq_iff, anyEscape, anyEscape_append hdigits, isLongOctal, hoctal]
    simp

/-- The octal escape of a single zero is read as what it means, and any other as a longer text. -/
theorem octal {letter : Char} {digits : List Char} (hoctal : isDigitOf 8 letter)
    (hdigits : ∀ c ∈ digits, isDigitOf 8 c)
    (hlongest : digits.length = 2 ∨ digits.length < 2 ∧ ∀ c ∈ inner.head?, isDigitOf 8 c = false)
    (h : ReadAs inner chars meaning) :
    ReadAs ('\\' :: letter :: (digits ++ inner))
      ((if letter = '0' then ['\x00'] else ['\\', letter]) ++ (digits ++ chars))
      ([Char.ofNat (numberOf 8 (letter :: digits))] ++ meaning) where
  means := .escape (.octal hoctal hdigits hlongest) h.means
  length_le := by
    have hlength := h.length_le
    split <;> simp only [List.length_append, List.length_cons, List.length_nil] <;> omega
  eq_iff := by
    have hplain := backslash_not_mem_digits (by decide) hdigits
    have hlength := h.length_le
    rw [anyEscape, anyEscape_append hplain, Bool.or_eq_false_iff, ← h.eq_iff, isLongOctal, hoctal]
    by_cases hlone : letter = '0' ∧ digits = []
    · obtain ⟨rfl, rfl⟩ := hlone
      have hhead : inner.head?.any (isDigitOf 8) = false := by
        obtain hlong | ⟨-, hnone⟩ := hlongest
        · cases hlong
        · cases inner with
          | nil => rfl
          | cons c inner => exact hnone c rfl
      have hzero : Char.ofNat (numberOf 8 ['0']) = '\x00' := by decide
      simp [hzero, hhead]
    · have hlong : (letter != '0' || (digits ++ inner).head?.any (isDigitOf 8)) = true := by
        cases digits with
        | nil => simp_all
        | cons c digits => simp [hdigits c (by simp)]
      rw [hlong]
      refine iff_of_false (fun heq => hlone ?_) (by simp)
      have heq := congrArg List.length heq
      split at heq <;> simp only [List.length_append, List.length_cons, List.length_nil] at heq
      · exact ⟨‹_›, List.eq_nil_of_length_eq_zero (by omega)⟩
      · omega

end ReadAs

/-- As many octal digits as there are at the beginning of a text, up to a bound. -/
theorem exists_octal_run (most : Nat) (text : List Char) :
    ∃ run rest, text = run ++ rest ∧ (∀ c ∈ run, isDigitOf 8 c) ∧
      (run.length = most ∨ run.length < most ∧ ∀ c ∈ rest.head?, isDigitOf 8 c = false) := by
  induction most generalizing text with
  | zero => exact ⟨[], text, rfl, by simp, .inl rfl⟩
  | succ most ih =>
    cases text with
    | nil => exact ⟨[], [], rfl, by simp, .inr ⟨Nat.succ_pos most, by simp⟩⟩
    | cons c text =>
      cases hc : isDigitOf 8 c with
      | false => exact ⟨[], c :: text, rfl, by simp, .inr ⟨Nat.succ_pos most, by simpa using hc⟩⟩
      | true =>
        obtain ⟨run, rest, rfl, hrun, hlongest⟩ := ih text
        exact ⟨c :: run, rest, rfl, List.forall_mem_cons.mpr ⟨hc, hrun⟩,
          hlongest.imp (congrArg Nat.succ) (And.imp_left Nat.succ_lt_succ)⟩

/-- What is read between quotes in a literal with escapes has a meaning in Python. -/
theorem Body.exists_readAs {form : BodyForm} (hquote : isQuote form.quote) (hraw : form.raw = false)
    {inner chars : List Char} (h : Body form (inner ++ form.quotes) chars)
    (hnames : anyEscape announcesName inner = false) : ∃ meaning, ReadAs inner chars meaning := by
  -- an escape takes its digits with it, so the induction is on the length of the text
  induction hlength : inner.length using Nat.strong_induction_on generalizing inner chars with
  | _ length ih =>
  subst hlength
  match inner with
  | [] =>
    obtain rfl := Body.eq_nil_of_quotes h
    exact ⟨[], .nil, Nat.le_refl 0, by simp [anyEscape]⟩
  | c :: inner =>
    by_cases hc : c = '\\'
    · subst hc
      obtain ⟨letter, digits, rest, meant, more, rfl, hescape, rfl, hmore⟩ :=
        Body.cons_backslash hquote hraw h
      rw [anyEscape, Bool.or_eq_false_iff] at hnames
      cases hoctal : isDigitOf 8 letter with
      | false =>
        have hplain := backslash_not_mem_digits (Nat.le_refl 16) (isDigitOf_of_escape hescape)
        rw [anyEscape_append hplain] at hnames
        obtain ⟨meaning, hmeaning⟩ := ih rest.length (by simp; omega) hmore hnames.2 rfl
        exact ⟨_, hmeaning.escape hoctal hplain (escape_of_read hescape hoctal hnames.1)⟩
      | true =>
        rw [escape_octal hoctal] at hescape
        obtain ⟨rfl, hnone⟩ := Prod.mk.inj (Except.ok.inj hescape)
        obtain rfl := List.eq_nil_of_length_eq_zero hnone.symm
        obtain ⟨run, following, hrest, hrun, hlongest⟩ := exists_octal_run 2 rest
        rw [List.nil_append] at hnames ⊢
        subst hrest
        have hplain := backslash_not_mem_digits (by decide) hrun
        obtain ⟨chars, rfl, hfollowing⟩ := Body.append_plain hplain hmore
        rw [anyEscape_append hplain] at hnames
        obtain ⟨meaning, hmeaning⟩ := ih following.length (by simp; omega) hfollowing hnames.2 rfl
        exact ⟨_, hmeaning.octal hoctal hrun hlongest⟩
    · obtain ⟨rest, rfl, hrest⟩ := Body.cons_plain hc h
      rw [anyEscape_cons hc] at hnames
      obtain ⟨meaning, hmeaning⟩ := ih inner.length (by simp) hrest hnames rfl
      exact ⟨_, hmeaning.plain hc⟩

/-- A run of octal digits that is as long as it may be does not go on. -/
theorem octal_run_longest {digits more following : List Char}
    (hlongest : digits.length = 2 ∨
      digits.length < 2 ∧ ∀ c ∈ (more ++ following).head?, isDigitOf 8 c = false)
    (hmore : ∀ c ∈ more, isDigitOf 8 c) (hlength : (digits ++ more).length ≤ 2) : more = [] := by
  cases more with
  | nil => rfl
  | cons c more =>
    simp only [List.length_append, List.length_cons] at hlength
    obtain hfull | ⟨-, hnone⟩ := hlongest
    · omega
    · simp [hmore c (by simp)] at hnone

/-- What an escape is and means can be told from the text from it on. -/
theorem Escape.eq_of_append_eq {text text' following following' chars chars' : List Char}
    (h : Escape following text chars) (h' : Escape following' text' chars')
    (htext : text ++ following = text' ++ following') : text = text' ∧ chars = chars' := by
  have hsimple : ∀ p ∈ simpleEscapes, p.1 ≠ '\n' ∧ isDigitOf 8 p.1 = false ∧
      p.1 ∉ hexEscapes.map Prod.fst ∧ ∀ q ∈ simpleEscapes, p.1 = q.1 → p.2 = q.2 := by decide
  have hhex : ∀ p ∈ hexEscapes, p.1 ≠ '\n' ∧ isDigitOf 8 p.1 = false ∧
      ∀ q ∈ hexEscapes, p.1 = q.1 → p.2 = q.2 := by decide
  have hline : isDigitOf 8 '\n' = false := by decide
  -- the first letter tells the kind, and the kind tells the rest
  cases h <;> cases h' <;> obtain ⟨hletter, hrest⟩ := List.cons.inj htext
  case joined.joined => exact ⟨rfl, rfl⟩
  case simple.simple => grind
  case octal.octal hdigits hlongest _ digits' _ hdigits' hlongest' =>
    obtain ⟨more, rfl, rfl⟩ | ⟨more, rfl, rfl⟩ := List.append_eq_append_iff.mp hrest
    · obtain rfl := octal_run_longest hlongest (fun c hc => hdigits' c (by simp [hc])) (by omega)
      simp [hletter]
    · obtain rfl := octal_run_longest hlongest' (fun c hc => hdigits c (by simp [hc])) (by omega)
      simp [hletter]
  case hex.hex hmem _ _ _ digits' hmem' _ _ =>
    obtain ⟨rfl, -⟩ := List.append_inj hrest ((hhex _ hmem).2.2 _ hmem' hletter)
    exact ⟨by rw [hletter], rfl⟩
  case kept.kept =>
    rw [hletter]
    exact ⟨rfl, rfl⟩
  all_goals grind

/-- A text with escapes has one meaning. -/
theorem Unescapes.unique {inner meaning meaning' : List Char} (h : Unescapes inner meaning)
    (h' : Unescapes inner meaning') : meaning = meaning' := by
  induction h generalizing meaning' with
  | nil => cases h'; rfl
  | plain hc _ ih =>
    cases h' with
    | plain _ hinner => rw [ih hinner]
    | escape => exact absurd rfl hc
  | @escape text chars inner meaning hescape _ ih =>
    generalize hwhole : '\\' :: (text ++ inner) = whole at h'
    cases h' with
    | nil => cases hwhole
    | plain hc => exact absurd (List.cons.inj hwhole).1.symm hc
    | escape hescape' hinner =>
      obtain ⟨rfl, rfl⟩ := hescape.eq_of_append_eq hescape' (List.cons.inj hwhole).2
      rw [ih (List.append_cancel_left (List.cons.inj hwhole).2 ▸ hinner)]

end NotebookLint.Literal
