import NotebookLint.Proofs.Json.Strings

/-!
# Units and their characters

Units make at most one text: a character of one unit is never half of a surrogate pair, so the units
of a text tell where each of its characters ends. A body therefore has one sequence of units, and it
is read exactly if they are the units of a text, which is what is read then.
-/

namespace NotebookLint.Json

/-- A character has one unit that is no surrogate, or a surrogate pair that makes it. -/
theorem unitsOf_cases (c : Char) :
    (unitsOf c = [c.toNat] ∧ isHighSurrogate c.toNat = false ∧ isLowSurrogate c.toNat = false) ∨
      ∃ high low, unitsOf c = [high, low] ∧ isHighSurrogate high ∧ isLowSurrogate low ∧
        c = Char.ofNat ((high - 0xD800) * 0x400 + (low - 0xDC00) + 0x10000) := by
  have hvalid : c.toNat < 0xD800 ∨ 0xDFFF < c.toNat ∧ c.toNat < 0x110000 := c.valid
  simp only [isHighSurrogate, isLowSurrogate, Bool.and_eq_true, Bool.and_eq_false_iff,
    decide_eq_true_eq, decide_eq_false_iff_not]
  by_cases hsmall : c.toNat < 0x10000
  · left
    rw [unitsOf, if_pos hsmall]
    exact ⟨rfl, by omega, by omega⟩
  · right
    refine ⟨0xD800 + (c.toNat - 0x10000) / 0x400, 0xDC00 + (c.toNat - 0x10000) % 0x400, ?_, by omega,
      by omega, ?_⟩
    · rw [unitsOf, if_neg hsmall]
    · rw [show (0xD800 + (c.toNat - 0x10000) / 0x400 - 0xD800) * 0x400 +
        (0xDC00 + (c.toNat - 0x10000) % 0x400 - 0xDC00) + 0x10000 = c.toNat by omega,
        Char.ofNat_toNat]

/-- The first half of a surrogate pair is not the second half of one. -/
theorem isLowSurrogate_of_isHighSurrogate {code : Nat} (h : isHighSurrogate code) :
    isLowSurrogate code = false := by
  simp only [isHighSurrogate, isLowSurrogate, Bool.and_eq_true, Bool.and_eq_false_iff,
    decide_eq_true_eq, decide_eq_false_iff_not] at h ⊢
  omega

/-- The units of a character do not begin with the second half of a surrogate pair. -/
theorem not_isLowSurrogate_of_unitsOf {c : Char} {code : Nat} {rest more : List Nat}
    (h : unitsOf c ++ rest = code :: more) : isLowSurrogate code = false := by
  rcases unitsOf_cases c with ⟨hunits, -, hlow⟩ | ⟨high, low, hunits, hhigh, -, -⟩
  · rw [hunits] at h
    rw [← (List.cons.inj h).1]
    exact hlow
  · rw [hunits] at h
    rw [← (List.cons.inj h).1]
    exact isLowSurrogate_of_isHighSurrogate hhigh

/-- Units tell where their first character ends. -/
theorem unitsOf_append_inj {c d : Char} {rest more : List Nat}
    (h : unitsOf c ++ rest = unitsOf d ++ more) : c = d ∧ rest = more := by
  rcases unitsOf_cases c with ⟨hc, hnoHigh, -⟩ | ⟨high, low, hc, hhigh, -, hmakes⟩
  · rcases unitsOf_cases d with ⟨hd, -, -⟩ | ⟨high, low, hd, hhigh, -, -⟩
    · rw [hc, hd] at h
      obtain ⟨hnat, hrest⟩ := List.cons.inj h
      exact ⟨Char.toNat_inj.mp hnat, hrest⟩
    · rw [hc, hd] at h
      rw [(List.cons.inj h).1, hhigh] at hnoHigh
      cases hnoHigh
  · rcases unitsOf_cases d with ⟨hd, hnoHigh, -⟩ | ⟨high', low', hd, -, -, hmakes'⟩
    · rw [hc, hd] at h
      rw [← (List.cons.inj h).1, hhigh] at hnoHigh
      cases hnoHigh
    · rw [hc, hd] at h
      obtain ⟨rfl, htail⟩ := List.cons.inj h
      obtain ⟨rfl, hrest⟩ := List.cons.inj htail
      exact ⟨hmakes.trans hmakes'.symm, hrest⟩

/-- A character has a unit. -/
theorem unitsOf_ne_nil (c : Char) : unitsOf c ≠ [] := by
  rcases unitsOf_cases c with ⟨hunits, -⟩ | ⟨_, _, hunits, -⟩ <;> simp [hunits]

/-- The units of a text with one more character. -/
theorem units_cons (c : Char) (chars : List Char) : units (c :: chars) = unitsOf c ++ units chars :=
  List.flatMap_cons

/-- Two texts with the same units are the same. -/
theorem units_injective : Function.Injective units := by
  intro first
  induction first with
  | nil =>
    intro second h
    cases second with
    | nil => rfl
    | cons d second =>
      rw [units_cons] at h
      exact absurd (List.append_eq_nil_iff.mp h.symm).1 (unitsOf_ne_nil d)
  | cons c first ih =>
    intro second h
    cases second with
    | nil =>
      rw [units_cons] at h
      exact absurd (List.append_eq_nil_iff.mp h).1 (unitsOf_ne_nil c)
    | cons d second =>
      rw [units_cons, units_cons] at h
      obtain ⟨rfl, hrest⟩ := unitsOf_append_inj h
      rw [ih hrest]

/-- Whether a character stands for itself in a string. -/
def isLiteral (c : Char) : Bool :=
  decide (0x20 ≤ c.toNat) && c != '"' && c != '\\'

/-- A string of characters that stand for themselves has their units. -/
theorem quoted_of_literal {text : List Char} (h : text.all isLiteral = true) :
    Quoted ('"' :: (text ++ ['"'])) (units text) := by
  refine .intro ?_
  induction text with
  | nil => exact .nil
  | cons c text ih =>
    simp only [List.all_cons, isLiteral, Bool.and_eq_true, decide_eq_true_eq, bne_iff_ne] at h
    obtain ⟨⟨⟨hcontrol, hquote⟩, hbackslash⟩, hrest⟩ := h
    rw [units_cons]
    exact .plain hcontrol hquote hbackslash (ih hrest)

/-- Four hexadecimal digits name one unit. -/
theorem NamesUnit.unique {digits : List Char} {first second : Nat} (hfirst : NamesUnit digits first)
    (hsecond : NamesUnit digits second) : first = second := by
  obtain ⟨ha, hb, hc, hd⟩ := hfirst
  obtain ⟨ha', hb', hc', hd'⟩ := hsecond
  obtain rfl := Option.some.inj (ha.symm.trans ha')
  obtain rfl := Option.some.inj (hb.symm.trans hb')
  obtain rfl := Option.some.inj (hc.symm.trans hc')
  obtain rfl := Option.some.inj (hd.symm.trans hd')
  rfl

/-- A body has one sequence of units. -/
theorem Body.unique {body : List Char} {first second : List Nat} (hfirst : Body body first)
    (hsecond : Body body second) : first = second := by
  induction hfirst generalizing second with
  | nil =>
    cases hsecond
    rfl
  | plain _ _ hbackslash _ ih =>
    cases hsecond with
    | plain _ _ _ hbody => rw [ih hbody]
    | letter _ _ => exact absurd rfl hbackslash
    | unit _ _ => exact absurd rfl hbackslash
  | letter hletter _ ih =>
    cases hsecond with
    | plain _ _ hbackslash _ => exact absurd rfl hbackslash
    | letter hletter' hbody =>
      obtain rfl := Option.some.inj (hletter.symm.trans hletter')
      rw [ih hbody]
    | unit _ _ => exact absurd rfl (ne_of_simpleEscape hletter)
  | @unit digits body _ _ hdigits _ ih =>
    generalize htext : digits ++ body = text at hsecond
    cases hsecond with
    | plain _ _ hbackslash _ => exact absurd rfl hbackslash
    | letter hletter _ => exact absurd rfl (ne_of_simpleEscape hletter)
    | unit hdigits' hbody =>
      obtain ⟨rfl, rfl⟩ := List.append_inj htext (hdigits.length_eq.trans hdigits'.length_eq.symm)
      rw [hdigits.unique hdigits', ih hbody]

section Read

variable {c : Char} {digits more rest : Spot} {code : Nat}

/-- Characters that belong to an escape are skipped. -/
theorem readChars_append (escape rest : Spot) :
    readChars escape.length (escape ++ rest) = readChars 0 rest := by
  induction escape with
  | nil => rfl
  | cons c escape ih => rw [List.length_cons, List.cons_append, readChars, ih]

/-- An escape is read together with what follows it. -/
theorem readChars_escape (escape : Spot) {chars : List Char}
    (hescape : readEscape (escape ++ more) = .ok (c, escape.length))
    (hmore : readChars 0 more = .ok (chars, rest)) :
    readChars 0 ('\\' :: (escape ++ more)) = .ok (c :: chars, rest) := by
  rw [readChars, if_neg (by decide), if_pos rfl, hescape]
  dsimp only
  rw [readChars_append, hmore]

/-- The letter of a simple escape is read as its character. -/
theorem readEscape_letter {letter : Char} (hletter : simpleEscape letter = some c) :
    readEscape (letter :: more) = .ok (c, 1) := by
  rw [readEscape]
  · rw [hletter]
  · exact ne_of_simpleEscape hletter

/-- The escape of a unit that is no surrogate is read as the character of this unit. -/
theorem readEscape_unit (more : Spot) (hdigits : NamesUnit digits code) (hlow : isLowSurrogate code = false)
    (hhigh : isHighSurrogate code = false) :
    readEscape ('u' :: (digits ++ more)) = .ok (Char.ofNat code, 5) := by
  rw [readEscape, unit_eq_ok_iff.mpr ⟨digits, more, rfl, hdigits⟩]
  simp [hlow, hhigh]

/-- The escapes of a surrogate pair are read as the character that they make. -/
theorem readEscape_pair (more : Spot) {high low : Nat} {first second : Spot}
    (hfirst : NamesUnit first high) (hsecond : NamesUnit second low) (hhigh : isHighSurrogate high) (hlow : isLowSurrogate low) :
    readEscape ('u' :: (first ++ '\\' :: 'u' :: (second ++ more))) =
      .ok (Char.ofNat ((high - 0xD800) * 0x400 + (low - 0xDC00) + 0x10000), 11) := by
  have hdrop : (first ++ '\\' :: 'u' :: (second ++ more)).drop 4 =
      '\\' :: 'u' :: (second ++ more) := by
    rw [← hfirst.length_eq, List.drop_left]
  rw [readEscape, unit_eq_ok_iff.mpr ⟨first, _, rfl, hfirst⟩, hdrop]
  simp only [isLowSurrogate_of_isHighSurrogate hhigh, Bool.false_eq_true, if_false, hhigh, if_true]
  rw [readPair, unit_eq_ok_iff.mpr ⟨second, more, rfl, hsecond⟩]
  simp only [hlow, if_true]

/-- A character that stands for itself is read together with what follows it. -/
theorem readChars_plain {chars : List Char} (hcontrol : 0x20 ≤ c.toNat) (hquote : c ≠ '"')
    (hbackslash : c ≠ '\\') (hmore : readChars 0 more = .ok (chars, rest)) :
    readChars 0 (c :: more) = .ok (c :: chars, rest) := by
  rw [readChars, if_neg hquote, if_neg hbackslash, if_neg (by omega), hmore]

/-- The second half of a surrogate pair stands in a body as an escape. -/
theorem exists_unit_of_body {body : List Char} {named : List Nat} (h : Body body (code :: named))
    (hlow : isLowSurrogate code) :
    ∃ digits body', body = '\\' :: 'u' :: (digits ++ body') ∧ NamesUnit digits code ∧
      Body body' named := by
  generalize hnamed : code :: named = whole at h
  cases h with
  | nil => cases hnamed
  | plain =>
    rw [not_isLowSurrogate_of_unitsOf hnamed.symm] at hlow
    cases hlow
  | letter =>
    rw [not_isLowSurrogate_of_unitsOf hnamed.symm] at hlow
    cases hlow
  | unit hdigits hbody =>
    obtain ⟨rfl, rfl⟩ := List.cons.inj hnamed
    exact ⟨_, _, rfl, hdigits, hbody⟩

/-- A body with the units of a text is read as this text. -/
theorem readChars_of_body {chars body : List Char} (h : Body body (units chars)) (rest : Spot) :
    readChars 0 (body ++ '"' :: rest) = .ok (chars, rest) := by
  induction chars generalizing body with
  | nil =>
    generalize hnamed : units [] = named at h
    cases h with
    | nil => simp [readChars]
    | plain => exact absurd (List.append_eq_nil_iff.mp hnamed.symm).1 (unitsOf_ne_nil _)
    | letter => exact absurd (List.append_eq_nil_iff.mp hnamed.symm).1 (unitsOf_ne_nil _)
    | unit => cases hnamed
  | cons c chars ih =>
    rw [units_cons] at h
    generalize hnamed : unitsOf c ++ units chars = named at h
    cases h with
    | nil => exact absurd (List.append_eq_nil_iff.mp hnamed).1 (unitsOf_ne_nil c)
    | plain hcontrol hquote hbackslash hbody =>
      obtain ⟨rfl, rfl⟩ := unitsOf_append_inj hnamed
      exact readChars_plain hcontrol hquote hbackslash (ih hbody)
    | @letter letter _ _ _ hletter hbody =>
      obtain ⟨rfl, rfl⟩ := unitsOf_append_inj hnamed
      exact readChars_escape [letter] (readEscape_letter hletter) (ih hbody)
    | @unit digits body _ _ hdigits hbody =>
      rcases unitsOf_cases c with ⟨hunits, hhigh, hlow⟩ | ⟨high, low, hunits, hhigh, hlow, hmakes⟩
      · rw [hunits] at hnamed
        obtain ⟨rfl, rfl⟩ := List.cons.inj hnamed
        have hescape : readEscape (('u' :: digits) ++ (body ++ '"' :: rest)) =
            .ok (c, ('u' :: digits).length) := by
          simpa [hdigits.length_eq] using
            readEscape_unit (body ++ '"' :: rest) hdigits hlow hhigh
        simpa using readChars_escape _ hescape (ih hbody)
      · rw [hunits] at hnamed
        obtain ⟨rfl, rfl⟩ := List.cons.inj hnamed
        obtain ⟨second, body', rfl, hsecond, hbody'⟩ := exists_unit_of_body hbody hlow
        have hescape : readEscape (('u' :: (digits ++ '\\' :: 'u' :: second)) ++
            (body' ++ '"' :: rest)) =
              .ok (c, ('u' :: (digits ++ '\\' :: 'u' :: second)).length) := by
          simpa [hdigits.length_eq, hsecond.length_eq, hmakes] using
            readEscape_pair (body' ++ '"' :: rest) hdigits hsecond hhigh hlow
        simpa using readChars_escape _ hescape (ih hbody')

/-- A body with its quote is scanned, and has a text exactly if its units are those of the text. -/
theorem scanString_of_body {body : List Char} {named : List Nat} (h : Body body named)
    (rest : Spot) :
    ∃ result, scanString (body ++ '"' :: rest) = .ok (result, rest) ∧
      ∀ chars, result = .ok chars ↔ named = units chars := by
  have hpass := passChars_of_body h rest
  cases hread : readChars 0 (body ++ '"' :: rest) with
  | error fault =>
    refine ⟨.error fault, by rw [scanString, hread, hpass], fun chars => ⟨nofun, ?_⟩⟩
    rintro rfl
    rw [readChars_of_body h] at hread
    cases hread
  | ok read =>
    obtain ⟨chars, after⟩ := read
    have hscan : scanString (body ++ '"' :: rest) = .ok (.ok chars, rest) := by
      rw [scanString, hread, hpass]
    refine ⟨.ok chars, hscan, fun other => ⟨?_, ?_⟩⟩
    · intro hother
      obtain ⟨body', named', htext, hbody', hunits⟩ := exists_body_of_scanString hscan
      obtain rfl := List.append_cancel_right htext
      rw [← hunits other hother]
      exact h.unique hbody'
    · rintro rfl
      rw [readChars_of_body h] at hread
      rw [(Prod.mk.inj (Except.ok.inj hread)).1]

end Read

end NotebookLint.Json
