import NotebookLint.Json.Node
import NotebookLint.Proofs.Json.Grammar

/-!
# Strings that are scanned

A string that is scanned is a string of the grammar up to its closing quote, whether it is read or
passed over, and its units are those of the characters that are read. Reading and passing over stop
at the same quote, since a body cannot go on behind its quote.
-/

namespace NotebookLint.Json

open NotebookLint.Text (byteLength lt_of_hexValue)

/-- A character of one unit that is no surrogate has this unit. -/
theorem unitsOf_ofNat {code : Nat} (hcode : code < 0x10000) (hlow : isLowSurrogate code = false)
    (hhigh : isHighSurrogate code = false) : unitsOf (Char.ofNat code) = [code] := by
  have hvalid : code.isValidChar := by
    simp only [isLowSurrogate, isHighSurrogate, Bool.and_eq_false_iff, decide_eq_false_iff_not]
      at hlow hhigh
    simp only [Nat.isValidChar]
    omega
  have hnat : (Char.ofNat code).toNat = code := by
    rw [Char.ofNat, dif_pos hvalid]
    rfl
  rw [unitsOf, hnat, if_pos hcode]

/-- A surrogate pair is the units of the character that it makes. -/
theorem unitsOf_pair {high low : Nat} (hhigh : isHighSurrogate high) (hlow : isLowSurrogate low) :
    unitsOf (Char.ofNat ((high - 0xD800) * 0x400 + (low - 0xDC00) + 0x10000)) = [high, low] := by
  simp only [isLowSurrogate, isHighSurrogate, Bool.and_eq_true, decide_eq_true_eq] at hlow hhigh
  have hvalid : ((high - 0xD800) * 0x400 + (low - 0xDC00) + 0x10000).isValidChar := by
    simp only [Nat.isValidChar]
    omega
  have hnat : (Char.ofNat ((high - 0xD800) * 0x400 + (low - 0xDC00) + 0x10000)).toNat =
      (high - 0xD800) * 0x400 + (low - 0xDC00) + 0x10000 := by
    rw [Char.ofNat, dif_pos hvalid]
    rfl
  rw [unitsOf, hnat, if_neg (by omega), List.cons.injEq, List.cons.injEq]
  refine ⟨?_, ?_, rfl⟩
  · omega
  · omega

/-- Four hexadecimal digits name a unit of 16 bits. -/
theorem NamesUnit.lt {digits : List Char} {code : Nat} (h : NamesUnit digits code) :
    code < 0x10000 := by
  obtain ⟨ha, hb, hc, hd⟩ := h
  have := lt_of_hexValue ha
  have := lt_of_hexValue hb
  have := lt_of_hexValue hc
  have := lt_of_hexValue hd
  omega

/-- There are four hexadecimal digits to a unit. -/
theorem NamesUnit.length_eq {digits : List Char} {code : Nat} (h : NamesUnit digits code) :
    digits.length = 4 := by
  obtain ⟨-, -, -, -⟩ := h
  rfl

/-- A unit is read where digits name it. -/
theorem unit_eq_ok_iff {text : Spot} {code : Nat} :
    unit text = .ok code ↔ ∃ digits rest, text = digits ++ rest ∧ NamesUnit digits code := by
  constructor
  · intro h
    unfold unit at h
    split at h
    · cases h
    · split at h
      · rename_i a b c d rest _
        split at h
        · rename_i p q r s ha hb hc hd
          obtain rfl := Except.ok.inj h
          exact ⟨[a, b, c, d], rest, rfl, .intro ha hb hc hd⟩
        · cases h
      · cases h
  · rintro ⟨digits, rest, rfl, hdigits⟩
    obtain ⟨ha, hb, hc, hd⟩ := hdigits
    rename_i a b c d p q r s
    have hbytes : ¬byteLength (([a, b, c, d] ++ rest).take 4) < 4 := by
      have hpos (c : Char) : 0 < c.utf8Size := c.utf8Size_pos
      have := hpos a
      have := hpos b
      have := hpos c
      have := hpos d
      simp only [List.cons_append, List.nil_append, List.take_succ_cons, List.take_zero, byteLength]
      omega
    unfold unit
    rw [if_neg hbytes]
    simp only [List.cons_append, List.nil_append, ha, hb, hc, hd]

/-- The letter of a simple escape does not announce a unit. -/
theorem ne_of_simpleEscape {letter c : Char} (h : simpleEscape letter = some c) : letter ≠ 'u' := by
  rintro rfl
  cases h

/-- Characters that belong to an escape are skipped. -/
theorem passChars_append (escape rest : Spot) :
    passChars escape.length (escape ++ rest) = passChars 0 rest := by
  induction escape with
  | nil => rfl
  | cons c escape ih => rw [List.length_cons, List.cons_append, passChars, ih]

/-- A body that is passed over ends at its quote. -/
theorem passChars_of_body {body : List Char} {units : List Nat} (h : Body body units) (rest : Spot) :
    passChars 0 (body ++ '"' :: rest) = .ok rest := by
  induction h with
  | nil => simp [passChars]
  | plain hcontrol hquote hbackslash _ ih =>
    rw [List.cons_append, passChars, if_neg hquote, if_neg hbackslash, if_neg (by omega)]
    exact ih
  | @letter letter c body units hletter _ ih =>
    have hescape : passEscape (letter :: (body ++ '"' :: rest)) = .ok 1 := by
      rw [passEscape]
      · rw [hletter]
      · exact ne_of_simpleEscape hletter
    rw [List.cons_append, List.cons_append, passChars, if_neg (by decide), if_pos rfl, hescape]
    exact ih
  | @unit digits body code units hdigits _ ih =>
    have hescape : passEscape ('u' :: (digits ++ (body ++ '"' :: rest))) = .ok 5 := by
      rw [passEscape, unit_eq_ok_iff.mpr ⟨digits, _, rfl, hdigits⟩]
    rw [List.cons_append, List.cons_append, List.append_assoc, passChars, if_neg (by decide),
      if_pos rfl, hescape, ← ih]
    have hskip := passChars_append ('u' :: digits) (body ++ '"' :: rest)
    rw [List.length_cons, hdigits.length_eq] at hskip
    exact hskip

section Escapes

variable {text escape more : Spot} {skip : Nat}

/-- An escape that is passed over names units. -/
theorem body_of_passEscape (h : passEscape text = .ok skip) (htext : text = escape ++ more)
    (hskip : escape.length = skip) :
    ∃ named, ∀ {body units}, Body body units → Body ('\\' :: (escape ++ body)) (named ++ units) := by
  unfold passEscape at h
  split at h
  · cases h
  · split at h
    · cases h
    · rename_i code hcode
      obtain rfl := Except.ok.inj h
      obtain ⟨digits, rest, rfl, hdigits⟩ := unit_eq_ok_iff.mp hcode
      obtain rfl : escape = 'u' :: digits :=
        (List.append_inj (htext.symm : escape ++ more = ('u' :: digits) ++ rest)
          (by rw [hskip, List.length_cons, hdigits.length_eq])).1
      exact ⟨[code], fun hbody => .unit hdigits hbody⟩
  · rename_i letter rest _
    split at h
    · rename_i c hletter
      obtain rfl := Except.ok.inj h
      obtain rfl : escape = [letter] :=
        (List.append_inj (htext.symm : escape ++ more = [letter] ++ rest) hskip).1
      exact ⟨unitsOf c, fun hbody => .letter hletter hbody⟩
    · cases h

/-- The second escape of a surrogate pair names its second half. -/
theorem exists_low_of_readPair {high : Nat} {c : Char} (h : readPair high text = .ok (c, skip))
    (hhigh : isHighSurrogate high) :
    skip = 11 ∧ ∃ low digits rest, text = '\\' :: 'u' :: (digits ++ rest) ∧ NamesUnit digits low ∧
      unitsOf c = [high, low] := by
  unfold readPair at h
  split at h
  · cases h
  · split at h
    · cases h
    · split at h
      · cases h
      · rename_i low hunit
        split at h
        · rename_i hlow
          obtain ⟨rfl, rfl⟩ := Prod.mk.inj (Except.ok.inj h)
          obtain ⟨digits, rest, rfl, hdigits⟩ := unit_eq_ok_iff.mp hunit
          exact ⟨rfl, low, digits, rest, rfl, hdigits, unitsOf_pair hhigh hlow⟩
        · cases h
    · cases h
  · cases h

/-- An escape that is read names the units of its character. -/
theorem body_of_readEscape {c : Char} (h : readEscape text = .ok (c, skip))
    (htext : text = escape ++ more) (hskip : escape.length = skip) {body : List Char}
    {units : List Nat} (hbody : Body body units) :
    Body ('\\' :: (escape ++ body)) (unitsOf c ++ units) := by
  unfold readEscape at h
  split at h
  · cases h
  · split at h
    · cases h
    · rename_i code hcode
      obtain ⟨digits, rest, rfl, hdigits⟩ := unit_eq_ok_iff.mp hcode
      split at h
      · cases h
      · rename_i hlow
        split at h
        · rename_i hhigh
          rw [← hdigits.length_eq, List.drop_left] at h
          obtain ⟨rfl, low, second, rest, rfl, hsecond, hunits⟩ := exists_low_of_readPair h hhigh
          obtain rfl : escape = 'u' :: (digits ++ '\\' :: 'u' :: second) := by
            refine (List.append_inj (?_ : escape ++ more = _ ++ rest) ?_).1
            · rw [← htext]
              simp
            · simp [hskip, hdigits.length_eq, hsecond.length_eq]
          rw [hunits]
          simpa using Body.unit hdigits (.unit hsecond hbody)
        · rename_i hhigh
          obtain ⟨rfl, rfl⟩ := Prod.mk.inj (Except.ok.inj h)
          obtain rfl : escape = 'u' :: digits :=
            (List.append_inj (htext.symm : escape ++ more = ('u' :: digits) ++ rest)
              (by rw [hskip, List.length_cons, hdigits.length_eq])).1
          rw [unitsOf_ofNat hdigits.lt (by simpa using hlow) (by simpa using hhigh)]
          exact .unit hdigits hbody
  · rename_i letter rest _
    split at h
    · rename_i hletter
      obtain ⟨rfl, rfl⟩ := Prod.mk.inj (Except.ok.inj h)
      obtain rfl : escape = [letter] :=
        (List.append_inj (htext.symm : escape ++ more = [letter] ++ rest) hskip).1
      exact .letter hletter hbody
    · cases h

end Escapes

section Scan

variable {text after : Spot} {skip : Nat}

/-- What is passed over up to a closing quote is a body, behind what is skipped. -/
theorem exists_body_of_passChars (h : passChars skip text = .ok after) :
    ∃ escape body units, escape.length = skip ∧ text = escape ++ (body ++ '"' :: after) ∧
      Body body units := by
  induction text generalizing skip with
  | nil => cases skip <;> cases h
  | cons c rest ih =>
    cases skip with
    | succ skip =>
      obtain ⟨escape, body, units, rfl, rfl, hbody⟩ := ih h
      exact ⟨c :: escape, body, units, rfl, rfl, hbody⟩
    | zero =>
      rw [passChars] at h
      split at h
      · rename_i hquote
        obtain rfl := Except.ok.inj h
        exact ⟨[], [], [], rfl, by rw [hquote]; rfl, .nil⟩
      · rename_i hquote
        split at h
        · rename_i hbackslash
          split at h
          · cases h
          · rename_i skip hescape
            obtain ⟨escape, body, units, hskip, htext, hbody⟩ := ih h
            obtain ⟨named, hnamed⟩ := body_of_passEscape hescape htext hskip
            refine ⟨[], '\\' :: (escape ++ body), named ++ units, rfl, ?_, hnamed hbody⟩
            rw [hbackslash, htext]
            simp
        · rename_i hbackslash
          split at h
          · cases h
          · rename_i hcontrol
            obtain ⟨escape, body, units, hskip, rfl, hbody⟩ := ih h
            obtain rfl := List.eq_nil_of_length_eq_zero hskip
            exact ⟨[], c :: body, _, rfl, rfl,
              .plain (Nat.not_lt.mp hcontrol) hquote hbackslash hbody⟩

/-- What is read up to a closing quote is a body with the units of what is read. -/
theorem exists_body_of_readChars {chars : List Char}
    (h : readChars skip text = .ok (chars, after)) :
    ∃ escape body, escape.length = skip ∧ text = escape ++ (body ++ '"' :: after) ∧
      Body body (units chars) := by
  induction text generalizing skip chars with
  | nil => cases skip <;> cases h
  | cons c rest ih =>
    cases skip with
    | succ skip =>
      obtain ⟨escape, body, rfl, rfl, hbody⟩ := ih h
      exact ⟨c :: escape, body, rfl, rfl, hbody⟩
    | zero =>
      rw [readChars] at h
      split at h
      · rename_i hquote
        obtain ⟨rfl, rfl⟩ := Prod.mk.inj (Except.ok.inj h)
        exact ⟨[], [], rfl, by rw [hquote]; rfl, .nil⟩
      · rename_i hquote
        split at h
        · rename_i hbackslash
          split at h
          · cases h
          · rename_i escaped skip hescape
            split at h
            · rename_i hrest
              obtain ⟨rfl, rfl⟩ := Prod.mk.inj (Except.ok.inj h)
              obtain ⟨escape, body, hskip, htext, hbody⟩ := ih hrest
              refine ⟨[], '\\' :: (escape ++ body), rfl, ?_,
                body_of_readEscape hescape htext hskip hbody⟩
              rw [hbackslash, htext]
              simp
            · cases h
        · rename_i hbackslash
          split at h
          · cases h
          · rename_i hcontrol
            split at h
            · rename_i hrest
              obtain ⟨rfl, rfl⟩ := Prod.mk.inj (Except.ok.inj h)
              obtain ⟨escape, body, hskip, rfl, hbody⟩ := ih hrest
              obtain rfl := List.eq_nil_of_length_eq_zero hskip
              exact ⟨[], c :: body, rfl, rfl,
                .plain (Nat.not_lt.mp hcontrol) hquote hbackslash hbody⟩
            · cases h

/-- A string that is scanned is a body with its quote, and has the units of its text if it has
one. -/
theorem exists_body_of_scanString {result : Except Fault (List Char)}
    (h : scanString text = .ok (result, after)) :
    ∃ body named, text = body ++ '"' :: after ∧ Body body named ∧
      ∀ chars, result = .ok chars → named = units chars := by
  unfold scanString at h
  split at h
  · cases h
  · cases h
  · rename_i hpassed
    obtain ⟨rfl, rfl⟩ := Prod.mk.inj (Except.ok.inj h)
    obtain ⟨escape, body, named, hskip, rfl, hbody⟩ := exists_body_of_passChars hpassed
    obtain rfl := List.eq_nil_of_length_eq_zero hskip
    exact ⟨body, named, rfl, hbody, by simp⟩
  · rename_i chars _ _ hread hpassed
    obtain ⟨rfl, rfl⟩ := Prod.mk.inj (Except.ok.inj h)
    obtain ⟨escape, body, hskip, rfl, hbody⟩ := exists_body_of_readChars hread
    obtain rfl := List.eq_nil_of_length_eq_zero hskip
    -- The closing quote of the body is the one at which passing over stops.
    rw [List.nil_append, passChars_of_body hbody] at hpassed
    obtain rfl := Except.ok.inj hpassed
    refine ⟨body, units chars, rfl, hbody, ?_⟩
    intro other hother
    rw [Except.ok.inj hother]

end Scan

end NotebookLint.Json
