import NotebookLint.Json.Node
import NotebookLint.Proofs.Json.Grammar

/-!
# Space, words and numbers that are scanned

Skipping space takes space, a word is scanned letter by letter, and what is split off as a number is
a number of the grammar. A number of the grammar is split off as a whole if what follows it separates
values, and what it is worth as a whole number does not depend on what follows it.
-/

namespace NotebookLint.Json

/-- What is skipped is space. -/
theorem exists_space (text : Spot) : ∃ space, IsSpace space ∧ text = space ++ skipSpace text := by
  induction text with
  | nil => exact ⟨[], by simp [IsSpace], rfl⟩
  | cons c rest ih =>
    rw [skipSpace]
    split
    · rename_i hc
      obtain ⟨space, hspace, hrest⟩ := ih
      refine ⟨c :: space, ?_, congrArg (c :: ·) hrest⟩
      intro d hd
      rcases List.mem_cons.mp hd with rfl | hd
      · exact hc
      · exact hspace d hd
    · exact ⟨[], by simp [IsSpace], rfl⟩

/-- Space after space is space. -/
theorem IsSpace.append {first second : List Char} (hfirst : IsSpace first)
    (hsecond : IsSpace second) : IsSpace (first ++ second) := by
  intro c hc
  rcases List.mem_append.mp hc with hc | hc
  · exact hfirst c hc
  · exact hsecond c hc

/-- A word is scanned to its end, or what is scanned is broken. -/
theorem scanWord_cases (node : Spot → Node) (letters : List Char) (text : Spot) :
    (∃ after, text = letters ++ after ∧ scanWord node letters text = node after) ∨
      ∃ stop, scanWord node letters text = .broken stop := by
  induction letters generalizing text with
  | nil => exact .inl ⟨text, rfl, rfl⟩
  | cons letter letters ih =>
    cases text with
    | nil => exact .inr ⟨_, rfl⟩
    | cons c rest =>
      rw [scanWord]
      split
      · rename_i hletter
        refine (ih rest).imp_left ?_
        rintro ⟨after, rfl, hnode⟩
        exact ⟨after, by rw [hletter]; rfl, hnode⟩
      · exact .inr ⟨_, rfl⟩

/-- Nothing is left of space. -/
theorem skipSpace_of_isSpace {space : List Char} (hspace : IsSpace space) : skipSpace space = [] := by
  induction space with
  | nil => rfl
  | cons c space ih =>
    rw [skipSpace, if_pos (hspace c List.mem_cons_self)]
    exact ih fun d hd => hspace d (List.mem_cons_of_mem _ hd)

/-- Space before a character that is none is skipped. -/
theorem skipSpace_append {space rest : List Char} {c : Char} (hspace : IsSpace space)
    (hc : ¬isSpace c) : skipSpace (space ++ c :: rest) = c :: rest := by
  induction space with
  | nil => rw [List.nil_append, skipSpace, if_neg hc]
  | cons d space ih =>
    rw [List.cons_append, skipSpace, if_pos (hspace d List.mem_cons_self)]
    exact ih fun e he => hspace e (List.mem_cons_of_mem _ he)

/-- A word is scanned to its end where it stands. -/
theorem scanWord_append (node : Spot → Node) (letters : List Char) (after : Spot) :
    scanWord node letters (letters ++ after) = node after := by
  induction letters with
  | nil => rfl
  | cons letter letters ih => rw [List.cons_append, scanWord, if_pos rfl, ih]

/-- Digits are taken from a text that begins with one. -/
theorem isDigits_takeWhile {text : Spot} (h : text.head?.any Char.isDigit) :
    IsDigits (text.takeWhile Char.isDigit) := by
  constructor
  · cases text with
    | nil => cases h
    | cons c rest =>
      have hc : c.isDigit := h
      simp [hc]
  · exact List.all_eq_true.mp List.all_takeWhile

section Number

variable {text after : Spot}

/-- What is split off as an exponent is one. -/
theorem exists_exponent {found : Option (Bool × Spot)} (h : scanExponent text = .ok (found, after)) :
    ∃ exponent, Exponent exponent ∧ text = exponent ++ after := by
  unfold scanExponent at h
  split at h
  · rename_i mark rest
    split at h
    · rename_i hmark
      have hdigits {negative : Bool} {sign digits : Spot}
          (hsign : sign = [] ∨ sign = ['+'] ∨ sign = ['-'])
          (h : (if digits.head?.any Char.isDigit then
              .ok (some (negative, digits), digits.dropWhile Char.isDigit)
            else .error (Fault.at digits .badNumber)) = Except.ok (found, after)) :
          ∃ exponent, Exponent exponent ∧ mark :: (sign ++ digits) = exponent ++ after := by
        split at h
        · rename_i hdigit
          obtain ⟨-, rfl⟩ := Prod.mk.inj (Except.ok.inj h)
          refine ⟨_, .digits hmark hsign (isDigits_takeWhile hdigit), ?_⟩
          simp
        · cases h
      dsimp only at h
      split at h
      · exact hdigits (.inr (.inl rfl)) h
      · exact hdigits (.inr (.inr rfl)) h
      · exact hdigits (.inl rfl) h
    · obtain ⟨-, rfl⟩ := Prod.mk.inj (Except.ok.inj h)
      exact ⟨[], .absent, rfl⟩
  · obtain ⟨-, rfl⟩ := Prod.mk.inj (Except.ok.inj h)
    exact ⟨[], .absent, rfl⟩

/-- What is split off as a fraction and an exponent is a fraction and an exponent. -/
theorem exists_fraction {found : Option (List Char) × Option (Bool × Spot)}
    (h : scanFraction text = .ok (found, after)) :
    ∃ fraction exponent, Fraction fraction ∧ Exponent exponent ∧
      text = fraction ++ (exponent ++ after) := by
  unfold scanFraction at h
  split at h
  · rename_i rest
    split at h
    · rename_i hdigit
      split at h
      · rename_i hexponent
        obtain ⟨-, rfl⟩ := Prod.mk.inj (Except.ok.inj h)
        obtain ⟨exponent, hexponent, hrest⟩ := exists_exponent hexponent
        refine ⟨_, exponent, .digits (isDigits_takeWhile hdigit), hexponent, ?_⟩
        rw [List.cons_append, ← hrest, List.takeWhile_append_dropWhile]
      · cases h
    · cases h
  · split at h
    · rename_i hexponent
      obtain ⟨-, rfl⟩ := Prod.mk.inj (Except.ok.inj h)
      obtain ⟨exponent, hexponent, htext⟩ := exists_exponent hexponent
      exact ⟨[], exponent, .absent, hexponent, htext⟩
    · cases h

/-- Before the point stand digits at the beginning of the text, and after a zero none. -/
theorem wholeDigits_spec (text : Spot) :
    wholeDigits text <+: text ∧ (∀ c ∈ wholeDigits text, c.isDigit) ∧
      ((wholeDigits text).head? = some '0' → wholeDigits text = ['0']) := by
  unfold wholeDigits
  split
  · refine ⟨List.cons_prefix_cons.mpr ⟨rfl, List.nil_prefix⟩, ?_, fun _ => rfl⟩
    intro c hc
    obtain rfl := List.mem_singleton.mp hc
    rfl
  · rename_i hnot
    refine ⟨List.takeWhile_prefix _, List.all_eq_true.mp List.all_takeWhile, ?_⟩
    intro hhead
    cases text with
    | nil => cases hhead
    | cons c rest =>
      rw [List.takeWhile_cons] at hhead
      split at hhead
      · exact absurd (congrArg (· :: rest) (Option.some.inj hhead)) (hnot rest)
      · cases hhead

/-- What is split off as a number without sign is one. -/
theorem exists_unsigned {negative : Bool} {numeral : Numeral}
    (h : scanUnsigned negative text = .ok (numeral, after)) :
    ∃ whole fraction exponent, IsDigits whole ∧ (whole.head? = some '0' → whole = ['0']) ∧
      Fraction fraction ∧ Exponent exponent ∧
        text = whole ++ (fraction ++ (exponent ++ after)) := by
  obtain ⟨hbegins, hdigits, hzero⟩ := wholeDigits_spec text
  unfold scanUnsigned at h
  dsimp only at h
  split at h
  · cases h
  · rename_i hempty
    split at h
    · cases h
    · split at h
      · rename_i hfraction
        obtain ⟨-, rfl⟩ := Prod.mk.inj (Except.ok.inj h)
        obtain ⟨fraction, exponent, hfraction, hexponent, hrest⟩ := exists_fraction hfraction
        refine ⟨wholeDigits text, fraction, exponent, ⟨by simpa using hempty, hdigits⟩, hzero,
          hfraction, hexponent, ?_⟩
        rw [← hrest]
        exact (List.prefix_iff_eq_append.mp hbegins).symm
      · cases h

/-- What is split off as a number is one. -/
theorem exists_number {numeral : Numeral} (h : scanNumber text = .ok (numeral, after)) :
    ∃ lexeme, IsNumber lexeme ∧ text = lexeme ++ after := by
  unfold scanNumber at h
  split at h
  · obtain ⟨whole, fraction, exponent, hwhole, hzero, hfraction, hexponent, rfl⟩ := exists_unsigned h
    exact ⟨_, .intro (.inr rfl) hwhole hzero hfraction hexponent, by simp⟩
  · obtain ⟨whole, fraction, exponent, hwhole, hzero, hfraction, hexponent, rfl⟩ := exists_unsigned h
    exact ⟨_, .intro (.inl rfl) hwhole hzero hfraction hexponent, by simp⟩

end Number

/-- Whether a text does not go on as a value: it is at its end, or there is space, a comma or a
closing bracket. -/
def Separates (rest : Spot) : Prop :=
  ∀ c ∈ rest.head?, isSpace c ∨ c = ',' ∨ c = ']' ∨ c = '}'

/-- What separates values is no part of a number. -/
theorem Separates.head {rest : Spot} (h : Separates rest) {c : Char} (hc : c ∈ rest.head?) :
    c.isDigit = false ∧ c ≠ '.' ∧ c ≠ 'e' ∧ c ≠ 'E' := by
  have hcases := h c hc
  simp only [isSpace, Bool.or_eq_true, beq_iff_eq] at hcases
  rcases hcases with (((rfl | rfl) | rfl) | rfl) | rfl | rfl | rfl <;> decide

section Complete

variable {text rest : Spot} {digits fraction exponent lexeme : List Char}

/-- Digits are taken to their end. -/
theorem takeWhile_digits (hdigits : ∀ c ∈ digits, c.isDigit)
    (hrest : ∀ c ∈ rest.head?, c.isDigit = false) :
    (digits ++ rest).takeWhile Char.isDigit = digits ∧
      (digits ++ rest).dropWhile Char.isDigit = rest := by
  rw [List.takeWhile_append_of_pos hdigits, List.dropWhile_append_of_pos hdigits]
  cases rest with
  | nil => simp
  | cons c rest => simp [hrest c rfl]

/-- Digits begin with one. -/
theorem IsDigits.head (h : IsDigits digits) (rest : Spot) : (digits ++ rest).head?.any Char.isDigit := by
  obtain ⟨hne, hall⟩ := h
  cases digits with
  | nil => exact absurd rfl hne
  | cons c digits => exact hall c List.mem_cons_self

/-- What stands before digits and is no digit is a sign. -/
theorem sign_of_digits {sign : List Char} {c : Char}
    (hsign : sign = [] ∨ sign = ['+'] ∨ sign = ['-']) (hdigits : IsDigits digits)
    (htext : sign ++ (digits ++ rest) = c :: text) (hc : c.isDigit = false) : sign = [c] := by
  rcases hsign with rfl | rfl | rfl
  · have hhead := hdigits.head rest
    rw [← List.nil_append (digits ++ rest), htext] at hhead
    simp [hc] at hhead
  · rw [(List.cons.inj htext).1]
  · rw [(List.cons.inj htext).1]

/-- An exponent is split off to its end. -/
theorem scanExponent_append (h : Exponent exponent) (hrest : Separates rest) :
    ∃ found, scanExponent (exponent ++ rest) = .ok (found, rest) ∧
      found.isNone = exponent.isEmpty := by
  cases h with
  | absent =>
    refine ⟨none, ?_, rfl⟩
    cases rest with
    | nil => rfl
    | cons c rest =>
      obtain ⟨-, -, he, hE⟩ := hrest.head (rfl : c ∈ (c :: rest).head?)
      simp [scanExponent, he, hE]
  | @digits mark sign digits hmark hsign hdigits =>
    have hdrop := (takeWhile_digits hdigits.2 fun c hc => (hrest.head hc).1).2
    have hfound (negative : Bool) : ∃ found,
        (if (digits ++ rest).head?.any Char.isDigit then
            .ok (some (negative, digits ++ rest), (digits ++ rest).dropWhile Char.isDigit)
          else .error (Fault.at (digits ++ rest) .badNumber)) = Except.ok (found, rest) ∧
            found.isNone = (mark :: (sign ++ digits)).isEmpty := by
      rw [if_pos (hdigits.head _), hdrop]
      exact ⟨_, rfl, rfl⟩
    rw [List.cons_append, List.append_assoc]
    unfold scanExponent
    dsimp only
    rw [if_pos hmark]
    split
    · rename_i more hmore
      obtain rfl : sign = ['+'] := sign_of_digits hsign hdigits hmore (by decide)
      obtain rfl : digits ++ rest = more := (List.cons.inj hmore).2
      exact hfound false
    · rename_i more hmore
      obtain rfl : sign = ['-'] := sign_of_digits hsign hdigits hmore (by decide)
      obtain rfl : digits ++ rest = more := (List.cons.inj hmore).2
      exact hfound true
    · rename_i hplus hminus
      rcases hsign with rfl | rfl | rfl
      · exact hfound false
      · exact absurd rfl (hplus _)
      · exact absurd rfl (hminus _)

/-- Neither a digit nor a point begins an exponent or what follows it. -/
theorem Exponent.head (h : Exponent exponent) (hrest : Separates rest) :
    ∀ c ∈ (exponent ++ rest).head?, c.isDigit = false ∧ c ≠ '.' := by
  intro c hc
  cases h with
  | absent =>
    obtain ⟨hdigit, hpoint, -, -⟩ := hrest.head hc
    exact ⟨hdigit, hpoint⟩
  | digits hmark _ _ =>
    obtain rfl := Option.some.inj hc
    rcases hmark with rfl | rfl <;> decide

/-- A fraction and an exponent are split off to their end. -/
theorem scanFraction_append (hfraction : Fraction fraction) (hexponent : Exponent exponent)
    (hrest : Separates rest) :
    ∃ found, scanFraction (fraction ++ (exponent ++ rest)) = .ok (found, rest) ∧
      found.1.isNone = fraction.isEmpty ∧ found.2.isNone = exponent.isEmpty := by
  obtain ⟨found, hfound, hnone⟩ := scanExponent_append hexponent hrest
  have hnext := hexponent.head hrest
  cases hfraction with
  | absent =>
    refine ⟨(none, found), ?_, rfl, hnone⟩
    rw [List.nil_append, scanFraction]
    · rw [hfound]
    · intro more hmore
      exact (hnext '.' (by rw [hmore]; rfl)).2 rfl
  | @digits digits hdigits =>
    obtain ⟨htake, hdrop⟩ := takeWhile_digits hdigits.2 fun c hc => (hnext c hc).1
    refine ⟨(some digits, found), ?_, rfl, hnone⟩
    rw [List.cons_append, scanFraction, if_pos (hdigits.head _), hdrop, hfound, htake]

/-- The digits before the point are taken to their end. -/
theorem wholeDigits_append {whole : List Char} (hwhole : IsDigits whole)
    (hzero : whole.head? = some '0' → whole = ['0'])
    (hrest : ∀ c ∈ rest.head?, c.isDigit = false) : wholeDigits (whole ++ rest) = whole := by
  unfold wholeDigits
  split
  · rename_i more htext
    refine (hzero ?_).symm
    cases whole with
    | nil => exact absurd rfl hwhole.1
    | cons c whole => rw [(List.cons.inj htext).1]; rfl
  · exact (takeWhile_digits hwhole.2 hrest).1

/-- A number is split off to its end, and what it is made of does not depend on what follows. -/
theorem scanNumber_append (h : IsNumber lexeme) :
    ∃ negative whole noFraction noExponent, ∀ rest, Separates rest →
      ∃ numeral, scanNumber (lexeme ++ rest) = .ok (numeral, rest) ∧
        numeral.negative = negative ∧ numeral.whole = whole ∧
          numeral.fraction.isNone = noFraction ∧ numeral.exponent.isNone = noExponent := by
  obtain @⟨sign, whole, fraction, exponent, hsign, hwhole, hzero, hfraction, hexponent⟩ := h
  refine ⟨decide (sign = ['-']), whole, fraction.isEmpty, exponent.isEmpty, fun rest hrest => ?_⟩
  obtain ⟨found, hfound, hfractionNone, hexponentNone⟩ :=
    scanFraction_append hfraction hexponent hrest
  have hunsigned (negative : Bool) :
      scanUnsigned negative (whole ++ (fraction ++ (exponent ++ rest))) =
        .ok (⟨negative, whole, found.1, found.2⟩, rest) := by
    have hnext : ∀ c ∈ (fraction ++ (exponent ++ rest)).head?, c.isDigit = false := by
      cases hfraction with
      | absent => exact fun c hc => (hexponent.head hrest c hc).1
      | digits => rintro c ⟨⟩; rfl
    have hdigit : ¬((fraction ++ (exponent ++ rest)).head?.any Char.isDigit) := by
      rw [Option.any_eq_true]
      rintro ⟨c, hc, hc'⟩
      rw [hnext c hc] at hc'
      cases hc'
    unfold scanUnsigned
    dsimp only
    rw [wholeDigits_append hwhole hzero hnext, List.drop_left, if_neg (by simpa using hwhole.1),
      if_neg (fun hboth => hdigit hboth.2), hfound]
  refine ⟨⟨decide (sign = ['-']), whole, found.1, found.2⟩, ?_, rfl, rfl, hfractionNone,
    hexponentNone⟩
  rw [List.append_assoc, List.append_assoc, List.append_assoc]
  rcases hsign with rfl | rfl
  · rw [List.nil_append, scanNumber]
    · exact hunsigned false
    · intro more hmore
      have hhead := hwhole.head (fraction ++ (exponent ++ rest))
      rw [hmore] at hhead
      cases hhead
  · exact hunsigned true

/-- A number is a whole one with this value or none whatever follows it. -/
theorem Numeral.value_eq_integer_congr {first second : Numeral} {after rest : Spot} {n : Int}
    (hnegative : first.negative = second.negative) (hwhole : first.whole = second.whole)
    (hfraction : first.fraction.isNone = second.fraction.isNone)
    (hexponent : first.exponent.isNone = second.exponent.isNone)
    (h : first.value after = .ok (.integer n)) : second.value rest = .ok (.integer n) := by
  unfold Numeral.value at h ⊢
  dsimp only at h ⊢
  rw [hnegative, hwhole, hfraction, hexponent] at h
  split at h
  · rename_i hinteger
    rw [if_pos hinteger]
    exact h
  · split at h
    · cases h
    · split at h <;> cases h

/-- Whether a number is a whole one with this value. -/
def IsInteger (lexeme : List Char) (n : Int) : Prop :=
  scanNumeral lexeme = .number (.ok (.integer n)) []

/-- A number is scanned to its end, and has the value of a whole number exactly if it is one. -/
theorem scanNumeral_append (h : IsNumber lexeme) (hrest : Separates rest) :
    ∃ value, scanNumeral (lexeme ++ rest) = .number value rest ∧
      ∀ n, value = .ok (.integer n) ↔ IsInteger lexeme n := by
  obtain ⟨negative, whole, noFraction, noExponent, hnumber⟩ := scanNumber_append h
  obtain ⟨numeral, hnumeral, hnegative, hwhole, hfraction, hexponent⟩ := hnumber rest hrest
  obtain ⟨alone, halone, hnegative', hwhole', hfraction', hexponent'⟩ := hnumber [] (by simp [Separates])
  refine ⟨numeral.value rest, by rw [scanNumeral, hnumeral], fun n => ?_⟩
  rw [List.append_nil] at halone
  rw [IsInteger, scanNumeral, halone, Node.number.injEq, and_iff_left rfl]
  constructor
  · exact Numeral.value_eq_integer_congr (hnegative.trans hnegative'.symm) (hwhole.trans hwhole'.symm)
      (hfraction.trans hfraction'.symm) (hexponent.trans hexponent'.symm)
  · exact Numeral.value_eq_integer_congr (hnegative'.trans hnegative.symm) (hwhole'.trans hwhole.symm)
      (hfraction'.trans hfraction.symm) (hexponent'.trans hexponent.symm)

end Complete
end NotebookLint.Json
