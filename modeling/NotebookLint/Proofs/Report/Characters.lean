import NotebookLint.Proofs.Path.Display
import NotebookLint.Report.Human

/-!
# The characters of a report

What a report says by itself is made of few characters: letters, digits and signs, and what control
sequences are made of if it is coloured. Any other character comes from the name of a file or from a
detail. So a line that is put together of texts without some character does not have it either, and
which one it is does not matter.
-/

namespace NotebookLint.Report

/-- Whether a character stands nowhere in a text. -/
def Lacks (c : Char) (text : String) : Prop :=
  c ∉ text.toList
  deriving Decidable

/-- Whether a character is no control character. -/
def isPrinted (c : Char) : Bool :=
  32 ≤ c.toNat

/-- Whether control sequences are made of a character. -/
def isColoring (c : Char) : Bool :=
  c.isDigit || c ∈ ['\x1b', '[', ';', 'm']

/-- What the last line is made of besides digits, equals signs and control sequences. -/
def footerLetters : List Char :=
  [' ', ',', '.', 'a', 'd', 'e', 'f', 'i', 'l', 'n', 'o', 'p', 'r', 's']

section Numbers

variable {c : Char}

/-- The digits of a number are digits. -/
theorem isDigit_of_mem_toString {n : Nat} (h : c ∈ (toString n).toList) : c.isDigit := by
  have htoList : (toString n).toList = Nat.toDigits 10 n := Nat.toList_repr
  rw [htoList] at h
  exact Nat.isDigit_of_mem_toDigits (by decide) (by decide) h

/-- Numbers in a control sequence are digits with semicolons between them. -/
theorem isNumber_of_mem_intercalate {numbers : List Nat}
    (h : c ∈ (String.intercalate ";" (numbers.map toString)).toList) : c.isDigit || c = ';' := by
  induction numbers with
  | nil =>
    rw [List.map_nil, String.intercalate_nil] at h
    cases h
  | cons number numbers ih =>
    rw [List.map_cons] at h
    by_cases hmore : numbers = []
    · rw [hmore, List.map_nil, String.intercalate_singleton] at h
      simp [isDigit_of_mem_toString h]
    · rw [String.intercalate_cons_of_ne_nil (by simpa using hmore), String.toList_append,
        String.toList_append, List.mem_append, List.mem_append] at h
      rcases h with (hnumber | hsemicolon) | hrest
      · simp [isDigit_of_mem_toString hnumber]
      · obtain rfl : c = ';' := List.mem_singleton.mp hsemicolon
        rfl
      · exact ih hrest

end Numbers

section Lacks

variable {c : Char} {text other : String}

/-- A text lacks a character if its characters are others. -/
theorem Lacks.literal {chars : List Char} (h : c ∉ chars) : Lacks c (String.ofList chars) := by
  rw [Lacks, String.toList_ofList]
  exact h

/-- A text lacks a character that is none of some among which are its own. -/
theorem Lacks.within {chars all : List Char} (hall : chars.all (· ∈ all)) (hc : c ∉ all) :
    Lacks c (String.ofList chars) :=
  .literal fun h => hc (of_decide_eq_true (List.all_eq_true.mp hall c h))

/-- A text of printed characters lacks the control characters. -/
theorem Lacks.printed {chars : List Char} (hchars : chars.all isPrinted) (hc : ¬ isPrinted c) :
    Lacks c (String.ofList chars) :=
  .literal fun h => hc (List.all_eq_true.mp hchars c h)

/-- What two texts lack they lack after one another. -/
theorem Lacks.append (htext : Lacks c text) (hother : Lacks c other) :
    Lacks c (text ++ other) := by
  rw [Lacks, String.toList_append, List.mem_append, not_or]
  exact ⟨htext, hother⟩

/-- What a text lacks it lacks with other characters around it. -/
theorem Lacks.between {before after : List Char} (hbefore : c ∉ before) (hafter : c ∉ after)
    (h : Lacks c text) : Lacks c (String.ofList before ++ text ++ String.ofList after) :=
  ((Lacks.literal hbefore).append h).append (.literal hafter)

/-- What all texts lack they lack in a row. -/
theorem Lacks.join {texts : List String} (h : ∀ text ∈ texts, Lacks c text) :
    Lacks c (String.join texts) := by
  induction texts with
  | nil => exact List.not_mem_nil
  | cons text texts ih =>
    obtain ⟨htext, htexts⟩ := List.forall_mem_cons.mp h
    rw [String.join_cons]
    exact htext.append (ih htexts)

/-- A number lacks what is no digit. -/
theorem lacks_toString (hc : ¬ c.isDigit) (n : Nat) : Lacks c (toString n) :=
  fun h => hc (isDigit_of_mem_toString h)

/-- A run of one character lacks the others. -/
theorem lacks_repeated (count : Nat) {d : Char} (hc : d ≠ c) : Lacks c (repeated count d) :=
  .literal fun h => hc (List.eq_of_mem_replicate h).symm

/-- How a file is shown lacks what its name lacks, whatever the base is. -/
theorem Lacks.display (hc : c ≠ '/') (h : Lacks c text) (base : Option String) :
    Lacks c (Path.display base text) := by
  intro hmem
  rcases Path.mem_toList_display hmem with hslash | hfile
  · exact hc hslash
  · exact h hfile

end Lacks

section Printed

variable {c : Char} (hc : ¬ isPrinted c)

include hc

/-- A control character is no printed one. -/
theorem ne_of_isPrinted {d : Char} (hd : isPrinted d) : c ≠ d := by
  rintro rfl
  exact hc hd

/-- A control character is no digit. -/
theorem not_isDigit_of_not_isPrinted : ¬ c.isDigit := by
  intro h
  simp only [Char.isDigit, Bool.and_eq_true, decide_eq_true_eq] at h
  have hdigit : 48 ≤ c.toNat := h.1
  exact hc (decide_eq_true (by omega))

/-- The name of a check is printed. -/
theorem lacks_name (check : Check) : Lacks c check.name := by
  change Lacks c check.kind.name
  cases check.kind <;> exact .printed (by decide) hc

/-- The description of a check is printed. -/
theorem lacks_description (check : Check) : Lacks c check.description := by
  cases check with
  | isAscending => exact .printed (by decide) hc
  | hasMarkdown => exact .printed (by decide) hc
  | execute withParameters => cases withParameters <;> exact .printed (by decide) hc
  | _ max =>
    have hmax : Lacks c (toString max) := lacks_toString (not_isDigit_of_not_isPrinted hc) max
    exact Lacks.append (.printed (by decide) hc) hmax

/-- The name of a kind of error is printed. -/
theorem lacks_kindName (kind : ErrorKind) : Lacks c kind.name := by
  cases kind <;> exact .printed (by decide) hc

/-- The name of a status is printed. -/
theorem lacks_title (status : Status) : Lacks c status.title := by
  cases status <;> exact .printed (by decide) hc

end Printed

section Painted

variable {c : Char} {text : String}

/-- A time is made of digits and a point. -/
theorem lacks_secondsText (hdigit : ¬ c.isDigit) (hc : c ≠ '.') (milliseconds : Nat) :
    Lacks c (secondsText milliseconds) := by
  have hzero (small : Prop) [Decidable small] : Lacks c (if small then "0" else "") := by
    split
    · refine .literal fun h => hdigit ?_
      rw [List.mem_singleton.mp h]
      rfl
    · exact .literal List.not_mem_nil
  have hpoint : Lacks c "." := .literal (by simpa using hc)
  exact (((lacks_toString hdigit _).append hpoint).append (hzero _)).append
    (lacks_toString hdigit _)

/-- What control sequences are not made of is no digit. -/
theorem not_isDigit_of_not_isColoring (hc : ¬ isColoring c) : ¬ c.isDigit := by
  intro h
  exact hc (by simp [isColoring, h])

/-- A control sequence lacks what none is made of. -/
theorem lacks_controlSequence (hc : ¬ isColoring c) (numbers : List Nat) :
    Lacks c (controlSequence numbers) := by
  simp only [isColoring, List.mem_cons, List.not_mem_nil, or_false, Bool.or_eq_true,
    decide_eq_true_eq, not_or] at hc
  obtain ⟨hdigit, hescape, hbracket, hsemicolon, hm⟩ := hc
  have hnumbers : Lacks c (String.intercalate ";" (numbers.map toString)) := fun h => by
    have hnumber := isNumber_of_mem_intercalate h
    simp [hdigit, hsemicolon] at hnumber
  exact .between (by simp [hescape, hbracket]) (by simp [hm]) hnumbers

/-- A painted text lacks what it lacks unpainted, unless it is coloured and control sequences are
made of it. -/
theorem Lacks.paint {color : Bool} (hc : color → ¬ isColoring c) (h : Lacks c text) (look : Look) :
    Lacks c (paint color look text) := by
  cases color with
  | false => exact h
  | true =>
    have hsequence (numbers : List Nat) : Lacks c (controlSequence numbers) :=
      lacks_controlSequence (hc rfl) numbers
    exact ((hsequence look).append h).append (hsequence [0])

/-- A banner lacks what its title lacks, unless banners are made of it. -/
theorem Lacks.banner {color : Bool} (hc : color → ¬ isColoring c) (hsign : c ≠ '=')
    (h : Lacks c text) (width : Nat) : Lacks c (banner width color text) :=
  Lacks.paint hc (((lacks_repeated _ hsign.symm).append h).append (lacks_repeated _ hsign.symm))
    [yellow]

/-- The parts of the last line are made of digits and its letters. -/
theorem lacks_of_mem_footerParts (hdigit : ¬ c.isDigit)
    (hc : c ∉ footerLetters)
    {summary : Summary} {milliseconds : Nat} {part : String × Look}
    (h : part ∈ footerParts summary milliseconds) : Lacks c part.1 := by
  have hcount {count : Nat} {word : String} {look : Look} (hword : Lacks c word)
      (hpart : part ∈ if count = 0 then [] else
        [(toString count ++ " " ++ word ++ ", ", look)]) : Lacks c part.1 := by
    split at hpart
    · cases hpart
    · rw [List.mem_singleton.mp hpart]
      have hcounted : Lacks c (toString count ++ " " ++ word) :=
        ((lacks_toString hdigit count).append (.within (by decide) hc)).append hword
      exact hcounted.append (.within (by decide) hc)
  rw [footerParts, List.mem_append, List.mem_append, List.mem_append] at h
  rcases h with ((hpassed | hfailed) | herrors) | htime
  · exact hcount (.within (by decide) hc) hpassed
  · exact hcount (.within (by decide) hc) hfailed
  · exact hcount (.within (by decide) hc) herrors
  · rw [List.mem_singleton.mp htime]
    have hpoint : c ≠ '.' := fun h => hc (h ▸ by decide)
    exact (Lacks.append (.within (by decide) hc) (lacks_secondsText hdigit hpoint milliseconds)).append
      (.within (by decide) hc)

/-- The last line lacks what it is not made of. -/
theorem lacks_footer (hcolor : ¬ isColoring c) (hsign : c ≠ '=') (hc : c ∉ footerLetters)
    (options : Presentation) (summary : Summary) (milliseconds : Nat) :
    Lacks c (footer options summary milliseconds) := by
  have hdigit : ¬ c.isDigit := not_isDigit_of_not_isColoring hcolor
  have hblank : Lacks c " " := .within (by decide) hc
  have hsigns (count : Nat) : Lacks c (repeated count '=') := lacks_repeated count hsign.symm
  have hparts : ∀ part ∈ footerParts summary milliseconds, Lacks c part.1 :=
    fun part hpart => lacks_of_mem_footerParts hdigit hc hpart
  have hpaint {text : String} (h : Lacks c text) (color : Bool) (look : Look) :
      Lacks c (paint color look text) :=
    h.paint (fun _ => hcolor) look
  cases hcolored : options.color with
  | true =>
    have htexts : Lacks c (String.join
        ((footerParts summary milliseconds).map fun part => paint true part.2 part.1)) := by
      refine .join fun text htext => ?_
      obtain ⟨part, hpart, rfl⟩ := List.mem_map.mp htext
      exact hpaint (hparts part hpart) true part.2
    rw [footer, if_pos hcolored]
    exact ((((hpaint (hsigns _) true _).append hblank).append htexts).append hblank).append
      (hpaint (hsigns _) true _)
  | false =>
    have htexts : Lacks c (String.join ((footerParts summary milliseconds).map Prod.fst)) := by
      refine .join fun text htext => ?_
      obtain ⟨part, hpart, rfl⟩ := List.mem_map.mp htext
      exact hparts part hpart
    rw [footer, hcolored, if_neg Bool.false_ne_true]
    exact Lacks.banner (fun _ => hcolor) hsign ((hblank.append htexts).append hblank) options.width

end Painted

section Marks

variable {options : Presentation} {c : Char} {text title : String}

/-- A text with a character differs from one without it. -/
theorem ne_of_lacks {other : String} (hc : c ∈ text.toList) (h : Lacks c other) : text ≠ other := by
  rintro rfl
  exact h hc

/-- What stands in a text stands in it when it is painted. -/
theorem mem_paint (color : Bool) (look : Look) (h : c ∈ text.toList) :
    c ∈ (paint color look text).toList := by
  cases color with
  | false => exact h
  | true =>
    rw [paint, if_pos rfl, String.toList_append, String.toList_append]
    exact List.mem_append_left _ (List.mem_append_right _ h)

/-- What stands in a title stands in its banner. -/
theorem mem_banner (width : Nat) (color : Bool) (h : c ∈ title.toList) :
    c ∈ (banner width color title).toList := by
  refine mem_paint color [yellow] ?_
  rw [String.toList_append, String.toList_append]
  exact List.mem_append_left _ (List.mem_append_right _ h)

/-- What stands in a part of the last line stands in it. -/
theorem mem_footer {summary : Summary} {milliseconds : Nat} {part : String × Look}
    (hpart : part ∈ footerParts summary milliseconds) (h : c ∈ part.1.toList) :
    c ∈ (footer options summary milliseconds).toList := by
  cases hcolored : options.color with
  | true =>
    have htexts : c ∈ (String.join ((footerParts summary milliseconds).map
        fun part => paint true part.2 part.1)).toList := by
      rw [String.toList_join]
      exact List.mem_flatMap.mpr ⟨_, List.mem_map_of_mem hpart, mem_paint true part.2 h⟩
    rw [footer, if_pos hcolored]
    simp only [String.toList_append, List.mem_append]
    exact .inl (.inl (.inr htexts))
  | false =>
    have htexts : c ∈ (String.join ((footerParts summary milliseconds).map Prod.fst)).toList := by
      rw [String.toList_join]
      exact List.mem_flatMap.mpr ⟨_, List.mem_map_of_mem hpart, h⟩
    rw [footer, hcolored, if_neg Bool.false_ne_true]
    refine mem_banner options.width false ?_
    simp only [String.toList_append, List.mem_append]
    exact .inl (.inr htexts)

/-- A line is no banner if it has a character that neither the title nor any banner has. -/
theorem ne_banner (hcolor : ¬ isColoring c) (hsign : c ≠ '=') (htitle : Lacks c title)
    (h : c ∈ text.toList) : text ≠ banner options.width options.color title :=
  ne_of_lacks h (htitle.banner (fun _ => hcolor) hsign options.width)

/-- The empty line is no banner of a title. -/
theorem empty_ne_banner (h : c ∈ title.toList) :
    "" ≠ banner options.width options.color title := by
  have hempty : Lacks c "" := .literal List.not_mem_nil
  exact (ne_of_lacks (mem_banner _ _ h) hempty).symm

end Marks

end NotebookLint.Report
