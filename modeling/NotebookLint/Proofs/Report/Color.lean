import Mathlib.Data.List.Forall2
import NotebookLint.Proofs.Report.Lines

/-!
# Colours change nothing else

A coloured text report is the plain one with control sequences in it. Taking them out again is a
matter of the text alone: it is read from the front, and whatever has the form of a control sequence
is left out, wherever it comes from. So the report must not bring an escape character of its own, in
the name of a file or in a detail; everything else that it says has none.

Lines are compared one by one and joined at the end. The last line is put together in two ways, with
the padding reckoned from the whole title or set around it in pieces, and comes out the same.
-/

namespace NotebookLint.Report

/-- What follows the numbers of a control sequence and the letter that closes it. -/
def afterNumbers? : List Char → Option (List Char)
  | [] => none
  | c :: rest =>
    if c = 'm' then some rest
    else if c.isDigit || c = ';' then afterNumbers? rest
    else none

/-- What follows a control sequence, if a text begins with one: an escape character, a bracket, any
digits and semicolons, and the closing letter. -/
def afterSequence? : List Char → Option (List Char)
  | '\x1b' :: '[' :: rest => afterNumbers? rest
  | _ => none

/-- What follows the numbers is shorter than the text. -/
theorem length_lt_of_afterNumbers? {text after : List Char} (h : afterNumbers? text = some after) :
    after.length < text.length := by
  induction text with
  | nil => cases h
  | cons c rest ih =>
    rw [afterNumbers?] at h
    split at h
    · rw [← Option.some.inj h]
      exact Nat.lt_succ_self _
    · split at h
      · exact (ih h).trans (Nat.lt_succ_self _)
      · cases h

/-- What follows a control sequence is shorter than the text. -/
theorem length_lt_of_afterSequence? {text after : List Char}
    (h : afterSequence? text = some after) : after.length < text.length := by
  unfold afterSequence? at h
  split at h
  · rename_i rest
    exact (length_lt_of_afterNumbers? h).trans (Nat.lt_add_of_pos_right Nat.two_pos)
  · cases h

/-- A text without its control sequences. -/
def withoutColors (text : List Char) : List Char :=
  match text with
  | [] => []
  | c :: rest =>
    match _h : afterSequence? (c :: rest) with
    | some after => withoutColors after
    | none => c :: withoutColors rest
termination_by text.length
decreasing_by
  · exact length_lt_of_afterSequence? _h
  · exact Nat.lt_succ_self _

/-- Whether a text has no escape character. -/
def IsPlain (text : String) : Prop :=
  '\x1b' ∉ text.toList

/-- Whether a text is what is left of a coloured one without its control sequences, also with more
behind it. -/
def Colors (colored plain : String) : Prop :=
  ∀ rest, withoutColors (colored.toList ++ rest) = plain.toList ++ withoutColors rest

/-- Whether a report brings no escape character of its own. -/
def HasPlainTexts (report : Report) : Prop :=
  ∀ part ∈ report.sections, ∀ result ∈ part.results,
    IsPlain result.1 ∧ ∀ detail ∈ result.2.detail, IsPlain detail

section Sequences

/-- A control sequence at the front is left out. -/
theorem withoutColors_of_afterSequence? {text after : List Char}
    (h : afterSequence? text = some after) : withoutColors text = withoutColors after := by
  cases text with
  | nil => cases h
  | cons c rest =>
    rw [withoutColors]
    split
    · rename_i found hfound
      rw [hfound] at h
      rw [Option.some.inj h]
    · rename_i hnone
      rw [hnone] at h
      cases h

/-- Any other character than an escape is kept. -/
theorem withoutColors_cons {c : Char} (hc : c ≠ '\x1b') (rest : List Char) :
    withoutColors (c :: rest) = c :: withoutColors rest := by
  have hnone : afterSequence? (c :: rest) = none := by
    unfold afterSequence?
    split
    · rename_i heq
      exact absurd (List.cons.inj heq).1 hc
    · rfl
  rw [withoutColors]
  split
  · rename_i found hfound
    rw [hnone] at hfound
    cases hfound
  · rfl

/-- Digits and semicolons are passed over up to the closing letter. -/
theorem afterNumbers?_append {numbers : List Char} (h : ∀ c ∈ numbers, c.isDigit || c = ';')
    (rest : List Char) : afterNumbers? (numbers ++ 'm' :: rest) = some rest := by
  induction numbers with
  | nil => rfl
  | cons c numbers ih =>
    obtain ⟨hc, hnumbers⟩ := List.forall_mem_cons.mp h
    have hm : c ≠ 'm' := by
      rintro rfl
      exact absurd hc (by decide)
    rw [List.cons_append, afterNumbers?, if_neg hm, if_pos hc, ih hnumbers]

/-- Nothing is left of a control sequence. -/
theorem colors_controlSequence (numbers : List Nat) : Colors (controlSequence numbers) "" := by
  intro rest
  refine withoutColors_of_afterSequence? ?_
  have htext : (controlSequence numbers).toList ++ rest = '\x1b' :: '[' ::
      ((String.intercalate ";" (numbers.map toString)).toList ++ 'm' :: rest) := by
    rw [controlSequence, String.toList_append, String.toList_append, List.append_assoc,
      List.append_assoc]
    rfl
  rw [htext]
  exact afterNumbers?_append (fun c => isNumber_of_mem_intercalate) rest

end Sequences

section Plain

variable {text other : String}

/-- A text is plain if its characters are. -/
theorem IsPlain.literal {chars : List Char} (h : '\x1b' ∉ chars) :
    IsPlain (String.ofList chars) :=
  Lacks.literal h

/-- Plain texts after one another are plain. -/
theorem IsPlain.append (htext : IsPlain text) (hother : IsPlain other) :
    IsPlain (text ++ other) :=
  Lacks.append htext hother

/-- A plain text is plain with plain characters around it. -/
theorem IsPlain.between {before after : List Char} (hbefore : '\x1b' ∉ before)
    (hafter : '\x1b' ∉ after) (h : IsPlain text) :
    IsPlain (String.ofList before ++ text ++ String.ofList after) :=
  Lacks.between hbefore hafter h

/-- A number is plain. -/
theorem isPlain_toString (n : Nat) : IsPlain (toString n) :=
  lacks_toString (by decide) n

/-- A run of another character is plain. -/
theorem isPlain_repeated (count : Nat) {c : Char} (hc : c ≠ '\x1b') : IsPlain (repeated count c) :=
  lacks_repeated count hc

/-- A file with a plain name is shown plainly, whatever the base is. -/
theorem IsPlain.display (h : IsPlain text) (base : Option String) :
    IsPlain (Path.display base text) :=
  Lacks.display (by decide) h base

/-- The name of a check is plain. -/
theorem isPlain_name (check : Check) : IsPlain check.name :=
  lacks_name (by decide) check

/-- The description of a check is plain. -/
theorem isPlain_description (check : Check) : IsPlain check.description :=
  lacks_description (by decide) check

/-- The remedy that a check offers is plain. -/
theorem isPlain_failureHint (check : Check) : IsPlain check.failureHint := by
  cases check with
  | lineInCell max =>
    exact .literal (by decide)
  | _ => exact IsPlain.append (.literal (by decide)) (.literal (by decide))

end Plain

section Colors

variable {colored plain moreColored morePlain : String}

/-- All of a plain text is left. -/
theorem colors_of_isPlain {text : String} (h : IsPlain text) : Colors text text := by
  intro rest
  have hchars (chars : List Char) (hchars : '\x1b' ∉ chars) :
      withoutColors (chars ++ rest) = chars ++ withoutColors rest := by
    induction chars with
    | nil => rfl
    | cons c chars ih =>
      rw [List.mem_cons, not_or] at hchars
      rw [List.cons_append, withoutColors_cons (Ne.symm hchars.1), ih hchars.2, List.cons_append]
  exact hchars text.toList h

/-- All of a literal is left. -/
theorem Colors.literal {chars : List Char} (h : '\x1b' ∉ chars) :
    Colors (String.ofList chars) (String.ofList chars) :=
  colors_of_isPlain (.literal h)

/-- What is left of two texts is left of both together. -/
theorem Colors.append (h : Colors colored plain) (hmore : Colors moreColored morePlain) :
    Colors (colored ++ moreColored) (plain ++ morePlain) := by
  intro rest
  rw [String.toList_append, String.toList_append, List.append_assoc, h, hmore, List.append_assoc]

/-- Painting a plain text adds nothing but colours. -/
theorem colors_paint (look : Look) {text : String} (h : IsPlain text) :
    Colors (paint true look text) (paint false look text) := by
  have hpainted := ((colors_controlSequence look).append (colors_of_isPlain h)).append
    (colors_controlSequence [0])
  rwa [String.empty_append, String.append_empty] at hpainted

/-- What is left of texts one by one is left of them in a row. -/
theorem Colors.join {colored plain : List String} (h : List.Forall₂ Colors colored plain) :
    Colors (String.join colored) (String.join plain) := by
  induction h with
  | nil => exact .literal (by decide)
  | cons hfirst _ ih =>
    rw [String.join_cons, String.join_cons]
    exact hfirst.append ih

/-- What is left of lines one by one is left of the lines of a text. -/
theorem Colors.intercalate {separator : String} (hseparator : IsPlain separator)
    {colored plain : List String} (h : List.Forall₂ Colors colored plain) :
    Colors (String.intercalate separator colored) (String.intercalate separator plain) := by
  induction h with
  | nil =>
    rw [String.intercalate_nil]
    exact .literal (by decide)
  | @cons first firstPlain rest restPlain hfirst hrest ih =>
    cases hrest with
    | nil =>
      rw [String.intercalate_singleton, String.intercalate_singleton]
      exact hfirst
    | cons _ _ =>
      rw [String.intercalate_cons_cons, String.intercalate_cons_cons]
      exact (hfirst.append (colors_of_isPlain hseparator)).append ih

end Colors

/-- Lists that are made alike of the same elements correspond. -/
theorem forall₂_flatMap {α β : Type} {R : β → β → Prop} {elements : List α}
    {make other : α → List β}
    (h : ∀ element ∈ elements, List.Forall₂ R (make element) (other element)) :
    List.Forall₂ R (elements.flatMap make) (elements.flatMap other) := by
  induction elements with
  | nil => exact .nil
  | cons element elements ih =>
    obtain ⟨helement, helements⟩ := List.forall_mem_cons.mp h
    rw [List.flatMap_cons, List.flatMap_cons]
    exact List.rel_append helement (ih helements)

/-- A presentation with colours. -/
def Presentation.colored (options : Presentation) : Presentation :=
  { options with color := true }

/-- A presentation without colours. -/
def Presentation.uncolored (options : Presentation) : Presentation :=
  { options with color := false }

section Lines

variable (options : Presentation)

/-- A banner with a plain title is coloured as a whole. -/
theorem colors_banner (width : Nat) {title : String} (h : IsPlain title) :
    Colors (banner width true title) (banner width false title) :=
  colors_paint _ (((isPlain_repeated _ (by decide)).append h).append
    (isPlain_repeated _ (by decide)))

/-- The parts of the last line are plain. -/
theorem isPlain_of_mem_footerParts {summary : Summary} {milliseconds : Nat} {part : String × Look}
    (h : part ∈ footerParts summary milliseconds) : IsPlain part.1 :=
  lacks_of_mem_footerParts (by decide) (by decide) h

/-- The last line has the same padding with and without colours. -/
theorem colors_footer (summary : Summary) (milliseconds : Nat) :
    Colors (footer options.colored summary milliseconds)
      (footer options.uncolored summary milliseconds) := by
  have hparts : List.Forall₂ Colors
      ((footerParts summary milliseconds).map fun part => paint true part.2 part.1)
      ((footerParts summary milliseconds).map Prod.fst) := by
    rw [List.forall₂_map_left_iff, List.forall₂_map_right_iff, List.forall₂_same]
    exact fun part hpart => colors_paint part.2 (isPlain_of_mem_footerParts hpart)
  have hspace : Colors " " " " := .literal (by decide)
  let title := " " ++ String.join ((footerParts summary milliseconds).map Prod.fst) ++ " "
  have hleft : Colors (paint true [yellow] (leftSigns options.width title))
      (leftSigns options.width title) :=
    colors_paint [yellow] (isPlain_repeated _ (by decide))
  have hright : Colors (paint true [yellow] (rightSigns options.width title))
      (rightSigns options.width title) :=
    colors_paint [yellow] (isPlain_repeated _ (by decide))
  have hpieces := (((hleft.append hspace).append (Colors.join hparts)).append hspace).append hright
  -- The plain line has the same five pieces, with the blanks taken into the title.
  have htitle (left parts right : String) :
      left ++ " " ++ parts ++ " " ++ right = left ++ (" " ++ parts ++ " ") ++ right := by
    simp only [String.append_assoc]
  rw [htitle (leftSigns options.width title)] at hpieces
  exact hpieces

/-- The line that opens a section is coloured in two places. -/
theorem colors_sectionHead (part : Section) :
    Colors (sectionHead options.colored part) (sectionHead options.uncolored part) := by
  have hintroduction : IsPlain
      ("[CHECKS: " ++ part.check.name ++ "]:  " ++ part.check.description ++ ":") :=
    ((IsPlain.between (by decide) (by decide) (isPlain_name _)).append
      (isPlain_description _)).append (.literal (by decide))
  have hplain {text : String} (h : IsPlain text) : Colors text text := colors_of_isPlain h
  exact (((((colors_paint _ hintroduction).append (hplain (.literal (by decide)))).append
    (colors_paint _ (isPlain_toString _))).append (hplain (.literal (by decide)))).append
      (hplain (isPlain_toString _))).append (hplain (.literal (by decide)))

/-- The line about a file is coloured where the status stands. -/
theorem colors_fileLine {file : String} (hfile : IsPlain file) (verdict : Verdict) :
    Colors (fileLine options.colored file verdict) (fileLine options.uncolored file verdict) := by
  have hstatus : IsPlain verdict.status.title := lacks_title (by decide) verdict.status
  have hshown : IsPlain ("  * " ++ Path.display options.base file ++ ": ") :=
    lacks_fileStart (by decide) hfile
  exact (colors_of_isPlain hshown).append (colors_paint _ hstatus)

/-- The lines about a file correspond. -/
theorem forall₂_fileLines {result : String × Verdict} (hfile : IsPlain result.1)
    (hdetail : ∀ detail ∈ result.2.detail, IsPlain detail) :
    List.Forall₂ Colors (fileLines options.colored result)
      (fileLines options.uncolored result) := by
  -- What is said about a file depends on how much is to be said, not on colours.
  have hlines (shown : Presentation) (hverbose : shown.verbose = options.verbose) :
      fileLines shown result =
        if result.2.isPass && !options.verbose then []
        else fileLine shown result.1 result.2 :: detailLines options result.2 := by
    rw [fileLines_eq, detailLines, detailLines, hverbose]
  rw [hlines options.colored rfl, hlines options.uncolored rfl]
  by_cases hpassed : result.2.isPass && !options.verbose
  · rw [if_pos hpassed, if_pos hpassed]
    exact .nil
  · rw [if_neg hpassed, if_neg hpassed]
    refine .cons (colors_fileLine options hfile result.2) ?_
    rw [List.forall₂_same]
    intro line hline
    obtain ⟨detail, hfound, rfl⟩ := eq_of_mem_detailLines hline
    exact colors_of_isPlain (IsPlain.append (.literal (by decide)) (hdetail detail hfound))

/-- The lines of a section correspond. -/
theorem forall₂_sectionLines {part : Section}
    (h : ∀ result ∈ part.results, IsPlain result.1 ∧ ∀ detail ∈ result.2.detail, IsPlain detail) :
    List.Forall₂ Colors (sectionLines options.colored part)
      (sectionLines options.uncolored part) := by
  have hhint : List.Forall₂ Colors
      (if 0 < part.count .fail then [part.check.failureHint] else [])
      (if 0 < part.count .fail then [part.check.failureHint] else []) := by
    rw [List.forall₂_same]
    intro line hline
    split at hline
    · rw [List.mem_singleton.mp hline]
      exact colors_of_isPlain (isPlain_failureHint _)
    · cases hline
  have hfiles : List.Forall₂ Colors (part.results.flatMap (fileLines options.colored))
      (part.results.flatMap (fileLines options.uncolored)) :=
    forall₂_flatMap fun result hresult =>
      forall₂_fileLines options (h result hresult).1 (h result hresult).2
  have hend : List.Forall₂ Colors [""] [""] := .cons (.literal (by decide)) .nil
  exact List.rel_append
    (List.rel_append (.cons (colors_sectionHead options part) hhint) hfiles) hend

/-- The lines about an error correspond. -/
theorem forall₂_errorLines {error : Check × String × Verdict} (hfile : IsPlain error.2.1)
    (hdetail : ∀ detail ∈ error.2.2.detail, IsPlain detail) :
    List.Forall₂ Colors (errorLines options.colored error)
      (errorLines options.uncolored error) := by
  obtain ⟨check, file, verdict⟩ := error
  rw [errorLines_eq, errorLines_eq]
  have huncolored : false → ¬ isColoring '\x1b' := fun h => absurd h Bool.false_ne_true
  have hhead : IsPlain (errorHead options.uncolored check file verdict.kind) :=
    lacks_errorHead (by decide) hfile huncolored check verdict.kind
  refine .cons (.literal (by decide)) (.cons (colors_paint [bold] hhead) ?_)
  exact .cons (colors_of_isPlain (lacks_getD hdetail))
    (.cons (colors_of_isPlain (isPlain_repeated _ (by decide))) .nil)

variable {report : Report}

/-- The list of errors corresponds. -/
theorem forall₂_errorList (h : report.HasPlainTexts) :
    List.Forall₂ Colors (errorList options.colored report)
      (errorList options.uncolored report) := by
  unfold errorList
  by_cases hnone : report.summary.errors = 0
  · rw [if_pos hnone, if_pos hnone]
    exact .nil
  · rw [if_neg hnone, if_neg hnone]
    refine .cons (.literal (by decide)) (.cons (colors_banner _ (.literal (by decide))) ?_)
    refine forall₂_flatMap fun error herror => ?_
    -- An error is listed with its file and verdict as its section has them.
    obtain ⟨part, hpart, herror⟩ := List.mem_flatMap.mp herror
    obtain ⟨result, hresult, rfl⟩ := List.mem_map.mp herror
    obtain ⟨hfile, hdetail⟩ := h part hpart result (List.mem_filter.mp hresult).1
    exact forall₂_errorLines options hfile hdetail

/-- The lines between the opening and the last line correspond. -/
theorem forall₂_bodyLines (h : report.HasPlainTexts) :
    List.Forall₂ Colors (bodyLines options.colored report)
      (bodyLines options.uncolored report) := by
  have hempty : Colors "" "" := .literal (by decide)
  unfold bodyLines
  by_cases hnone : report.summary.files = 0
  · rw [if_pos hnone, if_pos hnone]
    exact .cons (.literal (by decide)) .nil
  · rw [if_neg hnone, if_neg hnone]
    refine List.rel_append (List.rel_append ?_ ?_) (forall₂_errorList options h)
    · exact .cons hempty (.cons (colors_banner _ (.literal (by decide))) (.cons hempty .nil))
    · exact forall₂_flatMap fun part hpart => forall₂_sectionLines options (h part hpart)

/-- The lines of a report correspond. -/
theorem forall₂_humanLines (milliseconds : Nat) (h : report.HasPlainTexts) :
    List.Forall₂ Colors (humanLines options.colored milliseconds report)
      (humanLines options.uncolored milliseconds report) := by
  have hempty : Colors "" "" := .literal (by decide)
  have hfound : IsPlain (foundLine report.summary) :=
    lacks_foundLine (by decide) (by decide) report.summary
  refine List.rel_append (List.rel_append ?_ (forall₂_bodyLines options h)) ?_
  · exact .cons (colors_banner _ (.literal (by decide)))
      (.cons (colors_of_isPlain hfound) (.cons hempty .nil))
  · exact .cons hempty (.cons (colors_footer options report.summary milliseconds) .nil)

end Lines

/-- Colours change nothing but colour: without its control sequences the coloured report is the
plain one, for every presentation, time and report that brings no escape character of its own in the
name of a file or in a detail. -/
theorem withoutColors_human (options : Presentation) (milliseconds : Nat) {report : Report}
    (h : report.HasPlainTexts) :
    withoutColors (human options.colored milliseconds report).toList =
      (human options.uncolored milliseconds report).toList := by
  have hlines := forall₂_humanLines options milliseconds h
  have hfeed : IsPlain "\n" := .literal (by decide)
  have hall := Colors.intercalate hfeed hlines []
  rwa [List.append_nil, withoutColors, List.append_nil] at hall

/-- A verbose report about one error, on lines that are shorter than their titles. -/
theorem withoutColors_human_narrow :
    let report := ofSections [⟨.execute true, [("/w/a.ipynb", .error .kernel "no kernel")]⟩] 1
    let options : Presentation := ⟨true, false, some "/w", 7⟩
    report.HasPlainTexts ∧
      withoutColors (human options.colored 1234 report).toList =
        (human options.uncolored 1234 report).toList := by
  intro report options
  have hplain : report.HasPlainTexts := by
    intro part hpart result hresult
    obtain rfl := List.mem_singleton.mp hpart
    obtain rfl := List.mem_singleton.mp hresult
    refine ⟨.literal (by decide), fun detail hdetail => ?_⟩
    obtain rfl := Option.some.inj hdetail
    exact .literal (by decide)
  exact ⟨hplain, withoutColors_human options 1234 hplain⟩

end NotebookLint.Report
