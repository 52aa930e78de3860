import Mathlib.Data.List.Flatten
import NotebookLint.Proofs.Report.Characters

/-!
# A text report by lines

The lines of a report are those that it is put together of, as long as the names of the files and
the details take one line each; a remedy takes as many as it has. So the lines of a report are the
opening lines, a block of lines for each section with an empty line behind it, the list of errors,
and the closing lines.

A verbose report has all lines of the brief one, in their order, and more between them.
-/

namespace NotebookLint.Report

/-- The lines of a text. -/
def linesOf (text : String) : List String :=
  (text.toList.splitOn '\n').map String.ofList

/-- Whether the names of the files of a report and its details take one line each. -/
def HasOneLineTexts (report : Report) : Prop :=
  ∀ part ∈ report.sections, ∀ result ∈ part.results,
    Lacks '\n' result.1 ∧ ∀ detail ∈ result.2.detail, Lacks '\n' detail
  deriving Decidable

section Text

/-- A text without a line feed is one line. -/
theorem linesOf_of_lacks {text : String} (h : Lacks '\n' text) : linesOf text = [text] := by
  rw [linesOf, List.splitOn_eq_singleton h, List.map_singleton, String.ofList_toList]

/-- The lines before a line feed are followed by the lines behind it. -/
theorem linesOf_append (text other : String) :
    linesOf (text ++ "\n" ++ other) = linesOf text ++ linesOf other := by
  have hfeed : (text ++ "\n" ++ other).toList = text.toList ++ '\n' :: other.toList := by
    rw [String.toList_append, String.toList_append, List.append_assoc]
    rfl
  rw [linesOf, hfeed, List.splitOn_append_cons_self, List.map_append]
  rfl

/-- The lines of joined texts are the lines of one after the other. -/
theorem linesOf_intercalate {texts : List String} (hne : texts ≠ []) :
    linesOf (String.intercalate "\n" texts) = texts.flatMap linesOf := by
  induction texts with
  | nil => exact absurd rfl hne
  | cons text texts ih =>
    cases texts with
    | nil => rw [String.intercalate_singleton, List.flatMap_singleton]
    | cons other texts =>
      rw [String.intercalate_cons_cons, linesOf_append, ih (List.cons_ne_nil _ _),
        ← List.flatMap_cons]

/-- Texts without line feeds are lines. -/
theorem flatMap_linesOf {texts : List String} (h : ∀ text ∈ texts, Lacks '\n' text) :
    texts.flatMap linesOf = texts := by
  induction texts with
  | nil => rfl
  | cons text texts ih =>
    obtain ⟨htext, htexts⟩ := List.forall_mem_cons.mp h
    rw [List.flatMap_cons, linesOf_of_lacks htext, ih htexts, List.singleton_append]

end Text

section Lines

variable (options : Presentation)

/-- The lines that explain a verdict below the line about its file. -/
def detailLines (verdict : Verdict) : List String :=
  verdict.detail.elim [] fun detail =>
    if showsDetail options.verbose verdict.status then ["    * " ++ detail] else []

/-- What the list of errors says about the kind of an error. -/
def kindNote (kind : Option ErrorKind) : String :=
  kind.elim "" fun kind => " (" ++ kind.name ++ ")"

/-- The line in the list of errors that names a check and a file. -/
def errorHead (check : Check) (file : String) (kind : Option ErrorKind) : String :=
  paint options.color [bold]
    ("[" ++ check.name ++ "]: " ++ Path.display options.base file ++ ":" ++ kindNote kind)

/-- The lines of a section up to the empty line behind it. -/
def blockLines (part : Section) : List String :=
  sectionHead options part :: ((if 0 < part.count .fail then linesOf part.check.failureHint else []) ++
    part.results.flatMap (fileLines options))

/-- The line that tells the numbers of files and checks. -/
def foundLine (summary : Summary) : String :=
  "Found " ++ toString summary.files ++ " notebooks, and select " ++ toString summary.checks ++
    " checks."

/-- What the opening lines are made of besides digits, equals signs and control sequences. -/
def openingLetters : List Char :=
  [' ', '!', ',', '.', 'F', 'a', 'b', 'c', 'd', 'e', 'h', 'k', 'l', 'n', 'o', 'r', 's', 't', 'u']

/-- The lines above the summary. -/
def openingLines (report : Report) : List String :=
  [banner options.width options.color " nbcheck starts! ", foundLine report.summary, "", ""]

/-- The lines above the list of errors: the opening lines, the banner of the summary, and the blocks of
the sections. -/
def aboveLines (report : Report) : List String :=
  openingLines options report ++ banner options.width options.color " summary " :: "" ::
    report.sections.flatMap fun part => blockLines options part ++ [""]

/-- The lines below the sections and the errors. -/
def closingLines (milliseconds : Nat) (report : Report) : List String :=
  ["", footer options report.summary milliseconds]

/-- A file has its line and the explanation, unless it passes and only others are listed. -/
theorem fileLines_eq (result : String × Verdict) :
    fileLines options result =
      if result.2.isPass && !options.verbose then []
      else fileLine options result.1 result.2 :: detailLines options result.2 := by
  rw [fileLines, detailLines]
  cases result.2.detail <;> rfl

/-- An error takes four lines. -/
theorem errorLines_eq (check : Check) (file : String) (verdict : Verdict) :
    errorLines options (check, file, verdict) =
      ["", errorHead options check file verdict.kind, verdict.detail.getD "",
        repeated options.width '-'] := by
  rw [errorLines, errorHead]
  cases verdict.kind <;> rfl

variable {options}

/-- An explanation is indented. -/
theorem eq_of_mem_detailLines {verdict : Verdict} {line : String}
    (h : line ∈ detailLines options verdict) :
    ∃ detail ∈ verdict.detail, line = "    * " ++ detail := by
  rw [detailLines] at h
  cases hdetail : verdict.detail with
  | none =>
    rw [hdetail] at h
    cases h
  | some detail =>
    rw [hdetail, Option.elim_some] at h
    split at h
    · exact ⟨detail, rfl, List.mem_singleton.mp h⟩
    · cases h

/-- What is said about a file is the line about it or an explanation. -/
theorem eq_of_mem_fileLines {result : String × Verdict} {line : String}
    (h : line ∈ fileLines options result) :
    line = fileLine options result.1 result.2 ∨
      ∃ detail ∈ result.2.detail, line = "    * " ++ detail := by
  rw [fileLines_eq] at h
  split at h
  · cases h
  · exact (List.mem_cons.mp h).imp_right eq_of_mem_detailLines

end Lines

section Lacks

variable {options : Presentation} {c : Char}

/-- The line that opens a section is printed, but for the control sequences. -/
theorem lacks_sectionHead (hc : ¬ isPrinted c) (hcolor : options.color → ¬ isColoring c)
    (part : Section) : Lacks c (sectionHead options part) := by
  have hdigit : ¬ c.isDigit := not_isDigit_of_not_isPrinted hc
  have hprinted {chars : List Char} (h : chars.all isPrinted) : Lacks c (String.ofList chars) :=
    .printed h hc
  have hintroduction : Lacks c
      ("[CHECKS: " ++ part.check.name ++ "]:  " ++ part.check.description ++ ":") :=
    ((((hprinted (by decide)).append (lacks_name hc _)).append (hprinted (by decide))).append
      (lacks_description hc _)).append (hprinted (by decide))
  exact (((((hintroduction.paint hcolor _).append (hprinted (by decide))).append
    ((lacks_toString hdigit _).paint hcolor _)).append (hprinted (by decide))).append
      (lacks_toString hdigit _)).append (hprinted (by decide))

/-- The line that tells the numbers of files and checks is made of digits and such letters. -/
theorem lacks_foundLine (hdigit : ¬ c.isDigit) (hc : c ∉ openingLetters) (summary : Summary) :
    Lacks c (foundLine summary) := by
  have hwords {chars : List Char} (h : chars.all (· ∈ openingLetters)) :
      Lacks c (String.ofList chars) :=
    .within h hc
  exact ((((hwords (by decide)).append (lacks_toString hdigit _)).append (hwords (by decide))).append
    (lacks_toString hdigit _)).append (hwords (by decide))

section File

variable (hc : ¬ isPrinted c) {file : String} (hfile : Lacks c file)

include hc hfile

/-- What names a file in its section is printed if the name of the file is. -/
theorem lacks_fileStart :
    Lacks c ("  * " ++ Path.display options.base file ++ ": ") := by
  have hshown : Lacks c (Path.display options.base file) :=
    hfile.display (ne_of_isPrinted hc rfl) options.base
  exact (Lacks.append (.printed (by decide) hc) hshown).append (.printed (by decide) hc)

/-- What names a check and a file in the list of errors is printed if the name of the file is. -/
theorem lacks_errorHead (hcolor : options.color → ¬ isColoring c) (check : Check)
    (kind : Option ErrorKind) : Lacks c (errorHead options check file kind) := by
  have hprinted {chars : List Char} (h : chars.all isPrinted) : Lacks c (String.ofList chars) :=
    .printed h hc
  have hshown : Lacks c (Path.display options.base file) :=
    hfile.display (ne_of_isPrinted hc rfl) options.base
  have hnote : Lacks c (kindNote kind) := by
    cases kind with
    | none => exact hprinted (by decide)
    | some kind =>
      exact ((hprinted (by decide)).append (lacks_kindName hc kind)).append (hprinted (by decide))
  have hplace : Lacks c ("[" ++ check.name ++ "]: " ++ Path.display options.base file ++ ":") :=
    ((((hprinted (by decide)).append (lacks_name hc check)).append (hprinted (by decide))).append
      hshown).append (hprinted (by decide))
  exact (hplace.append hnote).paint hcolor [bold]

end File

/-- A detail lacks a character if there is none. -/
theorem lacks_getD {detail : Option String} (h : ∀ text ∈ detail, Lacks c text) :
    Lacks c (detail.getD "") := by
  cases detail with
  | none => exact .literal List.not_mem_nil
  | some text => exact h text rfl

/-- What is said about a file takes its lines if its name and its detail take one each. -/
theorem lacks_of_mem_fileLines {result : String × Verdict} (hfile : Lacks '\n' result.1)
    (hdetail : ∀ detail ∈ result.2.detail, Lacks '\n' detail) {line : String}
    (h : line ∈ fileLines options result) : Lacks '\n' line := by
  rcases eq_of_mem_fileLines h with rfl | ⟨detail, hmem, rfl⟩
  · have htitle : Lacks '\n' result.2.status.title := lacks_title (by decide) result.2.status
    exact (lacks_fileStart (by decide) hfile).append (htitle.paint (fun _ => by decide) _)
  · exact Lacks.append (.literal (by decide)) (hdetail detail hmem)

/-- So does what the list of errors says about it. -/
theorem lacks_of_mem_errorLines {check : Check} {file : String} {verdict : Verdict}
    (hfile : Lacks '\n' file) (hdetail : ∀ detail ∈ verdict.detail, Lacks '\n' detail)
    {line : String} (h : line ∈ errorLines options (check, file, verdict)) : Lacks '\n' line := by
  rw [errorLines_eq] at h
  simp only [List.mem_cons, List.not_mem_nil, or_false] at h
  rcases h with rfl | rfl | rfl | rfl
  · exact .literal (by decide)
  · exact lacks_errorHead (by decide) hfile (fun _ => by decide) check verdict.kind
  · exact lacks_getD hdetail
  · exact lacks_repeated _ (by decide)

end Lacks

section Report

variable (options : Presentation) {report : Report}

/-- The lines of a section are its block and an empty line. -/
theorem flatMap_linesOf_sectionLines {part : Section}
    (h : ∀ result ∈ part.results,
      Lacks '\n' result.1 ∧ ∀ detail ∈ result.2.detail, Lacks '\n' detail) :
    (sectionLines options part).flatMap linesOf = blockLines options part ++ [""] := by
  have hhead : linesOf (sectionHead options part) = [sectionHead options part] :=
    linesOf_of_lacks (lacks_sectionHead (by decide) (fun _ => by decide) part)
  have hhint : (if 0 < part.count .fail then [part.check.failureHint] else []).flatMap linesOf =
      if 0 < part.count .fail then linesOf part.check.failureHint else [] := by
    split
    · exact List.flatMap_singleton _ _
    · rfl
  have hfiles : (part.results.flatMap (fileLines options)).flatMap linesOf =
      part.results.flatMap (fileLines options) := by
    refine flatMap_linesOf fun line hline => ?_
    obtain ⟨result, hresult, hline⟩ := List.mem_flatMap.mp hline
    exact lacks_of_mem_fileLines (h result hresult).1 (h result hresult).2 hline
  have hend : linesOf "" = [""] := linesOf_of_lacks (.literal (by decide))
  rw [sectionLines, List.flatMap_append, List.flatMap_append, List.flatMap_cons,
    List.flatMap_singleton, hhead, hhint, hfiles, hend, blockLines]
  simp only [List.append_assoc, List.cons_append, List.nil_append]

/-- The list of errors takes its lines. -/
theorem lacks_of_mem_errorList (h : report.HasOneLineTexts) {line : String}
    (hline : line ∈ errorList options report) : Lacks '\n' line := by
  rw [errorList] at hline
  split at hline
  · cases hline
  · rcases List.mem_cons.mp hline with rfl | hline
    · exact .literal (by decide)
    · rcases List.mem_cons.mp hline with rfl | hline
      · exact Lacks.banner (fun _ => by decide) (by decide) (.literal (by decide)) _
      · obtain ⟨error, herror, hline⟩ := List.mem_flatMap.mp hline
        obtain ⟨part, hpart, herror⟩ := List.mem_flatMap.mp herror
        obtain ⟨result, hresult, rfl⟩ := List.mem_map.mp herror
        obtain ⟨hfile, hdetail⟩ := h part hpart result (List.mem_filter.mp hresult).1
        exact lacks_of_mem_errorLines hfile hdetail hline

/-- The opening lines lack what they are not made of. -/
theorem lacks_of_mem_openingLines {c : Char} (hcolor : ¬ isColoring c) (hsign : c ≠ '=')
    (hc : c ∉ openingLetters) {line : String} (hline : line ∈ openingLines options report) :
    Lacks c line := by
  simp only [openingLines, List.mem_cons, List.not_mem_nil, or_false] at hline
  rcases hline with rfl | rfl | rfl | rfl
  · exact Lacks.banner (fun _ => hcolor) hsign (.within (by decide) hc) options.width
  · exact lacks_foundLine (not_isDigit_of_not_isColoring hcolor) hc report.summary
  · exact .literal List.not_mem_nil
  · exact .literal List.not_mem_nil

/-- The closing lines lack what they are not made of. -/
theorem lacks_of_mem_closingLines {c : Char} (hcolor : ¬ isColoring c) (hsign : c ≠ '=')
    (hc : c ∉ footerLetters) {milliseconds : Nat} {line : String}
    (hline : line ∈ closingLines options milliseconds report) : Lacks c line := by
  rcases List.mem_cons.mp hline with rfl | hline
  · exact .literal List.not_mem_nil
  · rw [List.mem_singleton.mp hline]
    exact lacks_footer hcolor hsign hc options report.summary milliseconds

/-- The lines of a report about some files are those above the list of errors, the list of errors,
and the closing lines. -/
theorem linesOf_human (milliseconds : Nat) (hfiles : report.summary.files ≠ 0)
    (h : report.HasOneLineTexts) :
    linesOf (human options milliseconds report) = aboveLines options report ++
      (errorList options report ++ closingLines options milliseconds report) := by
  have hall : humanLines options milliseconds report =
      openingLines options report ++ [banner options.width options.color " summary ", ""] ++
        report.sections.flatMap (sectionLines options) ++ errorList options report ++
        closingLines options milliseconds report := by
    rw [humanLines, bodyLines, if_neg hfiles, openingLines, closingLines, foundLine]
    simp only [List.append_assoc, List.cons_append, List.nil_append]
  have hsummary : [banner options.width options.color " summary ", ""].flatMap linesOf =
      [banner options.width options.color " summary ", ""] := by
    refine flatMap_linesOf fun line hline => ?_
    rcases List.mem_cons.mp hline with rfl | hline
    · exact Lacks.banner (fun _ => by decide) (by decide) (.literal (by decide)) _
    · rw [List.mem_singleton.mp hline]
      exact .literal (by decide)
  have hsections : (report.sections.flatMap (sectionLines options)).flatMap linesOf =
      report.sections.flatMap fun part => blockLines options part ++ [""] := by
    rw [List.flatMap_assoc]
    exact List.flatMap_congr fun part hpart => flatMap_linesOf_sectionLines options (h part hpart)
  rw [human, linesOf_intercalate (by simp [humanLines]), hall, List.flatMap_append,
    List.flatMap_append, List.flatMap_append, List.flatMap_append, hsummary, hsections,
    flatMap_linesOf fun _ => lacks_of_mem_openingLines options (by decide) (by decide) (by decide),
    flatMap_linesOf fun _ => lacks_of_mem_errorList options h,
    flatMap_linesOf fun _ => lacks_of_mem_closingLines options (by decide) (by decide) (by decide),
    aboveLines]
  simp only [List.append_assoc, List.cons_append, List.nil_append]

end Report

/-- A presentation that lists only files that do not pass. -/
def Presentation.brief (options : Presentation) : Presentation :=
  { options with verbose := false }

/-- A presentation that lists all files. -/
def Presentation.full (options : Presentation) : Presentation :=
  { options with verbose := true }

section Verbosity

variable (options : Presentation)

/-- More is said about a file in the full report, and nothing less. -/
theorem sublist_fileLines (result : String × Verdict) :
    (fileLines options.brief result).Sublist (fileLines options.full result) := by
  have hdetails : (detailLines options.brief result.2).Sublist
      (detailLines options.full result.2) := by
    rw [detailLines, detailLines]
    cases result.2.detail with
    | none => exact .slnil
    | some detail =>
      cases result.2.status with
      | error => exact List.nil_sublist _
      | _ => exact .refl _
  have hlisted : ¬ (result.2.isPass && !options.full.verbose) := by simp [Presentation.full]
  rw [fileLines_eq options.brief, fileLines_eq options.full, if_neg hlisted]
  split
  · exact List.nil_sublist _
  · exact hdetails.cons_cons _

/-- The lines of the brief report are among those of the full one, in their order. -/
theorem sublist_linesOf_human (milliseconds : Nat) (report : Report) :
    (linesOf (human options.brief milliseconds report)).Sublist
      (linesOf (human options.full milliseconds report)) := by
  have hsections : (report.sections.flatMap (sectionLines options.brief)).Sublist
      (report.sections.flatMap (sectionLines options.full)) := by
    refine List.Sublist.flatMap_right _ fun part _ => ?_
    have hfiles : (part.results.flatMap (fileLines options.brief)).Sublist
        (part.results.flatMap (fileLines options.full)) :=
      List.Sublist.flatMap_right _ fun result _ => sublist_fileLines options result
    exact (hfiles.append_left _).append_right _
  have hbody : (bodyLines options.brief report).Sublist (bodyLines options.full report) := by
    unfold bodyLines
    split
    · exact .refl _
    · exact (hsections.append_left _).append_right _
  have hlines : (humanLines options.brief milliseconds report).Sublist
      (humanLines options.full milliseconds report) :=
    (hbody.append_left _).append_right _
  rw [human, human, linesOf_intercalate (by simp [humanLines]),
    linesOf_intercalate (by simp [humanLines])]
  exact hlines.flatMap linesOf

end Verbosity

end NotebookLint.Report
