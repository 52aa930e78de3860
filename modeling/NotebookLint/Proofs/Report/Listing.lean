import Mathlib.Algebra.GroupWithZero.Nat
import NotebookLint.Proofs.Report.Block
import NotebookLint.Proofs.Report.Isolation

/-!
# What a text report shows

A text report is read line by line. Its sections stand below the banner of the summary, each a block
of lines up to the next empty one, as long as a block begins with a check; its errors stand below
their banner, four lines each. Read like this, a report shows every problem once, in its place, and
agrees with its totals.

A detail stands in the list of errors as it is, so that it may look like any other line, also like
one about a file. This does not mislead: where an error is listed, there is something to report, and
an error is found by its place and not by what it says.
-/

namespace NotebookLint.Report

/-- The lines below the first banner with a title. -/
def below (options : Presentation) (title : String) (lines : List String) : List String :=
  (lines.dropWhile (· ≠ banner options.width options.color title)).tail

/-- The blocks of lines that the sections of a report take. -/
def sectionBlocks (options : Presentation) (lines : List String) : List (List String) :=
  (((below options " summary " lines).tail).splitOn "").takeWhile fun block => OpensSection block

/-- The head and the detail of the errors that are listed, four lines each. -/
def errorEntries : List String → List (String × String)
  | _ :: head :: detail :: _ :: rest => (head, detail) :: errorEntries rest
  | _ => []

/-- Whether a text shows a report. -/
structure ShowsReport (options : Presentation) (report : Report) (text : String) : Prop where
  /-- There is a block for each section, in the order of the sections. -/
  sections : List.Forall₂ (ShowsSection options) report.sections
    (sectionBlocks options (linesOf text))
  /-- The passes that the sections give add up to the total. -/
  passed_sum : ((sectionBlocks options (linesOf text)).map passedShown).sum = report.summary.passed
  /-- The errors have a banner if there are any, and only then. -/
  errors_iff : banner options.width options.color " errors " ∈ linesOf text ↔
    0 < report.summary.errors
  /-- The errors are listed in the order of the sections and their files, with the kind and the
  detail. -/
  errors_eq : errorEntries (below options " errors " (linesOf text)) =
    report.sections.flatMap fun part =>
      (part.results.filter fun result => result.2.status = .error).map fun result =>
        (paint options.color [bold] ("[" ++ part.check.name ++ "]: " ++
            Path.display options.base result.1 ++ ":" ++
            result.2.kind.elim "" fun kind => " (" ++ kind.name ++ ")"),
          result.2.detail.getD "")

section Cut

variable {options : Presentation}

/-- Blocks without empty lines are what the empty lines behind them separate. -/
theorem splitOn_flatMap_blocks {blocks : List (List String)} (h : ∀ block ∈ blocks, "" ∉ block)
    (rest : List String) :
    (blocks.flatMap (· ++ [""]) ++ rest).splitOn "" = blocks ++ rest.splitOn "" := by
  induction blocks with
  | nil => rfl
  | cons block blocks ih =>
    obtain ⟨hblock, hblocks⟩ := List.forall_mem_cons.mp h
    have hnext : (block :: blocks).flatMap (· ++ [""]) ++ rest =
        block ++ "" :: (blocks.flatMap (· ++ [""]) ++ rest) := by
      simp only [List.flatMap_cons, List.append_assoc, List.cons_append, List.nil_append]
    rw [hnext, List.splitOn_append_cons_self_of_not_mem hblock, ih hblocks, List.cons_append]

/-- Lines that are not the banner are passed over. -/
theorem dropWhile_append_of_not_mem {title : String} {before : List String}
    (h : banner options.width options.color title ∉ before) (after : List String) :
    (before ++ after).dropWhile (· ≠ banner options.width options.color title) =
      after.dropWhile (· ≠ banner options.width options.color title) := by
  refine List.dropWhile_append_of_pos fun line hline => decide_eq_true ?_
  rintro rfl
  exact h hline

/-- What stands below a banner follows it, if it did not come before. -/
theorem below_append {title : String} {before : List String}
    (h : banner options.width options.color title ∉ before) (after : List String) :
    below options title (before ++ banner options.width options.color title :: after) = after := by
  rw [below, dropWhile_append_of_not_mem h, List.dropWhile_cons_of_neg (by simp), List.tail_cons]

/-- Nothing stands below a banner that does not come. -/
theorem below_of_not_mem {title : String} {lines : List String}
    (h : banner options.width options.color title ∉ lines) : below options title lines = [] := by
  rw [below, ← List.append_nil lines, dropWhile_append_of_not_mem h]
  rfl

end Cut

section Page

variable (options : Presentation) {report : Report}

/-- The opening lines do not have a banner without their own letters. -/
theorem banner_not_mem_openingLines {title : String} {c : Char} (hempty : c ∈ title.toList)
    (hsign : Lacks '!' title) (hletter : Lacks 'F' title) :
    banner options.width options.color title ∉ openingLines options report := by
  intro h
  have hstart : '!' ∈ (banner options.width options.color " nbcheck starts! ").toList :=
    mem_banner _ _ (by decide)
  have hfound : 'F' ∈ (foundLine report.summary).toList := by
    simp only [foundLine, String.toList_append, List.mem_append]
    exact .inl (.inl (.inl (.inl (by decide))))
  simp only [openingLines, List.mem_cons, List.not_mem_nil, or_false] at h
  rcases h with h | h | h | h
  · exact ne_banner (by decide) (by decide) hsign hstart h.symm
  · exact ne_banner (by decide) (by decide) hletter hfound h.symm
  · exact empty_ne_banner hempty h.symm
  · exact empty_ne_banner hempty h.symm

/-- The sections stand below the banner of the summary, block by block. -/
theorem sectionBlocks_human (milliseconds : Nat) (hfiles : report.summary.files ≠ 0)
    (h : report.HasOneLineTexts) :
    sectionBlocks options (linesOf (human options milliseconds report)) =
      report.sections.map (blockLines options) := by
  have hbanner : banner options.width options.color " summary " ∉ openingLines options report :=
    banner_not_mem_openingLines options (by decide : 's' ∈ " summary ".toList) (.literal (by decide))
      (.literal (by decide))
  have hblocks : ∀ block ∈ report.sections.map (blockLines options), "" ∉ block := by
    intro block hblock
    obtain ⟨part, -, rfl⟩ := List.mem_map.mp hblock
    exact empty_not_mem_blockLines options part
  have hopens : ∀ block ∈ report.sections.map (blockLines options),
      decide (OpensSection block) := by
    intro block hblock
    obtain ⟨part, -, rfl⟩ := List.mem_map.mp hblock
    exact decide_eq_true (opensSection_blockLines options part)
  -- Behind the sections there is one more empty line, whatever follows.
  obtain ⟨more, hmore⟩ : ∃ more,
      errorList options report ++ closingLines options milliseconds report = "" :: more := by
    rw [errorList]
    split <;> exact ⟨_, rfl⟩
  have hend : ([] ++ "" :: more).splitOn "" = [] :: more.splitOn "" :=
    List.splitOn_append_cons_self_of_not_mem List.not_mem_nil more
  have hnone : ¬ OpensSection [] := by
    rw [OpensSection, heading, List.headD_nil, String.toList_empty, withoutColors]
    exact fun hprefix => absurd (List.prefix_nil.mp hprefix) (by decide)
  have hflat : (report.sections.flatMap fun part => blockLines options part ++ [""]) =
      (report.sections.map (blockLines options)).flatMap (· ++ [""]) := by
    rw [List.flatMap_map]
  rw [sectionBlocks, linesOf_human options milliseconds hfiles h, aboveLines, List.append_assoc,
    List.cons_append, below_append hbanner, List.cons_append, List.tail_cons, hmore, hflat,
    splitOn_flatMap_blocks hblocks, ← List.nil_append ("" :: more), hend,
    List.takeWhile_append_of_pos hopens, List.takeWhile_cons_of_neg (by simpa using hnone),
    List.append_nil]

/-- No line above the list of errors is their banner. -/
theorem banner_not_mem_above (report : Report) :
    banner options.width options.color " errors " ∉ aboveLines options report := by
  -- The width may leave no sign around a title, so lines are told apart by single letters.
  have hempty : "" ≠ banner options.width options.color " errors " :=
    empty_ne_banner (by decide : 'e' ∈ " errors ".toList)
  intro h
  rcases List.mem_append.mp h with h | h
  · exact banner_not_mem_openingLines options (by decide : 'e' ∈ " errors ".toList)
      (.literal (by decide)) (.literal (by decide)) h
  rcases List.mem_cons.mp h with h | h
  · have hsummary : 'u' ∈ (banner options.width options.color " summary ").toList :=
      mem_banner _ _ (by decide)
    exact ne_banner (by decide) (by decide) (.literal (by decide)) hsummary h.symm
  rcases List.mem_cons.mp h with h | h
  · exact hempty h.symm
  obtain ⟨part, -, h⟩ := List.mem_flatMap.mp h
  rcases List.mem_append.mp h with h | h
  · rcases cases_of_mem_blockLines h with h | h | ⟨result, -, h⟩
    · exact ne_banner (by decide) (by decide) (.literal (by decide)) (mem_sectionHead options part)
        h.symm
    · exact ne_banner (by decide) (by decide) (.literal (by decide)) (isAdvice_of_mem_linesOf h).1 rfl
    · exact ne_banner (by decide) (by decide) (.literal (by decide)) (mem_of_mem_fileLines h) rfl
  · exact hempty (List.mem_singleton.mp h).symm

/-- Nor is one of the closing lines. -/
theorem banner_not_mem_closingLines (milliseconds : Nat) (report : Report) :
    banner options.width options.color " errors " ∉ closingLines options milliseconds report := by
  intro h
  rcases List.mem_cons.mp h with h | h
  · exact empty_ne_banner (by decide : 'e' ∈ " errors ".toList) h.symm
  · have htime : ("in " ++ secondsText milliseconds ++ "s", [yellow]) ∈
        footerParts report.summary milliseconds :=
      List.mem_append_right _ List.mem_cons_self
    have hmem : 'n' ∈ ("in " ++ secondsText milliseconds ++ "s").toList := by
      simp only [String.toList_append, List.mem_append]
      exact .inl (.inl (by decide))
    have hfooter : 'n' ∈ (footer options report.summary milliseconds).toList :=
      mem_footer htime hmem
    exact ne_banner (by decide) (by decide) (.literal (by decide)) hfooter
      (List.mem_singleton.mp h).symm

/-- The errors of a list are read as they are written, four lines each. -/
theorem errorEntries_flatMap (errors : List (Check × String × Verdict)) (rest : List String) :
    errorEntries (errors.flatMap (errorLines options) ++ rest) =
      errors.map (fun (check, file, verdict) =>
        (errorHead options check file verdict.kind, verdict.detail.getD "")) ++
          errorEntries rest := by
  induction errors with
  | nil => rfl
  | cons error errors ih =>
    obtain ⟨check, file, verdict⟩ := error
    rw [List.flatMap_cons, errorLines_eq]
    exact congrArg (List.cons _) ih

/-- The errors stand below their banner, if there are any. -/
theorem errors_human (milliseconds : Nat) (hfiles : report.summary.files ≠ 0)
    (h : report.HasOneLineTexts) (hcount : report.errors.length = report.summary.errors) :
    (banner options.width options.color " errors " ∈ linesOf (human options milliseconds report) ↔
        0 < report.summary.errors) ∧
      errorEntries (below options " errors " (linesOf (human options milliseconds report))) =
        report.errors.map fun (check, file, verdict) =>
          (errorHead options check file verdict.kind, verdict.detail.getD "") := by
  have habove := banner_not_mem_above options report
  have hclosing := banner_not_mem_closingLines options milliseconds report
  rw [linesOf_human options milliseconds hfiles h]
  by_cases hnone : report.summary.errors = 0
  · have herrors : report.errors = [] := List.length_eq_zero_iff.mp (hcount.trans hnone)
    have hnot : banner options.width options.color " errors " ∉
        aboveLines options report ++ ([] ++ closingLines options milliseconds report) :=
      fun hmem => (List.mem_append.mp hmem).elim habove hclosing
    rw [errorList, if_pos hnone, below_of_not_mem hnot, herrors]
    exact ⟨iff_of_false hnot (by omega), rfl⟩
  · have hempty : "" ≠ banner options.width options.color " errors " :=
      empty_ne_banner (by decide : 'e' ∈ " errors ".toList)
    have hbefore : banner options.width options.color " errors " ∉
        aboveLines options report ++ [""] := fun hmem =>
      (List.mem_append.mp hmem).elim habove fun hlast => hempty (List.mem_singleton.mp hlast).symm
    have hlines : aboveLines options report ++
          (errorList options report ++ closingLines options milliseconds report) =
        (aboveLines options report ++ [""]) ++ banner options.width options.color " errors " ::
          (report.errors.flatMap (errorLines options) ++
            closingLines options milliseconds report) := by
      rw [errorList, if_neg hnone]
      simp only [List.append_assoc, List.cons_append, List.nil_append]
    have hrest : errorEntries (closingLines options milliseconds report) = [] := rfl
    rw [hlines, below_append hbefore, errorEntries_flatMap, hrest, List.append_nil]
    refine ⟨iff_of_true ?_ (by omega), rfl⟩
    exact List.mem_append_right _ List.mem_cons_self

end Page

section Exit

variable {options : Presentation} {sections : List Section} {files : Nat}

/-- A total is zero if no verdict has its status. -/
theorem total_eq_zero_iff {status : Status} :
    Section.total status sections = 0 ↔
      ∀ part ∈ sections, ∀ result ∈ part.results, result.2.status ≠ status := by
  rw [← countOf_ofSections sections 0, countOf, List.countP_eq_zero]
  constructor
  · intro hnone part hpart result hresult hstatus
    have hverdict : result.2 ∈ (ofSections sections 0).verdicts :=
      List.mem_flatMap.mpr ⟨part, hpart, List.mem_map_of_mem hresult⟩
    exact hnone result.2 hverdict (decide_eq_true hstatus)
  · intro hnone verdict hverdict
    obtain ⟨part, hpart, hverdict⟩ := List.mem_flatMap.mp hverdict
    obtain ⟨result, hresult, rfl⟩ := List.mem_map.mp hverdict
    simpa using hnone part hpart result hresult

/-- A report calls for success if every verdict is a pass. -/
theorem exitCode_eq_zero_iff :
    (ofSections sections files).exitCode = 0 ↔
      ∀ part ∈ sections, ∀ result ∈ part.results, result.2.status = .pass := by
  have hzero : (ofSections sections files).exitCode = 0 ↔
      Section.total .fail sections = 0 ∧ Section.total .error sections = 0 := by
    rw [exitCode]
    split <;> simp_all [ofSections]
  rw [hzero, total_eq_zero_iff, total_eq_zero_iff]
  constructor
  · rintro ⟨hfail, herror⟩ part hpart result hresult
    cases hstatus : result.2.status with
    | pass => rfl
    | fail => exact absurd hstatus (hfail part hpart result hresult)
    | error => exact absurd hstatus (herror part hpart result hresult)
  · intro hpass
    exact ⟨fun part hpart result hresult => by simp [hpass part hpart result hresult],
      fun part hpart result hresult => by simp [hpass part hpart result hresult]⟩

/-- The lines above the list of errors are about no file if no line of a block is. -/
theorem not_isFileLine_of_mem_aboveLines {report : Report}
    (hblocks : ∀ part ∈ report.sections, ∀ line ∈ blockLines options part, ¬ IsFileLine line)
    {line : String} (h : line ∈ aboveLines options report) : ¬ IsFileLine line := by
  have hempty : ¬ IsFileLine "" := not_isFileLine_of_lacks (.literal (by decide))
  rcases List.mem_append.mp h with h | h
  · exact not_isFileLine_of_lacks
      (lacks_of_mem_openingLines options (by decide) (by decide) (by decide) h)
  rcases List.mem_cons.mp h with rfl | h
  · exact not_isFileLine_of_lacks
      (Lacks.banner (fun _ => by decide) (by decide) (.literal (by decide)) _)
  rcases List.mem_cons.mp h with rfl | h
  · exact hempty
  obtain ⟨part, hpart, h⟩ := List.mem_flatMap.mp h
  rcases List.mem_append.mp h with h | h
  · exact hblocks part hpart line h
  · rwa [List.mem_singleton.mp h]

/-- The brief sections of a success, and no others, have no line about a file. -/
theorem exitCode_eq_zero_iff_blocks (milliseconds : Nat) (hfiles : 0 < files)
    (h : (ofSections sections files).HasOneLineTexts) :
    (ofSections sections files).exitCode = 0 ↔
      ∀ block ∈ sectionBlocks options.brief
          (linesOf (human options.brief milliseconds (ofSections sections files))),
        ∀ line ∈ block, ¬ IsFileLine line := by
  rw [exitCode_eq_zero_iff, sectionBlocks_human options.brief milliseconds hfiles.ne' h]
  constructor
  · intro hpass block hblock
    obtain ⟨part, hpart, rfl⟩ := List.mem_map.mp hblock
    exact (forall_blockLines_brief_iff options part).mpr (hpass part hpart)
  · intro hnone part hpart
    exact (forall_blockLines_brief_iff options part).mp
      (hnone (blockLines options.brief part) (List.mem_map_of_mem hpart))

/-- The brief report of a success, and no other, has no line about a file anywhere. -/
theorem exitCode_eq_zero_iff_lines (milliseconds : Nat) (hfiles : 0 < files)
    (h : (ofSections sections files).HasOneLineTexts) :
    (ofSections sections files).exitCode = 0 ↔
      ∀ line ∈ linesOf (human options.brief milliseconds (ofSections sections files)),
        ¬ IsFileLine line := by
  rw [exitCode_eq_zero_iff, linesOf_human options.brief milliseconds hfiles.ne' h]
  constructor
  · intro hpass line hline
    have hnone : (ofSections sections files).summary.errors = 0 :=
      total_eq_zero_iff.mpr fun part hpart result hresult => by simp [hpass part hpart result hresult]
    rw [errorList, if_pos hnone, List.nil_append] at hline
    rcases List.mem_append.mp hline with hline | hline
    · refine not_isFileLine_of_mem_aboveLines (fun part hpart => ?_) hline
      exact (forall_blockLines_brief_iff options part).mpr (hpass part hpart)
    · exact not_isFileLine_of_lacks
        (lacks_of_mem_closingLines options.brief (by decide) (by decide) (by decide) hline)
  · intro hnone part hpart
    refine (forall_blockLines_brief_iff options part).mp fun line hline => hnone line ?_
    have hsections : line ∈ sections.flatMap fun part => blockLines options.brief part ++ [""] :=
      List.mem_flatMap.mpr ⟨part, hpart, List.mem_append_left _ hline⟩
    exact List.mem_append_left _
      (List.mem_append_right _ (List.mem_cons_of_mem _ (List.mem_cons_of_mem _ hsections)))

end Exit

/-- A total is the sum of what the sections have. -/
theorem total_eq_sum (status : Status) (sections : List Section) :
    Section.total status sections = (sections.map fun part => part.count status).sum := by
  induction sections with
  | nil => rfl
  | cons part sections ih =>
    rw [List.map_cons, List.sum_cons, ← ih]
    rfl

/-- A text report shows every problem once and agrees with its totals, if it is about some files and
names and details take one line each: under each check stand the files that do not pass, or all files
if it is verbose, in their order, and the remedy exactly if one fails; the passes add up; and the
errors are listed exactly if there are any, each once with its kind and detail. The verbose report has
all lines of the brief one in their order. The brief one of a success has no line about a file, in its
sections or elsewhere, and any other has one. -/
theorem human_shows (options : Presentation) (milliseconds : Nat) {files : Nat} (hfiles : 0 < files)
    {sections : List Section} (hresults : ∀ part ∈ sections, Increasing part.results)
    (h : (ofSections sections files).HasOneLineTexts) :
    let report := ofSections sections files
    let brief := linesOf (human options.brief milliseconds report)
    ShowsReport options report (human options milliseconds report) ∧
      brief.Sublist (linesOf (human options.full milliseconds report)) ∧
      (report.exitCode = 0 ↔
        ∀ block ∈ sectionBlocks options.brief brief, ∀ line ∈ block, ¬ IsFileLine line) ∧
      (report.exitCode = 0 ↔ ∀ line ∈ brief, ¬ IsFileLine line) := by
  intro report brief
  have hblocks : sectionBlocks options (linesOf (human options milliseconds report)) =
      sections.map (blockLines options) := sectionBlocks_human options milliseconds hfiles.ne' h
  obtain ⟨hbanner, herrors⟩ := errors_human options milliseconds hfiles.ne' h
    (errors_length_ofSections sections files)
  refine ⟨?_, sublist_linesOf_human options milliseconds report,
    exitCode_eq_zero_iff_blocks milliseconds hfiles h,
    exitCode_eq_zero_iff_lines milliseconds hfiles h⟩
  constructor
  case sections =>
    rw [hblocks, List.forall₂_map_right_iff]
    exact List.forall₂_same.mpr fun part hpart =>
      showsSection_blockLines options (hresults part hpart)
  case passed_sum =>
    have hpassed : passedShown ∘ blockLines options = fun part => part.count .pass :=
      funext (passedShown_blockLines options)
    rw [hblocks, List.map_map, hpassed]
    exact (total_eq_sum .pass sections).symm
  case errors_iff => exact hbanner
  case errors_eq =>
    rw [herrors, errors, List.map_flatMap]
    simp only [List.map_map]
    rfl

/-- An error whose detail looks like a line about a file, and one that says nothing, on lines that are
shorter than the titles. -/
theorem human_shows_misleading :
    let sections : List Section :=
      [⟨.hasMarkdown, [("/w/a", .fail "no markdown cell found"), ("/w/b", .pass)]⟩,
        ⟨.execute true, [("/w/a", .error .kernel "  * a: Pass"), ("/w/b", ⟨.error, none, none⟩)]⟩]
    let options : Presentation := ⟨false, false, some "/w", 0⟩
    0 < 2 ∧ (∀ part ∈ sections, Increasing part.results) ∧ (ofSections sections 2).HasOneLineTexts ∧
      errorEntries (below options " errors " (linesOf (human options 5 (ofSections sections 2)))) =
        [("[execute]: a: (kernel)", "  * a: Pass"), ("[execute]: b:", "")] := by
  intro sections options
  have hfiles : 0 < 2 := by decide
  have hresults : ∀ part ∈ sections, Increasing part.results := by
    unfold Increasing
    decide +kernel
  have hlines : (ofSections sections 2).HasOneLineTexts := by decide +kernel
  obtain ⟨hshows, -, -, -⟩ := human_shows options 5 hfiles hresults hlines
  refine ⟨hfiles, hresults, hlines, hshows.errors_eq.trans ?_⟩
  decide +kernel

end NotebookLint.Report
