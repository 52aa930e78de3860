import NotebookLint.Proofs.Report.Color
import NotebookLint.Proofs.Report.Results

/-!
# What a section of a text report shows

The lines of a section are read without knowing what they were made of. The first one names the check
and ends in brackets with the number of passes; a line that begins with a blank twice and a star is
about a file. The remedy and the explanations begin differently, whatever they say, so that the lines
about files are exactly those of the files that are listed.
-/

namespace NotebookLint.Report

/-- Whether a line is about a file. -/
def IsFileLine (line : String) : Prop :=
  "  * ".toList <+: line.toList
  deriving Decidable

/-- What the first of some lines says, without its colours. -/
def heading (block : List String) : List Char :=
  withoutColors (block.headD "").toList

/-- Whether a block of lines begins with a check. -/
def OpensSection (block : List String) : Prop :=
  "[CHECKS: ".toList <+: heading block
  deriving Decidable

/-- The number of passes that the first line of a block gives: it begins the last bracket. -/
def passedShown (block : List String) : Nat :=
  Nat.ofDigitChars 10 ((((heading block).splitOn '[').getLastD []).takeWhile Char.isDigit) 0

/-- Whether a block of lines shows a section. -/
structure ShowsSection (options : Presentation) (part : Section) (block : List String) : Prop where
  /-- The block begins with the check. -/
  check : ("[CHECKS: " ++ part.check.name ++ "]:").toList <+: heading block
  /-- The lines about files are in their order those about the files that do not pass, or about all
  files in a verbose report. -/
  files : ∃ listed : List (String × Verdict),
    block.filter (fun line => IsFileLine line) = listed.map (fun result =>
      "  * " ++ Path.display options.base result.1 ++ ": " ++
        paint options.color (statusLook result.2.status) result.2.status.title) ∧
    Increasing listed ∧
    ∀ result, result ∈ listed ↔
      result ∈ part.results ∧ (options.verbose ∨ result.2.status ≠ .pass)
  /-- The passes are counted. -/
  passed : passedShown block = part.count .pass
  /-- The remedy stands there if a file fails the check, and only then. -/
  remedy : linesOf part.check.failureHint <:+: block ↔
    ∃ result ∈ part.results, result.2.status = .fail

section Head

variable (options : Presentation) (part : Section)

/-- Without colours, the line that opens a section is what it is in a plain report. -/
theorem withoutColors_sectionHead :
    withoutColors (sectionHead options part).toList =
      (sectionHead options.uncolored part).toList := by
  have hcolors : Colors (sectionHead options part) (sectionHead options.uncolored part) := by
    obtain ⟨verbose, color, base, width⟩ := options
    cases color with
    | false =>
      have hplain (hcolor : false) : ¬ isColoring '\x1b' := absurd hcolor Bool.false_ne_true
      exact colors_of_isPlain (lacks_sectionHead (by decide) hplain part)
    | true => exact colors_sectionHead ⟨verbose, true, base, width⟩ part
  have hall := hcolors []
  rwa [List.append_nil, withoutColors, List.append_nil] at hall

/-- The line that opens a section gives the check, the number of passes, and that of all files. -/
theorem sectionHead_uncolored :
    sectionHead options.uncolored part =
      ("[CHECKS: " ++ part.check.name ++ "]:") ++ ("  " ++ part.check.description ++ ": ") ++
        ("[" ++ (toString (part.count .pass) ++ ("/" ++ toString part.results.length ++ "]"))) := by
  have hname : "]:  " = "]:" ++ "  " := rfl
  have hdescription : ": " = ":" ++ " " := rfl
  have hbracket : " [" = " " ++ "[" := rfl
  have hpassed : part.passed = part.count .pass := rfl
  rw [sectionHead, hname, hdescription, hbracket, hpassed]
  simp only [paint, Presentation.uncolored, Bool.false_eq_true, if_false, String.append_assoc]

/-- The first line of a block gives the check, the number of passes, and that of all files. -/
theorem heading_blockLines :
    heading (blockLines options part) =
      ("[CHECKS: " ++ part.check.name ++ "]:").toList ++
        ("  " ++ part.check.description ++ ": ").toList ++
        '[' :: ((toString (part.count .pass)).toList ++
          '/' :: ((toString part.results.length).toList ++ [']'])) := by
  have hhead : heading (blockLines options part) = withoutColors (sectionHead options part).toList :=
    rfl
  rw [hhead, withoutColors_sectionHead, sectionHead_uncolored]
  simp only [String.toList_append, List.append_assoc]
  rfl

/-- A block begins with its check. -/
theorem check_prefix_heading :
    ("[CHECKS: " ++ part.check.name ++ "]:").toList <+: heading (blockLines options part) := by
  rw [heading_blockLines, List.append_assoc]
  exact List.prefix_append _ _

/-- So it opens a section. -/
theorem opensSection_blockLines : OpensSection (blockLines options part) := by
  refine List.IsPrefix.trans ?_ (check_prefix_heading options part)
  rw [String.append_assoc, String.toList_append]
  exact List.prefix_append _ _

/-- The number that the first line of a block gives is that of the passes. -/
theorem passedShown_blockLines : passedShown (blockLines options part) = part.count .pass := by
  have hlast : '[' ∉ (toString (part.count .pass)).toList ++
      '/' :: ((toString part.results.length).toList ++ [']']) := by
    simp only [List.mem_append, List.mem_cons, List.not_mem_nil, or_false, not_or]
    exact ⟨lacks_toString (by decide) _, by decide, lacks_toString (by decide) _, by decide⟩
  have hdigits : ∀ c ∈ (toString (part.count .pass)).toList, c.isDigit :=
    fun c hc => isDigit_of_mem_toString hc
  have hnumber : (toString (part.count .pass)).toList = Nat.toDigits 10 (part.count .pass) :=
    Nat.toList_repr
  rw [passedShown, heading_blockLines, List.splitOn_append_cons_self, List.splitOn_eq_singleton hlast,
    List.getLastD_concat, List.takeWhile_append_of_pos hdigits,
    List.takeWhile_cons_of_neg (by decide), List.append_nil, hnumber, Nat.ofDigitChars_ten_toDigits]

/-- The line that opens a section has letters of its own. -/
theorem mem_sectionHead : 'C' ∈ (sectionHead options part).toList := by
  rw [sectionHead]
  simp only [String.toList_append, List.mem_append]
  refine .inl (.inl (.inl (.inl (.inl (mem_paint options.color [bold] ?_)))))
  simp only [String.toList_append, List.mem_append]
  exact .inl (.inl (.inl (.inl (by decide))))

/-- It begins with a bracket, or with a control sequence. -/
theorem head?_sectionHead :
    (sectionHead options part).toList.head? = some (if options.color then '\x1b' else '[') := by
  obtain ⟨verbose, color, base, width⟩ := options
  cases color <;> simp [sectionHead, paint, controlSequence]

end Head

/-- Whether a line may stand in a remedy: it begins unlike the other lines of a section, and has a
letter that the banner of the errors has not. -/
def IsAdvice (line : List Char) : Prop :=
  'n' ∈ line ∧ line.head? ∉ [some ' ', some '[', some '\x1b']
  deriving Decidable

section Block

variable {options : Presentation} {part : Section} {line : String}

/-- A line about a file begins with a blank. -/
theorem IsFileLine.head? (h : IsFileLine line) : line.toList.head? = some ' ' := by
  obtain ⟨rest, hrest⟩ := h
  rw [← hrest]
  rfl

/-- What a line begins with is kept when more follows. -/
theorem head?_append {first : Char} {text other : String} (h : text.toList.head? = some first) :
    (text ++ other).toList.head? = some first := by
  rw [String.toList_append, List.head?_append, h]
  rfl

/-- The line that opens a section is about no file. -/
theorem not_isFileLine_sectionHead (options : Presentation) (part : Section) :
    ¬ IsFileLine (sectionHead options part) := by
  intro h
  have hfirst := (head?_sectionHead options part).symm.trans h.head?
  cases hcolor : options.color <;> simp [hcolor] at hfirst

/-- A line without a star is about no file. -/
theorem not_isFileLine_of_lacks {line : String} (h : Lacks '*' line) : ¬ IsFileLine line :=
  fun hfile => h (hfile.subset (by decide))

/-- What is said about a file begins with a blank. -/
theorem head?_of_mem_fileLines {result : String × Verdict} (h : line ∈ fileLines options result) :
    line.toList.head? = some ' ' := by
  rcases eq_of_mem_fileLines h with rfl | ⟨detail, -, rfl⟩
  · have hstart : "  * ".toList.head? = some ' ' := by decide
    rw [fileLine]
    exact head?_append (head?_append (head?_append hstart))
  · have hstart : "    * ".toList.head? = some ' ' := by decide
    exact head?_append hstart

/-- What is said about a file has a star. -/
theorem mem_of_mem_fileLines {result : String × Verdict} (h : line ∈ fileLines options result) :
    '*' ∈ line.toList := by
  rcases eq_of_mem_fileLines h with rfl | ⟨detail, -, rfl⟩
  · rw [fileLine]
    simp only [String.toList_append, List.mem_append]
    exact .inl (.inl (.inl (by decide)))
  · rw [String.toList_append]
    exact List.mem_append_left _ (by decide)

/-- The lines of a literal are those of its characters. -/
theorem isAdvice_of_literal {chars : List Char} (h : ∀ line ∈ chars.splitOn '\n', IsAdvice line) :
    ∀ line ∈ linesOf (String.ofList chars), IsAdvice line.toList := by
  intro line hline
  rw [linesOf, String.toList_ofList] at hline
  obtain ⟨chars, hchars, rfl⟩ := List.mem_map.mp hline
  rw [String.toList_ofList]
  exact h chars hchars

/-- A remedy is advice. -/
theorem isAdvice_of_mem_linesOf {check : Check} (h : line ∈ linesOf check.failureHint) :
    IsAdvice line.toList := by
  -- The texts are evaluated as lists of characters, which is much faster than as strings.
  have htwo {first second : List Char}
      (hlines : ∀ line ∈ (first ++ second).splitOn '\n', IsAdvice line) :
      ∀ line ∈ linesOf (String.ofList first ++ String.ofList second), IsAdvice line.toList := by
    rw [← String.ofList_append]
    exact isAdvice_of_literal hlines
  have hall : ∀ line ∈ linesOf check.failureHint, IsAdvice line.toList := by
    cases check with
    | lineInCell max => exact isAdvice_of_literal (by decide +kernel)
    | _ => exact htwo (by decide +kernel)
  exact hall line h

/-- A line of a block opens it, belongs to the remedy, or is said about a file. -/
theorem cases_of_mem_blockLines (h : line ∈ blockLines options part) :
    line = sectionHead options part ∨ line ∈ linesOf part.check.failureHint ∨
      ∃ result ∈ part.results, line ∈ fileLines options result := by
  rcases List.mem_cons.mp h with hhead | h
  · exact .inl hhead
  · refine .inr ((List.mem_append.mp h).imp (fun hhint => ?_) fun hfiles => ?_)
    · split at hhint
      · exact hhint
      · cases hhint
    · exact List.mem_flatMap.mp hfiles

/-- A block has no empty line. -/
theorem empty_not_mem_blockLines (options : Presentation) (part : Section) :
    "" ∉ blockLines options part := by
  intro h
  rcases cases_of_mem_blockLines h with hhead | hhint | ⟨result, -, hfile⟩
  · have hmem := mem_sectionHead options part
    rw [← hhead] at hmem
    cases hmem
  · cases (isAdvice_of_mem_linesOf hhint).1
  · cases mem_of_mem_fileLines hfile

/-- The line about a file is read as one. -/
theorem isFileLine_fileLine (options : Presentation) (file : String) (verdict : Verdict) :
    IsFileLine (fileLine options file verdict) := by
  rw [fileLine, IsFileLine, String.append_assoc, String.append_assoc, String.toList_append]
  exact List.prefix_append _ _

/-- An explanation is not. -/
theorem not_isFileLine_detail (detail : String) : ¬ IsFileLine ("    * " ++ detail) := by
  rw [IsFileLine, String.toList_append]
  intro h
  simp at h

/-- Of the lines about a file that is listed, the first is the line about it. -/
theorem filter_fileLines (result : String × Verdict) :
    (fileLines options result).filter (fun line => IsFileLine line) =
      if options.verbose ∨ result.2.status ≠ .pass then
        [fileLine options result.1 result.2]
      else [] := by
  have hdetails : (detailLines options result.2).filter (fun line => IsFileLine line) = [] := by
    rw [List.filter_eq_nil_iff]
    intro line hline
    obtain ⟨detail, -, rfl⟩ := eq_of_mem_detailLines hline
    simpa using not_isFileLine_detail detail
  have hlisted : (result.2.isPass && !options.verbose) = true ↔
      ¬ (options.verbose ∨ result.2.status ≠ .pass) := by
    cases options.verbose <;> simp [Verdict.isPass]
  rw [fileLines_eq]
  by_cases h : options.verbose ∨ result.2.status ≠ .pass
  · have hfile := isFileLine_fileLine options result.1 result.2
    rw [if_neg fun hpass => hlisted.mp hpass h, if_pos h,
      List.filter_cons_of_pos (by simpa using hfile), hdetails]
  · rw [if_pos (hlisted.mpr h), if_neg h, List.filter_nil]

/-- The lines of a block about files are those about the files that are listed. -/
theorem filter_blockLines (options : Presentation) (part : Section) :
    (blockLines options part).filter (fun line => IsFileLine line) =
      (part.results.filter fun result => options.verbose ∨ result.2.status ≠ .pass).map
        fun result => fileLine options result.1 result.2 := by
  have hhint : (if 0 < part.count .fail then linesOf part.check.failureHint else []).filter
      (fun line => IsFileLine line) = [] := by
    rw [List.filter_eq_nil_iff]
    intro line hline hfile
    split at hline
    · have hfirst := (of_decide_eq_true hfile : IsFileLine line).head?
      exact (isAdvice_of_mem_linesOf hline).2 (by simp [hfirst])
    · cases hline
  have hfiles (results : List (String × Verdict)) :
      (results.flatMap (fileLines options)).filter (fun line => IsFileLine line) =
        (results.filter fun result => options.verbose ∨ result.2.status ≠ .pass).map
          fun result => fileLine options result.1 result.2 := by
    induction results with
    | nil => rfl
    | cons result results ih =>
      rw [List.flatMap_cons, List.filter_append, ih, filter_fileLines, List.filter_cons]
      by_cases h : options.verbose ∨ result.2.status ≠ .pass
      · rw [if_pos h, if_pos (decide_eq_true h), List.map_cons, List.singleton_append]
      · rw [if_neg h, if_neg (by simpa using h), List.nil_append]
  rw [blockLines, List.filter_cons_of_neg (by simpa using not_isFileLine_sectionHead options part),
    List.filter_append, hhint, hfiles, List.nil_append]

/-- A verdict of a status is counted. -/
theorem count_pos_iff {status : Status} :
    0 < part.count status ↔ ∃ result ∈ part.results, result.2.status = status := by
  rw [Section.count, List.countP_pos_iff]
  simp only [decide_eq_true_eq]

/-- The remedy stands in a block if a file fails, and only then. -/
theorem failureHint_infix_blockLines :
    linesOf part.check.failureHint <:+: blockLines options part ↔
      ∃ result ∈ part.results, result.2.status = .fail := by
  rw [← count_pos_iff]
  constructor
  · intro hinfix
    by_contra hnone
    obtain ⟨line, hline⟩ : ∃ line, line ∈ linesOf part.check.failureHint := by
      refine List.exists_mem_of_ne_nil _ ?_
      rw [linesOf]
      simp [List.splitOn_ne_nil]
    have hfirst := (isAdvice_of_mem_linesOf hline).2
    -- Without the remedy there is nothing in the block that begins like it.
    have hblock := hinfix.subset hline
    rw [blockLines, if_neg hnone, List.nil_append] at hblock
    rcases List.mem_cons.mp hblock with hhead | hfiles
    · rw [hhead, head?_sectionHead] at hfirst
      cases hcolor : options.color <;> simp [hcolor] at hfirst
    · obtain ⟨result, -, hfile⟩ := List.mem_flatMap.mp hfiles
      rw [head?_of_mem_fileLines hfile] at hfirst
      exact hfirst List.mem_cons_self
  · intro hfail
    rw [blockLines, if_pos hfail]
    exact ⟨[sectionHead options part], part.results.flatMap (fileLines options), rfl⟩

/-- A block shows its section. -/
theorem showsSection_blockLines (options : Presentation) (h : Increasing part.results) :
    ShowsSection options part (blockLines options part) where
  check := check_prefix_heading options part
  files := by
    refine ⟨_, filter_blockLines options part, h.filter _, fun result => ?_⟩
    rw [List.mem_filter, decide_eq_true_eq]
  passed := passedShown_blockLines options part
  remedy := failureHint_infix_blockLines

/-- A brief block has no line about a file if all files pass. -/
theorem forall_blockLines_brief_iff (options : Presentation) (part : Section) :
    (∀ line ∈ blockLines options.brief part, ¬ IsFileLine line) ↔
      ∀ result ∈ part.results, result.2.status = .pass := by
  have hfilter := filter_blockLines options.brief part
  have hlines : (∀ line ∈ blockLines options.brief part, ¬ IsFileLine line) ↔
      (blockLines options.brief part).filter (fun line => IsFileLine line) = [] := by
    rw [List.filter_eq_nil_iff]
    simp only [decide_eq_true_eq]
  rw [hlines, hfilter, List.map_eq_nil_iff, List.filter_eq_nil_iff]
  simp [Presentation.brief]

end Block

end NotebookLint.Report
