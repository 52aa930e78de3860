import NotebookLint.Report.Human

/-!
# Banners fill their line

A banner is as long as its line, and a title that is longer stands alone. The signs around a title
are split as evenly as their number allows, and an odd one stands on the left. The last line of a
plain report is a banner, too: its title is made of the totals that are not zero, and of the time.

Lengths are counted in characters, whatever these are. The width may be any number, also one that is
smaller than the title, where no sign is left.
-/

namespace NotebookLint.Report

/-- Whether a line is a title in the middle of equals signs. -/
structure Centers (width : Nat) (title line : String) : Prop where
  /-- The line is as long as it should be, or as its title. -/
  length_eq : line.length = max width title.length
  /-- The signs on the left are as many as those on the right, or one more. -/
  shape : ∃ left right, line = repeated left '=' ++ title ++ repeated right '=' ∧
    right ≤ left ∧ left ≤ right + 1
  /-- There is no sign beside a title that takes up the line. -/
  alone : width ≤ title.length → line = title

section Padding

variable (width : Nat) (title : String)

/-- There is a sign for every character that is missing. -/
theorem length_leftSigns_add_length_rightSigns :
    (leftSigns width title).length + (rightSigns width title).length = padding width title := by
  rw [leftSigns, rightSigns, length_repeated, length_repeated]
  omega

variable {width title}

/-- Nothing is missing beside a title that takes up the line. -/
theorem signs_of_le (h : width ≤ title.length) :
    leftSigns width title = "" ∧ rightSigns width title = "" := by
  have hnone : padding width title = 0 := Nat.sub_eq_zero_of_le h
  rw [leftSigns, rightSigns, hnone]
  exact ⟨rfl, rfl⟩

end Padding

/-- A plain banner is its title between the signs. -/
theorem banner_plain (width : Nat) (title : String) :
    banner width false title = leftSigns width title ++ title ++ rightSigns width title := rfl

/-- A plain banner has its title in the middle. -/
theorem centers_banner (width : Nat) (title : String) :
    Centers width title (banner width false title) := by
  rw [banner_plain]
  constructor
  case length_eq =>
    have hsigns := length_leftSigns_add_length_rightSigns width title
    rw [padding] at hsigns
    rw [String.length_append, String.length_append]
    omega
  case shape =>
    refine ⟨(padding width title + 1) / 2, padding width title / 2, rfl, ?_, ?_⟩ <;> omega
  case alone =>
    intro hle
    obtain ⟨hleft, hright⟩ := signs_of_le hle
    rw [hleft, hright, String.empty_append, String.append_empty]

/-- The totals of verdicts that are not zero, with what they count. -/
def counted (summary : Summary) : List (Nat × String) :=
  [(summary.passed, "passed"), (summary.failed, "failed"), (summary.errors, "error")].filter
    fun total => total.1 ≠ 0

/-- The title of the last line: the totals that are not zero, and then the time. -/
def closingTitle (summary : Summary) (milliseconds : Nat) : String :=
  " " ++ String.join ((counted summary).map fun (count, what) =>
      toString count ++ " " ++ what ++ ", ") ++
    ("in " ++ secondsText milliseconds ++ "s") ++ " "

/-- The parts of the last line are the totals that are not zero and the time. -/
theorem map_fst_footerParts (summary : Summary) (milliseconds : Nat) :
    (footerParts summary milliseconds).map Prod.fst =
      ((counted summary).map fun (count, what) => toString count ++ " " ++ what ++ ", ") ++
        ["in " ++ secondsText milliseconds ++ "s"] := by
  rw [footerParts, counted]
  by_cases hpassed : summary.passed = 0 <;> by_cases hfailed : summary.failed = 0 <;>
    by_cases herrors : summary.errors = 0 <;> simp [hpassed, hfailed, herrors]

/-- The last line of a plain report is a banner. -/
theorem footer_plain (options : Presentation) (summary : Summary) (milliseconds : Nat) :
    footer { options with color := false } summary milliseconds =
      banner options.width false (closingTitle summary milliseconds) := by
  have htitle : " " ++ String.join ((footerParts summary milliseconds).map Prod.fst) ++ " " =
      closingTitle summary milliseconds := by
    rw [map_fst_footerParts, String.join_append, String.join_cons, String.join_nil,
      String.append_empty, closingTitle]
    simp only [String.append_assoc]
  rw [← htitle]
  rfl

/-- Every plain banner has its title in the middle, for every width and title, and so has the last
line of every plain report, whatever its totals are: the title there is the totals that are not zero
followed by the time. -/
theorem titles_centered :
    (∀ (width : Nat) (title : String), Centers width title (banner width false title)) ∧
      ∀ (options : Presentation) (report : Report) (milliseconds : Nat),
        Centers options.width (closingTitle report.summary milliseconds)
          (footer { options with color := false } report.summary milliseconds) := by
  refine ⟨centers_banner, fun options report milliseconds => ?_⟩
  rw [footer_plain]
  exact centers_banner options.width (closingTitle report.summary milliseconds)

/-- An odd sign stands on the left. -/
example : banner 10 false " odd " = "=== odd ==" := by decide

end NotebookLint.Report
