import Mathlib.Data.List.Nodup
import NotebookLint.Report

/-!
# Results by file

Verdicts put in one after another stand in increasing order of their files, and are the ones put in
as long as no file comes twice. Since an increasing list is determined by what it holds, neither the
order of insertion nor what is put in for other files matters.
-/

namespace NotebookLint

/-- Whether results stand in increasing order of their files. -/
def Increasing (results : List (String × Verdict)) : Prop :=
  results.Pairwise fun first second => first.1 < second.1

/-- Increasing results are determined by what they hold. -/
theorem Increasing.eq_of_perm {first second : List (String × Verdict)} (hfirst : Increasing first)
    (hsecond : Increasing second) (hperm : first.Perm second) : first = second :=
  hperm.eq_of_pairwise (fun _ _ _ _ hlt hgt => absurd hgt (String.lt_asymm hlt)) hfirst hsecond

/-- Nothing but the new result is put in. -/
theorem mem_putResult {file : String} {verdict : Verdict} {results : List (String × Verdict)}
    {result : String × Verdict} (h : result ∈ putResult file verdict results) :
    result = (file, verdict) ∨ result ∈ results := by
  induction results with
  | nil => exact .inl (List.mem_singleton.mp h)
  | cons other rest ih =>
    rw [putResult] at h
    split at h
    · exact (List.mem_cons.mp h).imp_right (List.mem_cons_of_mem _)
    · split at h
      · exact List.mem_cons.mp h
      · rcases List.mem_cons.mp h with rfl | h
        · exact .inr List.mem_cons_self
        · exact (ih h).imp_right (List.mem_cons_of_mem _)

/-- A result is put in its place. -/
theorem Increasing.putResult {file : String} {verdict : Verdict} {results : List (String × Verdict)}
    (h : Increasing results) : Increasing (putResult file verdict results) := by
  induction results with
  | nil => exact List.pairwise_singleton _ _
  | cons other rest ih =>
    obtain ⟨hother, hrest⟩ := List.pairwise_cons.mp h
    rw [NotebookLint.putResult]
    split
    · rename_i hfile
      exact List.pairwise_cons.mpr ⟨fun result hresult => hfile ▸ hother result hresult, hrest⟩
    · rename_i hfile
      split
      · rename_i hlt
        refine List.pairwise_cons.mpr ⟨fun result hresult => ?_, h⟩
        rcases List.mem_cons.mp hresult with rfl | hresult
        · exact hlt
        · exact String.lt_trans hlt (hother result hresult)
      · rename_i hle
        refine List.pairwise_cons.mpr ⟨fun result hresult => ?_, ih hrest⟩
        rcases mem_putResult hresult with rfl | hresult
        · exact Decidable.byContradiction fun hge =>
            hfile (String.le_antisymm (String.not_lt.mp hge) (String.not_lt.mp hle))
        · exact hother result hresult

/-- A result for a new file is added to the others. -/
theorem perm_putResult {file : String} {verdict : Verdict} {results : List (String × Verdict)}
    (hnew : file ∉ results.map Prod.fst) :
    (putResult file verdict results).Perm ((file, verdict) :: results) := by
  induction results with
  | nil => exact List.Perm.refl _
  | cons other rest ih =>
    rw [List.map_cons, List.mem_cons, not_or] at hnew
    rw [putResult, if_neg hnew.1]
    split
    · exact List.Perm.refl _
    · exact ((ih hnew.2).cons other).trans (List.Perm.swap _ _ _)

/-- Results that are put into increasing ones stay increasing. -/
theorem Increasing.foldl_putResult (results : List (String × Verdict))
    {sorted : List (String × Verdict)} (h : Increasing sorted) :
    Increasing (results.foldl (fun sorted result => NotebookLint.putResult result.1 result.2 sorted)
      sorted) := by
  induction results generalizing sorted with
  | nil => exact h
  | cons result rest ih => exact ih h.putResult

/-- Results for new files are added to those into which they are put. -/
theorem perm_foldl_putResult {results sorted : List (String × Verdict)}
    (hdistinct : ((results ++ sorted).map Prod.fst).Nodup) :
    (results.foldl (fun sorted result => putResult result.1 result.2 sorted) sorted).Perm
      (results ++ sorted) := by
  induction results generalizing sorted with
  | nil => exact List.Perm.refl _
  | cons result rest ih =>
    have hnew : result.1 ∉ sorted.map Prod.fst := by
      rw [List.cons_append, List.map_cons, List.nodup_cons, List.map_append, List.mem_append,
        not_or] at hdistinct
      exact hdistinct.1.2
    have hput : (putResult result.1 result.2 sorted).Perm (result :: sorted) := perm_putResult hnew
    have hall : (rest ++ putResult result.1 result.2 sorted).Perm (result :: rest ++ sorted) :=
      (hput.append_left rest).trans List.perm_middle
    exact (ih ((hall.map Prod.fst).nodup_iff.mpr hdistinct)).trans hall

/-- The results of a section are increasing. -/
theorem increasing_ofResults (check : Check) (results : List (String × Verdict)) :
    Increasing (Section.ofResults check results).results :=
  Increasing.foldl_putResult results List.Pairwise.nil

/-- The results of a section are the ones it is made of, if no file comes twice. -/
theorem perm_ofResults (check : Check) {results : List (String × Verdict)}
    (hdistinct : (results.map Prod.fst).Nodup) :
    (Section.ofResults check results).results.Perm results := by
  rw [← List.append_nil results] at hdistinct
  have hperm := perm_foldl_putResult hdistinct
  rwa [List.append_nil] at hperm

/-- The results of a section are the increasing ones among the orders of what it is made of. -/
theorem ofResults_eq_of_perm (check : Check) {results sorted : List (String × Verdict)}
    (hdistinct : (results.map Prod.fst).Nodup) (hsorted : Increasing sorted)
    (hperm : sorted.Perm results) : Section.ofResults check results = ⟨check, sorted⟩ := by
  have hresults := (increasing_ofResults check results).eq_of_perm hsorted
    ((perm_ofResults check hdistinct).trans hperm.symm)
  rw [← hresults]
  rfl

/-- The order in which results are put in does not matter. -/
theorem ofResults_perm (check : Check) {results others : List (String × Verdict)}
    (hdistinct : (results.map Prod.fst).Nodup) (hperm : others.Perm results) :
    Section.ofResults check others = Section.ofResults check results := by
  have hothers : (others.map Prod.fst).Nodup := (hperm.map Prod.fst).nodup_iff.mpr hdistinct
  exact ofResults_eq_of_perm check hothers (increasing_ofResults check results)
    ((perm_ofResults check hdistinct).trans hperm.symm)

/-- Leaving out results of a section is leaving them out of what it is made of. -/
theorem ofResults_filter (check : Check) {results : List (String × Verdict)}
    (hdistinct : (results.map Prod.fst).Nodup) (kept : String × Verdict → Bool) :
    Section.ofResults check (results.filter kept) =
      ⟨check, (Section.ofResults check results).results.filter kept⟩ := by
  have hfilter : ((results.filter kept).map Prod.fst).Nodup :=
    (List.filter_sublist.map Prod.fst).nodup hdistinct
  exact ofResults_eq_of_perm check hfilter ((increasing_ofResults check results).filter kept)
    ((perm_ofResults check hdistinct).filter kept)

end NotebookLint
