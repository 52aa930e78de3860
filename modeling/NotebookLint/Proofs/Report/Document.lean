import NotebookLint.Proofs.Entries
import NotebookLint.Proofs.Path.Display
import NotebookLint.Proofs.Report.Isolation
import NotebookLint.Report.Document

/-!
# What a data report holds

A data report names files as they are shown and checks by their kind, and a name that comes twice
replaces what stood there. No verdict is lost to this: files that can be told apart are shown apart
from an absolute base, and a run has one section for each kind of check. So there is one entry for
each check and file, which says what the verdict says, and the entries are as many as the totals
count.

The limits that a check is bound to are not part of its name. Two sections that differ in nothing
but a limit would share a place.
-/

namespace NotebookLint

open NotebookLint.Json (Data)
open NotebookLint.Path

namespace Json.Data

/-- The members of an object; other data have none. -/
def members : Data → Entries Data
  | .object members => members
  | _ => []

/-- What stands under a name. -/
def member? (name : String) (data : Data) : Option Data :=
  Entries.get? name data.members

/-- A text that is data. -/
def text? : Data → Option String
  | .text value => some value
  | _ => none

end Json.Data

/-- A kind of check has its own name. -/
theorem CheckKind.name_injective : Function.Injective CheckKind.name := by
  intro kind other h
  cases kind <;> cases other <;> simp_all [CheckKind.name]

/-- A status has its own name. -/
theorem Status.name_injective : Function.Injective Status.name := by
  intro status other h
  cases status <;> cases other <;> simp_all [Status.name]

/-- A kind of error has its own name. -/
theorem ErrorKind.name_injective : Function.Injective ErrorKind.name := by
  intro kind other h
  cases kind <;> cases other <;> simp_all [ErrorKind.name]

namespace Report

/-- An entry of a data report. -/
structure Shown where
  /-- The name of a check. -/
  check : String
  /-- A file as it is shown. -/
  file : String
  /-- What is said about the file. -/
  verdict : Data

/-- The entries that stand under the results of a data report, check by check. -/
def shown (document : Data) : List Shown :=
  (((document.member? "results").map Data.members).getD []).flatMap fun (check, files) =>
    files.members.map fun (file, verdict) => ⟨check, file, verdict⟩

/-- The number of entries with a status. -/
def shownCount (document : Data) (status : Status) : Nat :=
  (shown document).countP fun entry =>
    (entry.verdict.member? "status").bind Data.text? = some status.name

/-- Whether data say what a verdict says: its status, and its detail and its kind if it has them. -/
structure Says (data : Data) (verdict : Verdict) : Prop where
  /-- The status is given by its name. -/
  status : data.member? "status" = some (.text verdict.status.name)
  /-- The detail is given as it is. -/
  detail : data.member? "detail" = verdict.detail.map Data.text
  /-- The kind is given by its name. -/
  kind : data.member? "kind" = verdict.kind.map fun kind => Data.text kind.name

/-- The files of a report, section by section. -/
def files (report : Report) : List String :=
  report.sections.flatMap fun part => part.results.map Prod.fst

/-- Whether the files of a report are absolute paths that can be told apart, each once in a section,
and every kind of check has one section. -/
structure Distinct (report : Report) : Prop where
  /-- The files are absolute paths. -/
  absolute : ∀ file ∈ report.files, isAbsolute file
  /-- Different files have different components. -/
  apart : ∀ file ∈ report.files, ∀ other ∈ report.files, Same file other → file = other
  /-- A section has a file once. -/
  once : ∀ part ∈ report.sections, (part.results.map Prod.fst).Nodup
  /-- A kind of check has one section. -/
  kinds : (report.sections.map fun part => part.check.kind).Nodup

/-- Whether a data report loses nothing of a report and agrees with its totals. -/
structure Lossless (base : String) (report : Report) (document : Data) : Prop where
  /-- The base followed by what is shown of a file leads to the file. -/
  leads_back : ∀ file ∈ report.files, Same (join base (display (some base) file)) file
  /-- Different files are shown apart. -/
  display_injOn : ∀ file ∈ report.files, ∀ other ∈ report.files,
    display (some base) file = display (some base) other → file = other
  /-- There is exactly one entry for a check and a file, and it says exactly their verdict. -/
  one_entry : ∀ part ∈ report.sections, ∀ result ∈ part.results, ∃ data,
    (shown document).filter (fun entry =>
        entry.check = part.check.name ∧ entry.file = display (some base) result.1) =
      [⟨part.check.name, display (some base) result.1, data⟩] ∧
    ∀ verdict, Says data verdict ↔ verdict = result.2
  /-- There are no other entries. -/
  no_other : ∀ entry ∈ shown document, ∃ part ∈ report.sections, ∃ result ∈ part.results,
    entry.check = part.check.name ∧ entry.file = display (some base) result.1
  /-- The passes are as many as are counted. -/
  passed_eq : shownCount document .pass = report.summary.passed
  /-- The fails are as many as are counted. -/
  failed_eq : shownCount document .fail = report.summary.failed
  /-- The errors are as many as are counted. -/
  errors_eq : shownCount document .error = report.summary.errors
  /-- The totals are told along with the entries. -/
  summary_eq : document.member? "summary" = some (summaryData report.summary)
  /-- If every section has all files, there is an entry for each check and each file. -/
  total_eq : (∀ part ∈ report.sections, part.results.length = report.summary.files) →
    shownCount document .pass + shownCount document .fail + shownCount document .error =
      report.summary.files * report.summary.checks

/-- Among elements with keys of their own, one is found by its key, and it alone. -/
theorem filter_key_eq {α κ : Type} [DecidableEq κ] {key : α → κ} {elements : List α}
    (h : (elements.map key).Nodup) {element : α} (hmem : element ∈ elements) :
    elements.filter (fun other => key other = key element) = [element] := by
  induction elements with
  | nil => cases hmem
  | cons first rest ih =>
    obtain ⟨hfirst, hrest⟩ := List.nodup_cons.mp h
    rcases List.mem_cons.mp hmem with rfl | hmem
    · have hnone : rest.filter (fun other => key other = key element) = [] := by
        rw [List.filter_eq_nil_iff]
        intro other hother hkey
        exact hfirst (of_decide_eq_true hkey ▸ List.mem_map_of_mem hother)
      rw [List.filter_cons_of_pos (by simp), hnone]
    · have hne : key first ≠ key element := fun hkey =>
        hfirst (hkey ▸ List.mem_map_of_mem hmem)
      rw [List.filter_cons_of_neg (by simpa using hne), ih hrest hmem]

section Verdict

variable {verdict : Verdict}

/-- The data of a verdict say what it says. -/
theorem says_verdictData (verdict : Verdict) : Says (verdictData verdict) verdict := by
  obtain ⟨status, detail, kind⟩ := verdict
  cases detail <;> cases kind <;> exact ⟨rfl, rfl, rfl⟩

/-- No two verdicts are said alike. -/
theorem Says.unique {data : Data} {other : Verdict} (h : Says data verdict)
    (hother : Says data other) : verdict = other := by
  have htext : Function.Injective Data.text := fun _ _ heq => Data.text.inj heq
  have hstatus := h.status.symm.trans hother.status
  have hdetail := h.detail.symm.trans hother.detail
  have hkind := h.kind.symm.trans hother.kind
  obtain ⟨status, detail, kind⟩ := verdict
  obtain ⟨otherStatus, otherDetail, otherKind⟩ := other
  obtain rfl := Status.name_injective (htext (Option.some.inj hstatus))
  obtain rfl := Option.map_injective htext hdetail
  obtain rfl := Option.map_injective (htext.comp ErrorKind.name_injective) hkind
  rfl

/-- The data of a verdict say this verdict only. -/
theorem says_verdictData_iff {other : Verdict} :
    Says (verdictData verdict) other ↔ other = verdict := by
  constructor
  · exact fun h => h.unique (says_verdictData verdict)
  · rintro rfl
    exact says_verdictData other

end Verdict

section Entries

variable {base : String} {report : Report}

/-- The entry for a check and a file. -/
def shownOf (base : String) (check : Check) (result : String × Verdict) : Shown :=
  ⟨check.name, display (some base) result.1, verdictData result.2⟩

/-- The files of a section are files of the report. -/
theorem mem_files {part : Section} (hpart : part ∈ report.sections) {result : String × Verdict}
    (hresult : result ∈ part.results) : result.1 ∈ report.files :=
  List.mem_flatMap.mpr ⟨part, hpart, List.mem_map_of_mem hresult⟩

/-- Different files are shown apart from an absolute base. -/
theorem Distinct.display_injOn (h : report.Distinct) (hbase : isAbsolute base) :
    ∀ file ∈ report.files, ∀ other ∈ report.files,
      display (some base) file = display (some base) other → file = other :=
  fun file hfile other hother hshown =>
    h.apart file hfile other hother
      (same_of_display_eq hbase (h.absolute file hfile) (h.absolute other hother) hshown)

/-- The files of a section are shown apart. -/
theorem Distinct.nodup_map_display (h : report.Distinct) (hbase : isAbsolute base) {part : Section}
    (hpart : part ∈ report.sections) :
    (part.results.map fun result => display (some base) result.1).Nodup := by
  have hinj : ∀ file ∈ part.results.map Prod.fst, ∀ other ∈ part.results.map Prod.fst,
      display (some base) file = display (some base) other → file = other := by
    intro file hfile other hother
    obtain ⟨result, hresult, rfl⟩ := List.mem_map.mp hfile
    obtain ⟨otherResult, hotherResult, rfl⟩ := List.mem_map.mp hother
    exact h.display_injOn hbase _ (mem_files hpart hresult) _ (mem_files hpart hotherResult)
  have hmap := (h.once part hpart).map_on hinj
  rwa [List.map_map] at hmap

/-- The entries are those for the checks and files of the report, in their order: none replaces
another. -/
theorem Distinct.shown_data (h : report.Distinct) (hbase : isAbsolute base) (milliseconds : Nat) :
    shown (data (some base) milliseconds report) =
      report.sections.flatMap fun part => part.results.map (shownOf base part.check) := by
  have hchecks : (Entries.names (report.sections.map fun part =>
      (part.check.name, sectionData (some base) part))).Nodup := by
    have hnames := h.kinds.map CheckKind.name_injective
    rw [List.map_map] at hnames
    rw [Entries.names, List.map_map]
    exact hnames
  have hfiles (part : Section) (hpart : part ∈ report.sections) :
      (sectionData (some base) part).members =
        part.results.map fun result => (display (some base) result.1, verdictData result.2) := by
    refine Entries.ofList_of_nodup ?_
    rw [Entries.names, List.map_map]
    exact h.nodup_map_display hbase hpart
  have hresults : (data (some base) milliseconds report).member? "results" = some (.object
      (report.sections.map fun part => (part.check.name, sectionData (some base) part))) := by
    rw [← Entries.ofList_of_nodup hchecks]
    rfl
  rw [shown, hresults]
  change List.flatMap _ (List.map _ _) = _
  rw [List.flatMap_map]
  refine List.flatMap_congr fun part hpart => ?_
  dsimp only
  rw [hfiles part hpart, List.map_map]
  rfl

/-- The entries have a check and a file of their own. -/
theorem Distinct.nodup_keys (h : report.Distinct) (hbase : isAbsolute base) :
    ((report.sections.flatMap fun part => part.results.map (shownOf base part.check)).map
      fun entry => (entry.check, entry.file)).Nodup := by
  rw [List.map_flatMap, List.nodup_flatMap]
  constructor
  · intro part hpart
    have hpair : Function.Injective fun file : String => (part.check.name, file) :=
      fun _ _ heq => (Prod.mk.inj heq).2
    have hkeys := (h.nodup_map_display hbase hpart).map hpair
    rw [List.map_map] at hkeys ⊢
    exact hkeys
  · have hkinds := h.kinds
    rw [List.nodup_iff_pairwise_ne, List.pairwise_map] at hkinds
    refine hkinds.imp fun {part other} hne => ?_
    intro key hkey hother
    obtain ⟨entry, hentry, rfl⟩ := List.mem_map.mp hkey
    obtain ⟨result, -, rfl⟩ := List.mem_map.mp hentry
    obtain ⟨otherEntry, hotherEntry, heq⟩ := List.mem_map.mp hother
    obtain ⟨otherResult, -, rfl⟩ := List.mem_map.mp hotherEntry
    exact hne (CheckKind.name_injective (Prod.mk.inj heq).1.symm)

/-- As many entries have a status as verdicts have it. -/
theorem Distinct.shownCount_data (h : report.Distinct) (hbase : isAbsolute base)
    (milliseconds : Nat) (status : Status) :
    shownCount (data (some base) milliseconds report) status = report.countOf status := by
  have hstatus (verdict : Verdict) :
      (((verdictData verdict).member? "status").bind Data.text? = some status.name) ↔
        verdict.status = status := by
    rw [(says_verdictData verdict).status]
    exact Option.some_inj.trans Status.name_injective.eq_iff
  have hentries :
      (report.sections.flatMap fun part => part.results.map (shownOf base part.check)).map
        Shown.verdict = report.verdicts.map verdictData := by
    rw [verdicts, List.map_flatMap, List.map_flatMap]
    refine List.flatMap_congr fun part _ => ?_
    rw [List.map_map, List.map_map]
    rfl
  rw [shownCount, h.shown_data hbase, countOf]
  have hcount := congrArg (List.countP fun verdict : Data =>
    (verdict.member? "status").bind Data.text? = some status.name) hentries
  rw [List.countP_map, List.countP_map] at hcount
  refine hcount.trans (List.countP_congr fun verdict _ => ?_)
  simp only [Function.comp_apply, decide_eq_true_eq, hstatus]

end Entries

/-- A section with all files for each check makes as many verdicts as there are checks and files. -/
theorem length_verdicts_of_covers {sections : List Section} {files : Nat}
    (h : ∀ part ∈ sections, part.results.length = files) :
    (ofSections sections files).verdicts.length = files * sections.length := by
  change (sections.flatMap fun part => part.results.map Prod.snd).length = _
  induction sections with
  | nil => rfl
  | cons part rest ih =>
    obtain ⟨hpart, hrest⟩ := List.forall_mem_cons.mp h
    rw [List.flatMap_cons, List.length_append, ih hrest, List.length_map, hpart, List.length_cons,
      Nat.mul_succ, Nat.add_comm]

/-- A data report loses nothing and agrees with the totals: from an absolute base, files that are
absolute and can be told apart are shown apart, and what is shown leads back; there is exactly one
entry for each check and file, which says exactly their verdict; and the entries of each status are
as many as the totals say, together one for each check and file if every section has all files. -/
theorem data_lossless {base : String} (hbase : isAbsolute base) (milliseconds files : Nat)
    {sections : List Section} (h : (ofSections sections files).Distinct) :
    Lossless base (ofSections sections files)
      (data (some base) milliseconds (ofSections sections files)) := by
  have hshown := h.shown_data hbase milliseconds
  have hcount (status : Status) :
      shownCount (data (some base) milliseconds (ofSections sections files)) status =
        Section.total status sections :=
    (h.shownCount_data hbase milliseconds status).trans (countOf_ofSections sections files status)
  constructor
  case leads_back => exact fun file hfile => same_join_display hbase (h.absolute file hfile)
  case display_injOn => exact h.display_injOn hbase
  case one_entry =>
    intro part hpart result hresult
    refine ⟨verdictData result.2, ?_, fun verdict => says_verdictData_iff⟩
    have hmem : shownOf base part.check result ∈
        (ofSections sections files).sections.flatMap fun part =>
          part.results.map (shownOf base part.check) :=
      List.mem_flatMap.mpr ⟨part, hpart, List.mem_map_of_mem hresult⟩
    have hone := filter_key_eq (h.nodup_keys hbase) hmem
    rw [hshown]
    simp only [Prod.mk.injEq] at hone
    exact hone
  case no_other =>
    intro entry hentry
    rw [hshown] at hentry
    obtain ⟨part, hpart, hentry⟩ := List.mem_flatMap.mp hentry
    obtain ⟨result, hresult, rfl⟩ := List.mem_map.mp hentry
    exact ⟨part, hpart, result, hresult, rfl, rfl⟩
  case passed_eq => exact hcount .pass
  case failed_eq => exact hcount .fail
  case errors_eq => exact hcount .error
  case summary_eq => rfl
  case total_eq =>
    intro hcovers
    rw [h.shownCount_data hbase, h.shownCount_data hbase, h.shownCount_data hbase]
    exact (countP_status_add _).trans (length_verdicts_of_covers hcovers)

/-- A file at the base, one next to it on a way through the base, and one below it, which is shown
like a name, keep their entries. -/
theorem data_lossless_through_parent :
    let results : List (String × Verdict) :=
      [("/w", .error .io "a directory"), ("/w/../a", .fail "no markdown cell found"),
        ("/w/a", .pass)]
    let report := ofSections [⟨.hasMarkdown, results⟩, ⟨.execute true, results⟩] 3
    isAbsolute "/w/" ∧ report.Distinct ∧
      shownCount (data (some "/w/") 0 report) .fail = 2 ∧
      display (some "/w/") "/w/../a" ≠ display (some "/w/") "/w/a" := by
  intro results report
  have hbase : isAbsolute "/w/" := by decide
  have hdistinct : report.Distinct :=
    ⟨by decide +kernel, by decide +kernel, by decide +kernel, by decide +kernel⟩
  have hlossless := data_lossless hbase 0 3 hdistinct
  refine ⟨hbase, hdistinct, hlossless.failed_eq.trans (by decide +kernel), fun hshown => ?_⟩
  have hsame := hlossless.display_injOn "/w/../a" (by decide +kernel) "/w/a" (by decide +kernel)
    hshown
  exact absurd hsame (by decide)

end Report

end NotebookLint
