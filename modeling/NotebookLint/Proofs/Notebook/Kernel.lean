import Mathlib.Data.Option.Defs
import Mathlib.Tactic.ByContra
import NotebookLint.Execution

/-!
# Which kernel and language a notebook names

A blank string in the metadata of a notebook is meant to count as one that is not there. For the
name of the kernel it does, and so it does for the language entry, which comes last. A blank language
of the kernel does not if the language entry names a language: the entry is looked up only if the
kernel says nothing, and being blank is found out after that. Such a blank string hides the language.

This is the only case. In every other one a blank string can be removed, and nothing that depends on
the kernel or the language changes.
-/

namespace NotebookLint.Notebook

open NotebookLint.Text

/-- Whether an entry is kept, or is a blank string that is removed. -/
inductive Pruned : Option String → Option String → Prop where
  /-- The entry is kept. -/
  | kept (entry : Option String) : Pruned entry entry
  /-- A blank string is removed. -/
  | removed {text : String} (hblank : isBlankText text.toList = true) : Pruned (some text) none

/-- Whether blank strings are removed from what a document says about its kernel. -/
structure PrunesSpec (spec other : KernelSpec) : Prop where
  /-- The name of the kernel. -/
  name : Pruned spec.name other.name
  /-- The language of the kernel. -/
  language : Pruned spec.language other.language

/-- Whether a notebook is another one with blank strings removed from its metadata. -/
structure Prunes (notebook other : Notebook) : Prop where
  /-- The cells are the same. -/
  cells : other.cells = notebook.cells
  /-- What is said about the kernel. -/
  kernelSpec : Option.Rel PrunesSpec notebook.kernelSpec other.kernelSpec
  /-- What is said about the language. -/
  languageInfo : Option.Rel Pruned notebook.languageInfo other.languageInfo

/-- The language that the kernel names, if it is given. -/
def kernelLanguage (notebook : Notebook) : Option String :=
  notebook.kernelSpec.bind KernelSpec.language

/-- The language that the language entry names, if it is given. -/
def entryLanguage (notebook : Notebook) : Option String :=
  notebook.languageInfo.bind id

/-- The first of the two languages that is not blank. -/
def spokenLanguage (notebook : Notebook) : Option String :=
  (notebook.kernelLanguage.bind unlessBlank).or (notebook.entryLanguage.bind unlessBlank)

/-- Whether a blank language of the kernel hides the language entry. -/
def Hides (notebook : Notebook) : Prop :=
  (∃ text, notebook.kernelLanguage = some text ∧ isBlankText text.toList = true) ∧
    (notebook.entryLanguage.bind unlessBlank).isSome

/-- Whether a name stands for Python, in letters of either case. -/
def NamesPython (name : String) : Prop :=
  let lower := name.toList.map Char.toLower
  (∃ version, lower = "python".toList ++ version) ∨ lower = "ipython".toList ∨
    lower = "ipykernel".toList

/-- A text counts as absent exactly if it is blank. -/
theorem unlessBlank_eq_none_iff (text : String) :
    unlessBlank text = none ↔ isBlankText text.toList = true := by
  rw [← trim_eq_nil_iff, unlessBlank, trimmed]
  by_cases hnil : trim text.toList = []
  · simp [hnil]
  · simp [hnil]

/-- Python is translated, and nothing else is. -/
theorem translatorNamed_eq_some_iff (name : String) :
    Parameter.translatorNamed name = some .python ↔ NamesPython name := by
  unfold Parameter.translatorNamed NamesPython
  generalize name.toList.map Char.toLower = lower
  have hbegins : "python".toList.isPrefixOf lower = true ↔
      ∃ version, lower = "python".toList ++ version := by
    rw [List.isPrefixOf_iff_prefix]
    exact exists_congr fun _ => eq_comm
  have hnames : ("python".toList.isPrefixOf lower || decide (lower = "ipython".toList) ||
        decide (lower = "ipykernel".toList)) = true ↔
      (∃ version, lower = "python".toList ++ version) ∨ lower = "ipython".toList ∨
        lower = "ipykernel".toList := by
    rw [Bool.or_eq_true, Bool.or_eq_true, decide_eq_true_eq, decide_eq_true_eq, hbegins, or_assoc]
  dsimp only
  rw [← hnames, ite_eq_left_iff]
  constructor
  · intro hnone
    by_contra hother
    exact absurd (hnone hother) (by decide)
  · exact absurd

section Prune

variable {notebook other : Notebook}

/-- An entry counts for the same once blank strings are removed. -/
theorem Pruned.bind_eq {entry left : Option String} (h : Pruned entry left) :
    left.bind unlessBlank = entry.bind unlessBlank := by
  cases h with
  | kept => rfl
  | removed hblank =>
    rw [Option.bind_some, (unlessBlank_eq_none_iff _).mpr hblank]
    rfl

/-- What is left of the language of the kernel. -/
theorem Prunes.kernelLanguage (h : Prunes notebook other) :
    Pruned notebook.kernelLanguage other.kernelLanguage := by
  obtain ⟨cells, spec, info⟩ := notebook
  obtain ⟨others, left, remaining⟩ := other
  cases h.kernelSpec with
  | some hspec => exact hspec.language
  | none => exact .kept none

/-- What is left of the language entry. -/
theorem Prunes.entryLanguage (h : Prunes notebook other) :
    Pruned notebook.entryLanguage other.entryLanguage := by
  obtain ⟨cells, spec, info⟩ := notebook
  obtain ⟨others, left, remaining⟩ := other
  cases h.languageInfo with
  | some hinfo => exact hinfo
  | none => exact .kept none

/-- The kernel keeps its name. -/
theorem Prunes.kernelName_eq (h : Prunes notebook other) :
    other.kernelName = notebook.kernelName := by
  obtain ⟨cells, spec, info⟩ := notebook
  obtain ⟨others, left, remaining⟩ := other
  cases h.kernelSpec with
  | some hspec => exact hspec.name.bind_eq
  | none => rfl

/-- The first language that is not blank stays the same. -/
theorem Prunes.spokenLanguage_eq (h : Prunes notebook other) :
    other.spokenLanguage = notebook.spokenLanguage := by
  rw [spokenLanguage, spokenLanguage, h.kernelLanguage.bind_eq, h.entryLanguage.bind_eq]

/-- Nothing is hidden that was not hidden before. -/
theorem Prunes.hides (h : Prunes notebook other) (hother : other.Hides) : notebook.Hides := by
  obtain ⟨⟨text, htext, hblank⟩, hentry⟩ := hother
  refine ⟨⟨text, ?_, hblank⟩, h.entryLanguage.bind_eq ▸ hentry⟩
  have hkernel := h.kernelLanguage
  rw [htext] at hkernel
  generalize notebook.kernelLanguage = entry at hkernel ⊢
  cases hkernel
  rfl

/-- A language that is hidden is not found. -/
theorem language_of_hides (h : notebook.Hides) :
    notebook.language = none ∧ notebook.spokenLanguage.isSome := by
  obtain ⟨⟨text, htext, hblank⟩, hentry⟩ := h
  have hnone := (unlessBlank_eq_none_iff text).mpr hblank
  constructor
  · have hkernel : notebook.kernelSpec.bind KernelSpec.language = some text := htext
    simp only [language, hkernel, Option.bind_some, hnone]
  · rw [spokenLanguage, htext, Option.bind_some, hnone, Option.none_or]
    exact hentry

/-- Otherwise the language is the first one that is not blank. -/
theorem language_of_not_hides (h : ¬notebook.Hides) :
    notebook.language = notebook.spokenLanguage := by
  rw [spokenLanguage, language]
  cases hkernel : notebook.kernelLanguage with
  | none =>
    have hspec : notebook.kernelSpec.bind KernelSpec.language = none := hkernel
    simp only [hspec]
    rfl
  | some text =>
    have hspec : notebook.kernelSpec.bind KernelSpec.language = some text := hkernel
    simp only [hspec, Option.bind_some]
    cases htext : unlessBlank text with
    | some spoken => rfl
    | none =>
      -- The kernel's language is blank, and as it hides nothing the entry says nothing either.
      have hentry : (notebook.entryLanguage.bind unlessBlank).isSome = false := by
        rw [Bool.eq_false_iff]
        exact fun hentry => h ⟨⟨text, hkernel, (unlessBlank_eq_none_iff text).mp htext⟩, hentry⟩
      rw [Option.isSome_eq_false_iff, Option.isNone_iff_eq_none] at hentry
      rw [hentry]
      rfl

/-- Removing blank strings keeps the language exactly if it uncovers none. -/
theorem Prunes.language_eq_iff (h : Prunes notebook other) :
    other.language = notebook.language ↔ (notebook.Hides → other.Hides) := by
  by_cases hhides : notebook.Hides
  · obtain ⟨hnone, hsome⟩ := language_of_hides hhides
    rw [hnone]
    by_cases hother : other.Hides
    · simp [(language_of_hides hother).1, hother]
    · rw [language_of_not_hides hother, h.spokenLanguage_eq]
      simp only [hhides, hother, imp_false, not_true, iff_false]
      exact Option.ne_none_iff_isSome.mpr hsome
  · have hother : ¬other.Hides := fun hother => hhides (h.hides hother)
    rw [language_of_not_hides hother, language_of_not_hides hhides, h.spokenLanguage_eq]
    simp [hhides]

/-- Parameters depend on the cells, the name of the kernel and the language only. -/
theorem extract_eq_of_eq (hcells : other.cells = notebook.cells)
    (hkernel : other.kernelName = notebook.kernelName)
    (hlanguage : other.language = notebook.language) :
    Parameter.translator other = Parameter.translator notebook ∧
      Parameter.extract other = Parameter.extract notebook := by
  have htranslator : Parameter.translator other = Parameter.translator notebook := by
    rw [Parameter.translator, Parameter.translator, hkernel, hlanguage]
  have hdefaults : Parameter.defaultCells other = Parameter.defaultCells notebook := by
    rw [Parameter.defaultCells, Parameter.defaultCells, hcells]
  have hcount : Parameter.parametersCellCount other = Parameter.parametersCellCount notebook := by
    rw [Parameter.parametersCellCount, Parameter.parametersCellCount, hcells]
  have hdeclarations : Parameter.declarations other = Parameter.declarations notebook := by
    rw [Parameter.declarations, Parameter.declarations, hdefaults]
  refine ⟨htranslator, ?_⟩
  rw [Parameter.extract, Parameter.extract, hdefaults, hcount, htranslator, hdeclarations, hkernel,
    hlanguage]

/-- A translator is found by the kernel, or by the first language that is not blank unless this is
hidden. -/
theorem translator_eq_some_iff (notebook : Notebook) :
    Parameter.translator notebook = some .python ↔
      (∃ name ∈ notebook.kernelName, NamesPython name) ∨
        ¬notebook.Hides ∧ ∃ name ∈ notebook.spokenLanguage, NamesPython name := by
  have hlanguage : notebook.language.bind Parameter.translatorNamed = some .python ↔
      ¬notebook.Hides ∧ ∃ name ∈ notebook.spokenLanguage, NamesPython name := by
    by_cases hhides : notebook.Hides
    · simp [(language_of_hides hhides).1, hhides]
    · simp [language_of_not_hides hhides, hhides, Option.bind_eq_some_iff,
        translatorNamed_eq_some_iff]
  have hkernel : notebook.kernelName.bind Parameter.translatorNamed = some .python ↔
      ∃ name ∈ notebook.kernelName, NamesPython name := by
    simp [Option.bind_eq_some_iff, translatorNamed_eq_some_iff]
  rw [Parameter.translator, ← hlanguage, ← hkernel]
  cases notebook.kernelName.bind Parameter.translatorNamed with
  | none => simp
  | some found =>
    cases found
    simp

end Prune

/-- Removing blank strings from the metadata of a notebook leaves the name of its kernel as it is,
and with it every execution without parameters. It leaves the language as it is exactly if it
uncovers no language that a blank one of the kernel has hidden, and then the translator, the
parameters and every execution as well. A translator is found exactly if the kernel has the name of
Python, or the first language that is not blank is Python and is not hidden. -/
theorem prunes_alike {notebook other : Notebook} (h : Prunes notebook other) :
    other.kernelName = notebook.kernelName ∧
      (∀ engine path,
        Execution.run engine path false other = Execution.run engine path false notebook) ∧
      (other.language = notebook.language ↔ (notebook.Hides → other.Hides)) ∧
      ((notebook.Hides → other.Hides) →
        Parameter.translator other = Parameter.translator notebook ∧
          Parameter.extract other = Parameter.extract notebook ∧
          ∀ engine path withParameters, Execution.run engine path withParameters other =
            Execution.run engine path withParameters notebook) ∧
      (Parameter.translator notebook = some .python ↔
        (∃ name ∈ notebook.kernelName, NamesPython name) ∨
          ¬notebook.Hides ∧ ∃ name ∈ notebook.spokenLanguage, NamesPython name) := by
  have hkernel := h.kernelName_eq
  refine ⟨hkernel, ?_, h.language_eq_iff, ?_, translator_eq_some_iff notebook⟩
  · intro engine path
    simp only [Execution.run, hkernel]
    rfl
  · intro hkeeps
    obtain ⟨htranslator, hextract⟩ :=
      extract_eq_of_eq h.cells hkernel (h.language_eq_iff.mpr hkeeps)
    refine ⟨htranslator, hextract, ?_⟩
    intro engine path withParameters
    simp only [Execution.run, hkernel, hextract]

/-- Of a notebook whose three strings are blank all of them can be removed. -/
theorem prunes_alike_blank :
    let notebook : Notebook := ⟨[], some ⟨some " ", some ""⟩, some (some "\t\n")⟩
    let other : Notebook := ⟨[], some ⟨none, none⟩, some none⟩
    Prunes notebook other ∧ ¬notebook.Hides ∧ other.language = notebook.language ∧
      Parameter.extract other = Parameter.extract notebook := by
  intro notebook other
  have hprunes : Prunes notebook other :=
    ⟨rfl, .some ⟨.removed (by decide), .removed (by decide)⟩, .some (.removed (by decide))⟩
  have hhides : ¬notebook.Hides := fun ⟨_, hentry⟩ => absurd hentry (by decide)
  obtain ⟨-, -, hlanguage, hrest, -⟩ := prunes_alike hprunes
  obtain ⟨-, hextract, -⟩ := hrest fun h => absurd h hhides
  exact ⟨hprunes, hhides, hlanguage.mpr fun h => absurd h hhides, hextract⟩

/-- A blank language of the kernel hides a language entry with the name of Python: once it is
removed the defaults are found, which are refused before. -/
theorem prunes_alike_hidden :
    let cells : List Cell :=
      [⟨.code, ["x = 1"], none, [Parameter.parametersTag, Parameter.defaultsTag]⟩]
    let notebook : Notebook := ⟨cells, some ⟨none, some ""⟩, some (some "python")⟩
    let other : Notebook := ⟨cells, some ⟨none, none⟩, some (some "python")⟩
    Prunes notebook other ∧ notebook.language = none ∧ other.language = some "python" ∧
      Parameter.translator notebook = none ∧ Parameter.translator other = some .python ∧
      Parameter.extract notebook = .error (.noTranslator "<unset>") ∧
      Parameter.extract other = .ok [("x", .int 1)] := by
  intro cells notebook other
  have hprunes : Prunes notebook other :=
    ⟨rfl, .some ⟨.kept none, .removed (by decide)⟩, .some (.kept _)⟩
  have hdeclarations : Parameter.declarations other = [⟨"x", "1"⟩] := by decide +kernel
  have hextract : Parameter.extract other = Parameter.evaluate (Parameter.declarations other) [] := by
    rfl
  refine ⟨hprunes, by decide +kernel, by decide +kernel, by decide +kernel, by decide +kernel, rfl, ?_⟩
  rw [hextract, hdeclarations]
  rfl

end NotebookLint.Notebook
