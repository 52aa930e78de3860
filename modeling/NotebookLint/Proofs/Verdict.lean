import NotebookLint.Notebook.File
import NotebookLint.Proofs.Execution

/-!
# Verdicts on files

A verdict is one of three things: a pass and nothing else, a fail with what is wrong, or an error
with what kept the check from deciding and of which kind that was. The checks that only look at the
notebook decide whenever it loads, and executing it never fails it. A file that does not load is the
same error for every check, whatever engine there is.
-/

namespace NotebookLint

/-- The verdicts that say as much as their status asks for. -/
inductive Verdict.WellFormed : Verdict → Prop where
  /-- A pass needs no explanation. -/
  | pass : WellFormed ⟨.pass, none, none⟩
  /-- A fail says what is wrong. -/
  | fail (detail : String) : WellFormed ⟨.fail, some detail, none⟩
  /-- An error says what is wrong and of which kind it is. -/
  | error (kind : ErrorKind) (detail : String) : WellFormed ⟨.error, some detail, some kind⟩

/-- The verdicts of a check that decides. -/
inductive Verdict.Decides : Verdict → Prop where
  /-- The file is as it should be. -/
  | pass : Decides .pass
  /-- The file is not as it should be. -/
  | fail (detail : String) : Decides (.fail detail)

namespace Verdict

/-- A condition decides. -/
theorem decides_passIf (condition : Bool) (detail : String) :
    (passIf condition detail).Decides := by
  cases condition with
  | false => exact .fail detail
  | true => exact .pass

/-- A verdict that decides says as much as it should. -/
theorem Decides.wellFormed {verdict : Verdict} (h : verdict.Decides) : verdict.WellFormed := by
  cases h with
  | pass => exact .pass
  | fail detail => exact .fail detail

/-- A verdict that decides is of no kind of error. -/
theorem Decides.kind_eq_none {verdict : Verdict} (h : verdict.Decides) : verdict.kind = none := by
  cases h <;> rfl

end Verdict

namespace Notebook

variable {tree : FileTree} {cwd path : String}

/-- A file that can be read as text loads if its text is a notebook. -/
theorem load_of_readText {text : String} (hread : tree.readText cwd path = .ok text) :
    load tree cwd path = ofText text := by
  rw [load, hread]

/-- A file that cannot be read as text does not load. -/
theorem load_of_unreadable {fault : FileFault} (hread : tree.readText cwd path = .error fault) :
    load tree cwd path = .error (.io path fault.message) := by
  rw [load, hread]

/-- Nor does a text that is no notebook. -/
theorem load_of_malformed {text : String} {fault : Json.Error}
    (hread : tree.readText cwd path = .ok text) (hparse : ofJson text = .error fault) :
    load tree cwd path = .error (.parse fault.message) := by
  rw [load_of_readText hread, ofText, hparse]
  rfl

/-- Nothing else keeps a file from loading. -/
theorem kind_of_load {error : CheckError} (h : load tree cwd path = .error error) :
    error.kind = .io ∨ error.kind = .parse := by
  cases hread : tree.readText cwd path with
  | error fault =>
    rw [load_of_unreadable hread] at h
    cases h
    exact .inl rfl
  | ok text =>
    cases hparse : ofJson text with
    | error fault =>
      rw [load_of_malformed hread hparse] at h
      cases h
      exact .inr rfl
    | ok notebook =>
      rw [load_of_readText hread, ofText, hparse] at h
      cases h

end Notebook

namespace Check

/-- What the judgement of a file by a check has to be. -/
structure Judgement.Admissible (tree : FileTree) (cwd path : String) (check : Check)
    (judgement : Judgement) : Prop where
  /-- The verdict says as much as its status asks for. -/
  wellFormed : judgement.verdict.WellFormed
  /-- Executing a notebook does not fail it. -/
  execute : check.kind = .execute → judgement.verdict.status ≠ .fail
  /-- The other checks ask no engine. -/
  not_asked : check.kind ≠ .execute → judgement.requests = []
  /-- Only a file that does not load keeps them from deciding. -/
  structural : check.kind ≠ .execute →
    ∀ kind, judgement.verdict.kind = some kind → kind = .io ∨ kind = .parse
  /-- A file that cannot be read as text is an error, and no engine is asked. -/
  unreadable : ∀ fault, tree.readText cwd path = .error fault →
    judgement = .plain (.error .io ("failed to read " ++ path ++ ": " ++ fault.message))
  /-- So is a text that is no notebook. -/
  malformed : ∀ text fault, tree.readText cwd path = .ok text →
    Notebook.ofJson text = .error fault →
      judgement = .plain (.error .parse ("not a valid notebook: " ++ fault.message))
  /-- A notebook that loads is not to blame for either. -/
  loaded : ∀ notebook, Notebook.load tree cwd path = .ok notebook →
    ∀ kind, judgement.verdict.kind = some kind → kind ≠ .io ∧ kind ≠ .parse

section Judge

variable {engine : Engine} {path : String} {notebook : Notebook} {check : Check}

/-- A check that only looks at the notebook decides, and neither asks nor warns. -/
theorem judge_structural (hkind : check.kind ≠ .execute) (notebook : Notebook) :
    ∃ verdict, verdict.Decides ∧
      ∀ engine path, check.judge engine path notebook = .plain verdict := by
  cases check with
  | cellCount max => exact ⟨judgeCellCount max notebook, Verdict.decides_passIf _ _, fun _ _ => rfl⟩
  | isAscending =>
    refine ⟨judgeAscending notebook, ?_, fun _ _ => rfl⟩
    rw [judgeAscending]
    cases firstDescent (executionCounts notebook) with
    | none => exact .pass
    | some counts => exact .fail _
  | hasMarkdown => exact ⟨judgeMarkdown notebook, Verdict.decides_passIf _ _, fun _ _ => rfl⟩
  | lineInCell max =>
    refine ⟨judgeLineInCell max notebook, ?_, fun _ _ => rfl⟩
    rw [judgeLineInCell]
    cases firstLongCell max 1 notebook.cells with
    | none => exact .pass
    | some cell => exact .fail _
  | totalLineInNotebook max =>
    exact ⟨judgeTotalLines max notebook, Verdict.decides_passIf _ _, fun _ _ => rfl⟩
  | execute withParameters => exact absurd rfl hkind

/-- What an engine answers has nothing to do with loading. -/
theorem kind_of_errorOf {outcome : Outcome} {error : CheckError}
    (herror : Execution.errorOf outcome = some error) : error.kind ≠ .io ∧ error.kind ≠ .parse := by
  cases outcome with
  | completed => cases herror
  | failed errorType message =>
    cases herror
    exact ⟨nofun, nofun⟩
  | kernelUnavailable kernel message =>
    cases herror
    exact ⟨nofun, nofun⟩
  | engineUnavailable message =>
    cases herror
    exact ⟨nofun, nofun⟩

/-- An execution ends without an error, or with one that has nothing to do with loading. -/
theorem kind_of_run {withParameters : Bool} {error : CheckError}
    (herror : (Execution.run engine path withParameters notebook).error = some error) :
    error.kind ≠ .io ∧ error.kind ≠ .parse := by
  cases hinjected : Execution.injected withParameters notebook with
  | error fault =>
    rw [Execution.run_of_not_injected hinjected] at herror
    cases herror
    exact ⟨nofun, nofun⟩
  | ok parameters =>
    rw [Execution.run_of_injected hinjected] at herror
    exact kind_of_errorOf herror

/-- Executing a notebook passes it or is an error, which has nothing to do with loading. -/
theorem judge_execute_cases (hkind : check.kind = .execute) (engine : Engine) (path : String)
    (notebook : Notebook) :
    (check.judge engine path notebook).verdict = .pass ∨ ∃ error : CheckError,
      (check.judge engine path notebook).verdict = error.verdict ∧
        error.kind ≠ .io ∧ error.kind ≠ .parse := by
  obtain ⟨withParameters, rfl⟩ : ∃ withParameters, check = .execute withParameters := by
    cases check with
    | execute withParameters => exact ⟨withParameters, rfl⟩
    | _ => cases hkind
  cases herror : (Execution.run engine path withParameters notebook).error with
  | none => exact .inl (by simp [judge, Judgement.ofExecution, herror])
  | some error =>
    exact .inr ⟨error, by simp [judge, Judgement.ofExecution, herror], kind_of_run herror⟩

/-- The verdict on a notebook says as much as its status asks for. -/
theorem wellFormed_judge (engine : Engine) (path : String) (notebook : Notebook) (check : Check) :
    (check.judge engine path notebook).verdict.WellFormed := by
  by_cases hkind : check.kind = .execute
  · rcases judge_execute_cases hkind engine path notebook with hpass | ⟨error, herror, -⟩
    · rw [hpass]
      exact .pass
    · rw [herror]
      exact .error error.kind error.message
  · obtain ⟨verdict, hdecides, hjudge⟩ := judge_structural hkind notebook
    rw [hjudge]
    exact hdecides.wellFormed

/-- A verdict on a notebook is no error of loading it. -/
theorem kind_of_judge {kind : ErrorKind}
    (hverdict : (check.judge engine path notebook).verdict.kind = some kind) :
    check.kind = .execute ∧ kind ≠ .io ∧ kind ≠ .parse := by
  by_cases hkind : check.kind = .execute
  · rcases judge_execute_cases hkind engine path notebook with hpass | ⟨error, herror, hother⟩
    · rw [hpass] at hverdict
      cases hverdict
    · rw [herror] at hverdict
      obtain rfl : error.kind = kind := Option.some.inj hverdict
      exact ⟨hkind, hother⟩
  · obtain ⟨verdict, hdecides, hjudge⟩ := judge_structural hkind notebook
    rw [hjudge] at hverdict
    rw [Judgement.plain, hdecides.kind_eq_none] at hverdict
    cases hverdict

end Judge

section File

variable {tree : FileTree} {cwd path : String} {engine : Engine} {check : Check}

/-- A file that does not load is the same judgement for every check and every engine. -/
theorem judgeFile_of_error {loaded : Except CheckError Notebook} {error : CheckError}
    (hload : loaded = .error error) :
    check.judgeFile engine path loaded = .plain error.verdict := by
  rw [hload, judgeFile]

/-- A file that loads is judged by its notebook. -/
theorem judgeFile_of_ok {loaded : Except CheckError Notebook} {notebook : Notebook}
    (hload : loaded = .ok notebook) :
    check.judgeFile engine path loaded = check.judge engine path notebook := by
  rw [hload, judgeFile]

/-- The judgement of a file that does not load. -/
theorem admissible_of_error {error : CheckError}
    (hload : Notebook.load tree cwd path = .error error) :
    (Judgement.plain error.verdict).Admissible tree cwd path check where
  wellFormed := .error error.kind error.message
  execute _ := nofun
  not_asked _ := rfl
  structural _ kind hkind := by
    obtain rfl := Option.some.inj hkind
    exact Notebook.kind_of_load hload
  unreadable fault hread := by
    rw [Notebook.load_of_unreadable hread, Except.error.injEq] at hload
    rw [← hload]
    rfl
  malformed text fault hread hparse := by
    rw [Notebook.load_of_malformed hread hparse, Except.error.injEq] at hload
    rw [← hload]
    rfl
  loaded notebook hloads := by
    rw [hload] at hloads
    cases hloads

/-- The judgement of a file that loads. -/
theorem admissible_of_ok {notebook : Notebook}
    (hload : Notebook.load tree cwd path = .ok notebook) :
    (check.judge engine path notebook).Admissible tree cwd path check where
  wellFormed := wellFormed_judge engine path notebook check
  execute hkind := by
    rcases judge_execute_cases hkind engine path notebook with hpass | ⟨error, herror, -⟩
    · rw [hpass]
      exact nofun
    · rw [herror]
      exact nofun
  not_asked hkind := by
    obtain ⟨verdict, -, hjudge⟩ := judge_structural hkind notebook
    rw [hjudge, Judgement.plain]
  structural hkind _ hverdict := absurd (kind_of_judge hverdict).1 hkind
  unreadable fault hread := by
    rw [Notebook.load_of_unreadable hread] at hload
    cases hload
  malformed text fault hread hparse := by
    rw [Notebook.load_of_malformed hread hparse] at hload
    cases hload
  loaded _ _ _ hverdict := (kind_of_judge hverdict).2

/-- A verdict on a file says as much as its status asks for. Executing a file does not fail it, and
the other checks ask no engine and decide unless the file does not load. A file that cannot be read
as text, or whose text is no notebook, is the same error for every check and every engine, which is
not asked; a file that loads is no error of these two kinds. -/
theorem judgeFile_admissible (tree : FileTree) (cwd path : String) (engine : Engine)
    (check : Check) :
    let loaded := Notebook.load tree cwd path
    let judgement := check.judgeFile engine path loaded
    judgement.Admissible tree cwd path check ∧
      (check.kind ≠ .execute → ∀ other : Engine, check.judgeFile other path loaded = judgement) ∧
      ∀ error, loaded = .error error → ∀ (other : Check) (otherEngine : Engine),
        other.judgeFile otherEngine path loaded = judgement := by
  intro loaded judgement
  cases hload : Notebook.load tree cwd path with
  | error fault =>
    have hsame (other : Check) (otherEngine : Engine) :
        other.judgeFile otherEngine path loaded = .plain fault.verdict := judgeFile_of_error hload
    have hjudgement : judgement = .plain fault.verdict := hsame check engine
    rw [hjudgement]
    exact ⟨admissible_of_error hload, fun _ other => hsame check other, fun _ _ => hsame⟩
  | ok notebook =>
    have hsame (otherEngine : Engine) :
        check.judgeFile otherEngine path loaded = check.judge otherEngine path notebook :=
      judgeFile_of_ok hload
    have hjudgement : judgement = check.judge engine path notebook := hsame engine
    rw [hjudgement]
    refine ⟨admissible_of_ok hload, ?_, ?_⟩
    · intro hkind other
      obtain ⟨verdict, -, hjudge⟩ := judge_structural hkind notebook
      rw [hsame, hjudge, hjudge]
    · intro error herror
      cases hload.symm.trans herror

/-- A file that is no text is the same error for a check that executes and for one that does not. -/
theorem judgeFile_admissible_not_text :
    let loaded := Notebook.load (.directory [("a.ipynb", .file [0xff] false)]) "/" "a.ipynb"
    let engine : Engine := fun _ => .completed
    let judgement := (Check.execute true).judgeFile engine "a.ipynb" loaded
    judgement.verdict = ⟨.error,
        some "failed to read a.ipynb: stream did not contain valid UTF-8", some .io⟩ ∧
      judgement.requests = [] ∧
      Check.isAscending.judgeFile engine "a.ipynb" loaded = judgement := by
  intro loaded engine judgement
  have hread : FileTree.readText (.directory [("a.ipynb", .file [0xff] false)]) "/" "a.ipynb" =
      .error .notUtf8 := by
    rfl
  obtain ⟨hadmissible, -, hsame⟩ := judgeFile_admissible
    (.directory [("a.ipynb", .file [0xff] false)]) "/" "a.ipynb" engine (.execute true)
  have hjudgement : judgement = _ := hadmissible.unreadable _ hread
  refine ⟨?_, ?_, hsame _ (Notebook.load_of_unreadable hread) _ _⟩
  · rw [hjudgement]
    decide
  · rw [hjudgement]
    rfl

end File

end Check

end NotebookLint
