import Mathlib.Logic.Relation
import NotebookLint.Proofs.Engine.Messages

/-!
# What the messages of a failed run are taken for

The informative lines alone decide: two runs whose messages have the same informative lines, and that
ended alike, failed for the same cause. So blank lines, rules of dashes, blanks around lines and
carriage returns before line feeds never matter, wherever the messages are looked at as a whole.

Messages that complain about no kernel and mention a raising cell keep the cause: the last line, with
the place of the error in front of it if that is said, whatever stands before and between. Without a
raising cell the last line counts.
-/

namespace NotebookLint.Engine

open NotebookLint.Text

/-- Whether messages complain about no kernel. -/
structure NamesNoKernel (messages : List Char) : Prop where
  /-- No unknown kernel is raised. -/
  unraised : ¬"NoSuchKernel".toList <:+: messages
  /-- No kernel name is missed. -/
  unmissed : ¬"No kernel name found".toList <:+: messages
  /-- No unknown kernel is announced by its name. -/
  unannounced : ∀ c, isBlank c = false → ¬"No such kernel named ".toList ++ [c] <:+: messages

section Classify

variable {messages other : List Char} {status : String}

/-- The name of the error that raises an unknown kernel stands in a line. -/
theorem isPhrase_noSuchKernel : IsPhrase "NoSuchKernel".toList := by
  decide

/-- The complaint that no kernel is named stands in a line. -/
theorem isPhrase_noKernelName : IsPhrase "No kernel name found".toList := by
  decide

/-- The name of the error of a raising cell stands in a line. -/
theorem isPhrase_cellErrorName : IsPhrase cellErrorName.toList := by
  decide

/-- Messages with the same informative lines mean the same. -/
theorem classify_congr (h : informativeLines other = informativeLines messages) (status : String) :
    classify other status = classify messages status := by
  have hword : unknownKernelWord other = unknownKernelWord messages := by
    rw [unknownKernelWord_eq_findSome?, h, ← unknownKernelWord_eq_findSome?]
  have hmentions {words : String} (hwords : IsPhrase words.toList) :
      mentions words other = mentions words messages := by
    rw [mentions_eq_any hwords, h, ← mentions_eq_any hwords]
  rw [classify, classify, h, hword, hmentions isPhrase_noSuchKernel,
    hmentions isPhrase_noKernelName]

/-- Messages that complain about no kernel, as they are looked at. -/
theorem namesNoKernel_iff : NamesNoKernel messages ↔
    unknownKernelWord messages = none ∧ mentions "NoSuchKernel" messages = false ∧
      mentions "No kernel name found" messages = false := by
  rw [unknownKernelWord_eq_none_iff, ← Bool.not_eq_true, ← Bool.not_eq_true, mentions_iff,
    mentions_iff]
  exact ⟨fun h => ⟨h.unannounced, h.unraised, h.unmissed⟩, fun h => ⟨h.2.1, h.2.2, h.1⟩⟩

/-- The message of a raising cell is what such messages mean if a cell raised. -/
theorem NamesNoKernel.classify_of_cell (h : NamesNoKernel messages) {after : List (List Char)}
    (hafter : afterCellError (informativeLines messages) = some after) :
    classify messages status = .failed cellErrorName (String.ofList (cellErrorMessage after)) := by
  obtain ⟨hword, hraised, hmissed⟩ := namesNoKernel_iff.mp h
  rw [classify, hword, hraised, hmissed, hafter]
  rfl

/-- Otherwise the last line is what they mean, in two parts if it names an error. -/
theorem NamesNoKernel.classify_of_last (h : NamesNoKernel messages) {last : List Char}
    (hcell : afterCellError (informativeLines messages) = none)
    (hlast : (informativeLines messages).getLast? = some last) :
    classify messages status = match exceptionLine last with
      | some (name, message) => .failed (String.ofList name) (String.ofList message)
      | none => .failed "EngineError" (String.ofList last) := by
  obtain ⟨hword, hraised, hmissed⟩ := namesNoKernel_iff.mp h
  rw [classify, hword, hraised, hmissed, hcell, hlast]
  rfl

end Classify

section Cell

/-- Whether a line is the first one that says where an error was encountered. -/
def FirstPlace (lines : List (List Char)) (place : List Char) : Prop :=
  ∃ skipped rest, lines = skipped ++ place :: rest ∧
    "Exception encountered at".toList <+: place ∧
    ∀ line ∈ skipped, ¬"Exception encountered at".toList <+: line

/-- What the lines behind the mention of a raising cell tell about the cause. -/
inductive Tells (after : List (List Char)) : List Char → Prop where
  /-- Nothing, if there are none. -/
  | nothing (hnone : after = []) : Tells after []
  /-- The last line, if no other line says where. -/
  | cause {last : List Char} (hlast : after.getLast? = some last)
      (hplace : ∀ place, FirstPlace after place → place = last) : Tells after last
  /-- The place and the last line. -/
  | placed {place last : List Char} (hplace : FirstPlace after place)
      (hlast : after.getLast? = some last) (hne : place ≠ last) : Tells after (place ++ ' ' :: last)

/-- The first line that begins with the place of an error is found. -/
theorem find?_eq_some_iff_firstPlace (lines : List (List Char)) (place : List Char) :
    lines.find? (beginsWith "Exception encountered at") = some place ↔ FirstPlace lines place := by
  simp only [List.find?_eq_some_iff_append, FirstPlace, beginsWith, List.isPrefixOf_iff_prefix,
    Bool.not_eq_true', ← Bool.not_eq_true]
  constructor
  · rintro ⟨hplace, skipped, rest, hlines, hskipped⟩
    exact ⟨skipped, rest, hlines, hplace, hskipped⟩
  · rintro ⟨skipped, rest, hlines, hplace, hskipped⟩
    exact ⟨hplace, skipped, rest, hlines, hskipped⟩

/-- The message of a raising cell tells the cause. -/
theorem tells_cellErrorMessage (after : List (List Char)) :
    Tells after (cellErrorMessage after) := by
  cases hlast : after.getLast? with
  | none =>
    rw [List.getLast?_eq_none_iff] at hlast
    subst hlast
    exact .nothing rfl
  | some last =>
    rw [cellErrorMessage, hlast, Option.getD_some]
    cases hfind : after.find? (beginsWith "Exception encountered at") with
    | none =>
      refine .cause hlast fun place hplace => ?_
      rw [← find?_eq_some_iff_firstPlace, hfind] at hplace
      cases hplace
    | some place =>
      have hfirst := (find?_eq_some_iff_firstPlace after place).mp hfind
      by_cases hsame : place = last
      · rw [hsame]
        dsimp only
        rw [if_pos rfl]
        refine .cause hlast fun other hother => ?_
        rw [← find?_eq_some_iff_firstPlace, hfind] at hother
        exact (Option.some.inj hother).symm.trans hsame
      · dsimp only
        rw [if_neg hsame]
        exact .placed hfirst hlast hsame

/-- The lines are cut behind the first that mentions a raising cell. -/
theorem exists_afterCellError {lines : List (List Char)}
    (h : ∃ line ∈ lines, cellErrorName.toList <:+: line) :
    ∃ before line after, lines = before ++ line :: after ∧
      (∀ other ∈ before, ¬cellErrorName.toList <:+: other) ∧ cellErrorName.toList <:+: line ∧
      afterCellError lines = some after := by
  induction lines with
  | nil =>
    obtain ⟨line, hmem, -⟩ := h
    cases hmem
  | cons first rest ih =>
    rw [afterCellError]
    by_cases hfirst : cellErrorName.toList <:+: first
    · rw [if_pos ((mentions_iff cellErrorName first).mpr hfirst)]
      exact ⟨[], first, rest, rfl, nofun, hfirst, rfl⟩
    · rw [if_neg (mt (mentions_iff cellErrorName first).mp hfirst)]
      have hrest : ∃ line ∈ rest, cellErrorName.toList <:+: line := by
        obtain ⟨line, hmem, hline⟩ := h
        rcases List.mem_cons.mp hmem with rfl | hmem
        · exact absurd hline hfirst
        · exact ⟨line, hmem, hline⟩
      obtain ⟨before, line, after, hlines, hbefore, hline, hafter⟩ := ih hrest
      refine ⟨first :: before, line, after, by rw [hlines]; rfl, ?_, hline, hafter⟩
      exact List.forall_mem_cons.mpr ⟨hfirst, hbefore⟩

/-- No raising cell is found in messages that do not mention one. -/
theorem afterCellError_eq_none {messages : List Char} (h : ¬cellErrorName.toList <:+: messages) :
    afterCellError (informativeLines messages) = none := by
  have hlines : ∀ line ∈ informativeLines messages, ¬mentions cellErrorName line := by
    rw [← mentions_iff, mentions_eq_any isPhrase_cellErrorName, List.any_eq_true] at h
    exact fun line hmem hline => h ⟨line, hmem, hline⟩
  generalize informativeLines messages = all at hlines
  induction all with
  | nil => rfl
  | cons line rest ih =>
    obtain ⟨hline, hrest⟩ := List.forall_mem_cons.mp hlines
    rw [afterCellError, if_neg hline, ih hrest]

end Cell

section Layout

/-- Whether a text ends where a line begins. -/
def EndsLine (text : List Char) : Prop :=
  ∀ c ∈ text.getLast?, c = '\n'

instance (text : List Char) : Decidable (EndsLine text) :=
  decidable_of_iff (text.getLast?.all (· == '\n')) (by simp [EndsLine, Option.all_eq_true])

/-- Whether a text begins where a line ends. -/
def BeginsAtEnd (text : List Char) : Prop :=
  ∀ c ∈ text.head?, c = '\n'

/-- The lines that say nothing: dashes, or none at all, between blanks. -/
inductive SaysNothing : List Char → Prop where
  /-- A line of these parts. -/
  | rule {before dashes after : List Char} (hbefore : isBlankText before)
      (hdashes : ∀ c ∈ dashes, c = '-') (hafter : isBlankText after)
      (hline : '\n' ∉ before ++ (dashes ++ after)) : SaysNothing (before ++ (dashes ++ after))

/-- Changes of the layout of messages. -/
inductive LayoutEdit : List Char → List Char → Prop where
  /-- A line that says nothing comes where a line begins. -/
  | above {before line after : List Char} (hbefore : EndsLine before) (hline : SaysNothing line) :
      LayoutEdit (before ++ after) (before ++ (line ++ '\n' :: after))
  /-- A line that says nothing comes where a line ends. -/
  | below {before line after : List Char} (hafter : BeginsAtEnd after) (hline : SaysNothing line) :
      LayoutEdit (before ++ after) (before ++ '\n' :: (line ++ after))
  /-- Blanks come where a line begins. -/
  | leading {before gap after : List Char} (hbefore : EndsLine before) (hgap : isBlankText gap)
      (hline : '\n' ∉ gap) : LayoutEdit (before ++ after) (before ++ (gap ++ after))
  /-- Blanks come where a line ends. -/
  | trailing {before gap after : List Char} (hafter : BeginsAtEnd after) (hgap : isBlankText gap)
      (hline : '\n' ∉ gap) : LayoutEdit (before ++ after) (before ++ (gap ++ after))
  /-- A line end gets a carriage return. -/
  | carriageReturn {before after : List Char} :
      LayoutEdit (before ++ '\n' :: after) (before ++ '\r' :: '\n' :: after)

variable {before after line gap : List Char}

/-- A line that says nothing is not informative. -/
theorem SaysNothing.informativeLines_eq_nil (h : SaysNothing line) : informativeLines line = [] := by
  cases h with
  | @rule before dashes after hbefore hdashes hafter hline =>
    have hsolid : ∀ c ∈ dashes, isBlank c = false := fun c hc => hdashes c hc ▸ rfl
    have htrim : trim (before ++ (dashes ++ after)) = dashes :=
      trim_append hbefore hafter (fun c hc => hsolid c (List.mem_of_mem_head? hc))
        (fun c hc => hsolid c (List.mem_of_getLast? hc))
    rw [informativeLines_of_not_mem hline, saying, htrim, if_pos]
    simpa [List.all_eq_true] using hdashes

/-- What is said before the beginning of a line and what is said behind it are said apart. -/
theorem EndsLine.informativeLines_append (h : EndsLine before) (after : List Char) :
    informativeLines (before ++ after) = informativeLines before ++ informativeLines after := by
  cases hlast : before.getLast? with
  | none =>
    rw [List.getLast?_eq_none_iff.mp hlast]
    rfl
  | some c =>
    obtain ⟨front, rfl⟩ := List.getLast?_eq_some_iff.mp hlast
    obtain rfl := h c hlast
    rw [List.append_assoc, List.singleton_append, Engine.informativeLines_append,
      Engine.informativeLines_append front []]
    simp [informativeLines, lines, linesWithEnds]

/-- So are what is said before the end of a line and what is said behind it. -/
theorem BeginsAtEnd.informativeLines_append (h : BeginsAtEnd after) (before : List Char) :
    informativeLines (before ++ after) = informativeLines before ++ informativeLines after := by
  cases after with
  | nil => simp [informativeLines, lines, linesWithEnds]
  | cons c after =>
    obtain rfl := h c rfl
    rw [Engine.informativeLines_append]
    exact congrArg _ (Engine.informativeLines_append [] after).symm

/-- Blanks in front of a line do not matter. -/
theorem informativeLines_gap_append (hgap : isBlankText gap) (hline : '\n' ∉ gap)
    (text : List Char) : informativeLines (gap ++ text) = informativeLines text := by
  induction text using line_induction with
  | last line hlast =>
    have hboth : '\n' ∉ gap ++ line := by simp [hline, hlast]
    rw [informativeLines_of_not_mem hboth, saying_gap_append hgap,
      ← informativeLines_of_not_mem hlast]
  | next line rest hnext _ =>
    have hboth : '\n' ∉ gap ++ line := by simp [hline, hnext]
    rw [← List.append_assoc, informativeLines_append, informativeLines_append,
      informativeLines_of_not_mem hboth, saying_gap_append hgap,
      ← informativeLines_of_not_mem hnext]

/-- Nor do blanks behind a line. -/
theorem informativeLines_append_gap (hgap : isBlankText gap) (hline : '\n' ∉ gap)
    (text : List Char) : informativeLines (text ++ gap) = informativeLines text := by
  induction text using line_induction with
  | last line hlast =>
    have hboth : '\n' ∉ line ++ gap := by simp [hline, hlast]
    rw [informativeLines_of_not_mem hboth, saying_append_gap line hgap,
      ← informativeLines_of_not_mem hlast]
  | next line rest hnext ih =>
    rw [List.append_assoc, List.cons_append, informativeLines_append, ih,
      ← informativeLines_append]

/-- A change of the layout leaves the informative lines as they are. -/
theorem LayoutEdit.informativeLines_eq {messages other : List Char} (h : LayoutEdit messages other) :
    informativeLines other = informativeLines messages := by
  cases h with
  | above hbefore hline =>
    rw [hbefore.informativeLines_append, hbefore.informativeLines_append, informativeLines_append,
      hline.informativeLines_eq_nil, List.nil_append]
  | below hafter hline =>
    rw [informativeLines_append, hafter.informativeLines_append, hafter.informativeLines_append,
      hline.informativeLines_eq_nil, List.nil_append]
  | leading hbefore hgap hline =>
    rw [hbefore.informativeLines_append, hbefore.informativeLines_append,
      informativeLines_gap_append hgap hline]
  | trailing hafter hgap hline =>
    rw [← List.append_assoc, hafter.informativeLines_append, hafter.informativeLines_append,
      informativeLines_append_gap hgap hline]
  | @carriageReturn before after =>
    have hreturn : informativeLines (before ++ ['\r']) = informativeLines before :=
      informativeLines_append_gap (by decide) (by decide) before
    rw [List.append_cons, informativeLines_append, informativeLines_append, hreturn]

/-- So do changes of the layout one after the other. -/
theorem informativeLines_eq_of_edits {messages other : List Char}
    (h : Relation.ReflTransGen LayoutEdit messages other) :
    informativeLines other = informativeLines messages := by
  induction h with
  | refl => rfl
  | tail _ hedit ih => rw [hedit.informativeLines_eq, ih]

end Layout

/-- Messages that complain about no kernel and mention a raising cell are a failure of the notebook
that tells its cause, and no change of the layout ever changes what messages are taken for. -/
theorem classify_keeps_cause (messages : List Char) (status : String) :
    (NamesNoKernel messages →
        (∃ line ∈ informativeLines messages, "PapermillExecutionError".toList <:+: line) →
        ∃ before line after, informativeLines messages = before ++ line :: after ∧
          (∀ other ∈ before, ¬"PapermillExecutionError".toList <:+: other) ∧
          "PapermillExecutionError".toList <:+: line ∧
          ∃ message, Tells after message ∧
            classify messages status = .failed "PapermillExecutionError" (String.ofList message)) ∧
      ∀ other, Relation.ReflTransGen LayoutEdit messages other →
        classify other status = classify messages status := by
  refine ⟨fun hkernel hmentioned => ?_, fun other hedits => ?_⟩
  · obtain ⟨before, line, after, hlines, hbefore, hline, hafter⟩ := exists_afterCellError hmentioned
    exact ⟨before, line, after, hlines, hbefore, hline, cellErrorMessage after,
      tells_cellErrorMessage after, hkernel.classify_of_cell hafter⟩
  · exact classify_congr (informativeLines_eq_of_edits hedits) status

/-- The cause of a raising cell is told with its place although the trace of the calls stands between
them, and it stays the same if a carriage return comes to a line end and a rule to the trace. -/
theorem classify_keeps_cause_traced :
    let raised := "PapermillExecutionError:".toList
    let encountered := "Exception encountered at 2:\n".toList
    let trace := "  call\nE: y".toList
    let messages := raised ++ '\n' :: (encountered ++ trace)
    let other := (raised ++ '\r' :: '\n' :: encountered) ++ (" --".toList ++ '\n' :: trace)
    NamesNoKernel messages ∧
      (∃ line ∈ informativeLines messages, "PapermillExecutionError".toList <:+: line) ∧
      (∃ after message, Tells after message ∧ classify messages "exit status: 1" =
        .failed "PapermillExecutionError" (String.ofList message)) ∧
      Relation.ReflTransGen LayoutEdit messages other ∧
      classify other "exit status: 1" =
        .failed "PapermillExecutionError" "Exception encountered at 2: E: y" := by
  intro raised encountered trace messages other
  have hkernel : NamesNoKernel messages := namesNoKernel_iff.mpr (by decide +kernel)
  have hmentioned : ∃ line ∈ informativeLines messages,
      "PapermillExecutionError".toList <:+: line :=
    ⟨raised, by decide +kernel, (mentions_iff _ _).mp (by decide +kernel)⟩
  have hfeed : EndsLine (raised ++ '\r' :: '\n' :: encountered) := by
    decide +kernel
  have hdashes : ∀ c ∈ ['-', '-'], c = '-' := by simp
  have hrule : SaysNothing ([' '] ++ (['-', '-'] ++ [])) :=
    .rule isBlankText_space hdashes isBlankText_nil (by decide)
  have hedits : Relation.ReflTransGen LayoutEdit messages other := by
    refine (Relation.ReflTransGen.single .carriageReturn).tail ?_
    rw [← List.cons_append, ← List.cons_append, ← List.append_assoc]
    exact .above hfeed hrule
  obtain ⟨hcause, hlayout⟩ := classify_keeps_cause messages "exit status: 1"
  obtain ⟨-, -, after, -, -, -, message, htells, hclassify⟩ := hcause hkernel hmentioned
  refine ⟨hkernel, hmentioned, ⟨after, message, htells, hclassify⟩, hedits, ?_⟩
  rw [hlayout other hedits]
  decide +kernel

end NotebookLint.Engine
