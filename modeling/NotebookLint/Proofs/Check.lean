import Mathlib.Algebra.Order.BigOperators.Group.List
import Mathlib.Algebra.Order.Ring.Nat
import Mathlib.Data.List.Chain
import Mathlib.Logic.Relation
import NotebookLint.Check

/-!
# What the structural checks decide

The check of the order compares neighbours only, and thereby decides whether every execution count
is smaller than all counts after it. The three limits on sizes are each about numbers that all have
to stay below the limit: the number of code cells, the numbers of their lines, or the sum of these.
What is no code counts for none of these checks. The place at which a cell is named counts all
cells.
-/

namespace NotebookLint

/-- A cell holds code if that is its kind. -/
theorem Cell.isCode_iff (cell : Cell) : cell.isCode ↔ cell.kind = .code :=
  decide_eq_true_iff

namespace Check

section Ascending

/-- Whether a cell has an execution count that matters: it holds code and was executed. -/
def Executed (cell : Cell) : Prop := cell.kind = .code ∧ cell.executionCount.isSome

/-- The execution counts of cells, in the order of the cells. -/
inductive Counts : List Cell → List Int → Prop where
  /-- No cells have no counts. -/
  | nil : Counts [] []
  /-- An executed cell has its count. -/
  | executed {cell : Cell} {cells : List Cell} {count : Int} {counts : List Int}
      (hkind : cell.kind = .code) (hcount : cell.executionCount = some count)
      (hrest : Counts cells counts) : Counts (cell :: cells) (count :: counts)
  /-- Any other cell has none. -/
  | other {cell : Cell} {cells : List Cell} {counts : List Int} (hcell : ¬Executed cell)
      (hrest : Counts cells counts) : Counts (cell :: cells) counts

/-- Whether a pair stands at a place of a sequence without increasing, and all neighbours before it
increase. -/
structure DescendsFirst (counts : List Int) (place : Nat) (first second : Int) : Prop where
  /-- The first of the pair stands at the place. -/
  first_eq : counts[place]? = some first
  /-- The second stands next to it. -/
  second_eq : counts[place + 1]? = some second
  /-- The second is not greater. -/
  le : second ≤ first
  /-- Neighbours at a smaller place increase. -/
  lt_of_lt : ∀ earlier < place, ∀ one next, counts[earlier]? = some one →
    counts[earlier + 1]? = some next → one < next

/-- The counts that are compared are those of the cells. -/
theorem counts_executionCounts (notebook : Notebook) :
    Counts notebook.cells (executionCounts notebook) := by
  have hcells (cells : List Cell) :
      Counts cells ((cells.filter Cell.isCode).filterMap Cell.executionCount) := by
    induction cells with
    | nil => exact .nil
    | cons cell cells ih =>
      by_cases hkind : cell.kind = .code
      · rw [List.filter_cons_of_pos (cell.isCode_iff.mpr hkind)]
        cases hcount : cell.executionCount with
        | some count =>
          rw [List.filterMap_cons_some hcount]
          exact .executed hkind hcount ih
        | none =>
          rw [List.filterMap_cons_none hcount]
          exact .other (fun hcell => by simp [Executed, hcount] at hcell) ih
      · rw [List.filter_cons_of_neg (hkind ∘ cell.isCode_iff.mp)]
        exact .other (fun hcell => hkind hcell.1) ih
  exact hcells notebook.cells

/-- A cell that was not executed makes no difference to the counts. -/
theorem filterMap_filter_eq_nil {cells : List Cell} (h : ∀ cell ∈ cells, ¬Executed cell) :
    (cells.filter Cell.isCode).filterMap Cell.executionCount = [] := by
  rw [List.filterMap_eq_nil_iff]
  intro cell hcell
  obtain ⟨hmem, hcode⟩ := List.mem_filter.mp hcell
  rw [← Option.not_isSome_iff_eq_none]
  exact fun hcount => h cell hmem ⟨cell.isCode_iff.mp hcode, hcount⟩

/-- No neighbours descend exactly if neighbours increase. -/
theorem firstDescent_eq_none_iff (counts : List Int) :
    firstDescent counts = none ↔ counts.IsChain (· < ·) := by
  fun_induction firstDescent counts with
  | case1 first second rest hle => simp [Int.not_lt.mpr hle]
  | case2 first second rest hlt ih =>
    rw [ih, List.isChain_cons_cons]
    exact (and_iff_right (Int.not_le.mp hlt)).symm
  | case3 counts hshort =>
    match counts, hshort with
    | [], _ => simp
    | [_], _ => simp
    | first :: second :: rest, hshort => exact absurd rfl (hshort first second rest)

/-- The neighbours that are found are the first that descend. -/
theorem exists_descendsFirst {counts : List Int} {first second : Int}
    (h : firstDescent counts = some (first, second)) :
    ∃ place, DescendsFirst counts place first second := by
  fun_induction firstDescent counts with
  | case1 one next rest hle =>
    obtain ⟨rfl, rfl⟩ := Prod.mk.inj (Option.some.inj h)
    exact ⟨0, rfl, rfl, hle, fun earlier hearlier => absurd hearlier (Nat.not_lt_zero earlier)⟩
  | case2 one next rest hlt ih =>
    obtain ⟨place, hfirst, hsecond, hle, hbefore⟩ := ih h
    refine ⟨place + 1, hfirst, hsecond, hle, ?_⟩
    rintro (_ | earlier) hearlier other after hother hafter
    · obtain rfl := Option.some.inj hother
      obtain rfl := Option.some.inj hafter
      exact Int.not_le.mp hlt
    · exact hbefore earlier (Nat.lt_of_succ_lt_succ hearlier) other after hother hafter
  | case3 => cases h

/-- The check of the order passes exactly if every count of an executed code cell is smaller than
all that follow, and otherwise names the first two neighbours that do not increase. Cells in between
that are no code or were never executed make no difference. -/
theorem judgeAscending_orders (notebook : Notebook) :
    ∃ counts, Counts notebook.cells counts ∧
      (judgeAscending notebook = .pass ↔ counts.Pairwise (· < ·)) ∧
      (¬counts.Pairwise (· < ·) → ∃ place first second, DescendsFirst counts place first second ∧
        judgeAscending notebook =
          .fail ("execution count " ++ toString second ++ " follows " ++ toString first)) ∧
      ∀ (other : Notebook) (before between after : List Cell),
        notebook.cells = before ++ after → other.cells = before ++ between ++ after →
          (∀ cell ∈ between, ¬Executed cell) → judgeAscending other = judgeAscending notebook := by
  refine ⟨executionCounts notebook, counts_executionCounts notebook, ?_, ?_, ?_⟩
  · rw [← List.isChain_iff_pairwise, ← firstDescent_eq_none_iff, judgeAscending]
    cases firstDescent (executionCounts notebook) <;> simp [Verdict.pass, Verdict.fail]
  · rw [← List.isChain_iff_pairwise, ← firstDescent_eq_none_iff, judgeAscending]
    intro hsome
    obtain ⟨⟨first, second⟩, hdescent⟩ := Option.ne_none_iff_exists'.mp hsome
    obtain ⟨place, hplace⟩ := exists_descendsFirst hdescent
    refine ⟨place, first, second, hplace, ?_⟩
    rw [hdescent]
  · intro other before between after hcells hother hbetween
    have hcounts : executionCounts other = executionCounts notebook := by
      rw [executionCounts, executionCounts, Notebook.codeCells, Notebook.codeCells, hcells, hother]
      simp only [List.filter_append, List.filterMap_append, filterMap_filter_eq_nil hbetween,
        List.append_nil]
    rw [judgeAscending, judgeAscending, hcounts]

/-- Cells that were never executed, and counts of cells that are no code, stand between two counts
that are compared. -/
theorem judgeAscending_orders_between :
    let executed (kind : CellKind) (count : Int) : Cell := ⟨kind, [], some count, []⟩
    let before := [executed .code (-1), executed .code 3]
    let after := [executed .code 2, executed .code 2]
    let between := [executed .markdown 9, ⟨.code, ["x = 1"], none, []⟩]
    (∀ cell ∈ between, ¬Executed cell) ∧
      judgeAscending ⟨before ++ between ++ after, none, none⟩ =
        judgeAscending ⟨before ++ after, none, none⟩ ∧
      judgeAscending ⟨before ++ after, none, none⟩ = .fail "execution count 2 follows 3" := by
  intro executed before after between
  have hbetween : ∀ cell ∈ between, ¬Executed cell := by
    simp [between, executed, Executed]
  obtain ⟨counts, -, -, -, hsame⟩ := judgeAscending_orders ⟨before ++ after, none, none⟩
  exact ⟨hbetween, hsame _ before between after rfl rfl hbetween, by decide⟩

end Ascending

section Size

/-- The limits on sizes: on the number of code cells, on the lines of each, and on the lines of all
of them. -/
def sizeLimits : List (Nat → Check) := [.cellCount, .lineInCell, .totalLineInNotebook]

/-- A single change of cells, at any place, that leaves all code cells as they are. -/
inductive ProseEdit : List Cell → List Cell → Prop where
  /-- A cell comes to the cells. -/
  | insert (before : List Cell) {cell : Cell} (after : List Cell) (hcell : cell.kind ≠ .code) :
      ProseEdit (before ++ after) (before ++ cell :: after)
  /-- A cell is taken away. -/
  | delete (before : List Cell) {cell : Cell} (after : List Cell) (hcell : cell.kind ≠ .code) :
      ProseEdit (before ++ cell :: after) (before ++ after)
  /-- A cell gives way to another. -/
  | change (before : List Cell) {cell other : Cell} (after : List Cell) (hcell : cell.kind ≠ .code)
      (hother : other.kind ≠ .code) :
      ProseEdit (before ++ cell :: after) (before ++ other :: after)

/-- What limits on sizes are to say about notebooks. -/
structure LimitsSizes (verdict : Check → Notebook → Verdict) : Prop where
  /-- Any changes of cells that are no code leave the verdicts as they are, up to the place at
  which a long cell is named. -/
  prose (notebook other : Notebook)
    (hedits : Relation.ReflTransGen ProseEdit notebook.cells other.cells) :
    (∀ max, verdict (.cellCount max) other = verdict (.cellCount max) notebook) ∧
      verdict .isAscending other = verdict .isAscending notebook ∧
      (∀ max, verdict (.totalLineInNotebook max) other =
        verdict (.totalLineInNotebook max) notebook) ∧
      ∀ max, (verdict (.lineInCell max) other).status = (verdict (.lineInCell max) notebook).status
  /-- A limit that is kept is kept if it is raised. -/
  raised (limit : Nat → Check) (hlimit : limit ∈ sizeLimits) (notebook : Notebook)
    {max larger : Nat} (hmax : max ≤ larger) :
    (verdict (limit max) notebook).status = .pass → (verdict (limit larger) notebook).status = .pass
  /-- A limit that is not kept is not kept if cells are added, at any places. -/
  added (limit : Nat → Check) (hlimit : limit ∈ sizeLimits) (max : Nat) (notebook other : Notebook)
    (hcells : notebook.cells.Sublist other.cells) :
    (verdict (limit max) notebook).status = .fail → (verdict (limit max) other).status = .fail
  /-- A limit that the lines of all cells keep is kept by the lines of each. -/
  total (max : Nat) (notebook : Notebook) :
    (verdict (.totalLineInNotebook max) notebook).status = .pass →
      (verdict (.lineInCell max) notebook).status = .pass
  /-- A limit on the lines of cells is not kept exactly if a code cell is too long. -/
  long (max : Nat) (notebook : Notebook) :
    (verdict (.lineInCell max) notebook).status = .fail ↔
      ∃ cell ∈ notebook.cells, cell.kind = .code ∧ max ≤ cell.lineCount
  /-- If it is not kept, the first code cell that is too long is named by its place among all cells,
  counted from one, and its number of lines. -/
  first (max : Nat) (notebook : Notebook) :
    (verdict (.lineInCell max) notebook).status = .fail → ∃ before cell after,
      notebook.cells = before ++ cell :: after ∧ cell.kind = .code ∧ max ≤ cell.lineCount ∧
        (∀ other ∈ before, other.kind = .code → other.lineCount < max) ∧
        verdict (.lineInCell max) notebook =
          .fail ("cell " ++ toString (before.length + 1) ++ " has " ++ toString cell.lineCount ++
            " lines (limit " ++ toString max ++ ")")

/-- The numbers of lines of the code cells. -/
def lineCounts (cells : List Cell) : List Nat :=
  (cells.filter Cell.isCode).map Cell.lineCount

/-- Whether a limit is one on sizes of the cells, which all have to stay below it, and which do not
get smaller when cells are added. -/
structure Bounds (judge : Nat → Notebook → Verdict) (sizes : List Cell → List Nat) : Prop where
  /-- The limit is kept if all sizes are below it. -/
  pass_iff (max : Nat) (notebook : Notebook) :
    (judge max notebook).status = .pass ↔ ∀ size ∈ sizes notebook.cells, size < max
  /-- Otherwise it is not kept. -/
  fail_iff (max : Nat) (notebook : Notebook) :
    (judge max notebook).status = .fail ↔ ∃ size ∈ sizes notebook.cells, max ≤ size
  /-- Each size is at most one of the sizes with more cells. -/
  grows {cells others : List Cell} (hcells : cells.Sublist others) :
    ∀ size ∈ sizes cells, ∃ larger ∈ sizes others, size ≤ larger

/-- A larger limit is kept too. -/
theorem Bounds.raised {judge : Nat → Notebook → Verdict} {sizes : List Cell → List Nat}
    (h : Bounds judge sizes) {max larger : Nat} (hmax : max ≤ larger) {notebook : Notebook}
    (hpass : (judge max notebook).status = .pass) : (judge larger notebook).status = .pass := by
  rw [h.pass_iff] at hpass ⊢
  exact fun size hsize => (hpass size hsize).trans_le hmax

/-- A limit is not kept if fewer cells do not keep it. -/
theorem Bounds.added {judge : Nat → Notebook → Verdict} {sizes : List Cell → List Nat}
    (h : Bounds judge sizes) {max : Nat} {notebook other : Notebook}
    (hcells : notebook.cells.Sublist other.cells) (hfail : (judge max notebook).status = .fail) :
    (judge max other).status = .fail := by
  rw [h.fail_iff] at hfail ⊢
  obtain ⟨size, hsize, hmax⟩ := hfail
  obtain ⟨larger, hlarger, hle⟩ := h.grows hcells size hsize
  exact ⟨larger, hlarger, hmax.trans hle⟩

/-- The status of a verdict that hangs on a condition. -/
theorem status_passIf (condition : Bool) (detail : String) :
    ((Verdict.passIf condition detail).status = .pass ↔ condition) ∧
      ((Verdict.passIf condition detail).status = .fail ↔ ¬condition) := by
  cases condition <;> simp [Verdict.passIf, Verdict.pass, Verdict.fail]

/-- A limit on one size that does not get smaller when cells are added. -/
theorem bounds_of_passIf {judge : Nat → Notebook → Verdict} {size : List Cell → Nat}
    (hjudge : ∀ max notebook, ∃ detail,
      judge max notebook = .passIf (size notebook.cells < max) detail)
    (hgrows : ∀ {cells others : List Cell}, cells.Sublist others → size cells ≤ size others) :
    Bounds judge fun cells => [size cells] where
  pass_iff max notebook := by
    obtain ⟨detail, hdetail⟩ := hjudge max notebook
    simp [hdetail, status_passIf]
  fail_iff max notebook := by
    obtain ⟨detail, hdetail⟩ := hjudge max notebook
    simp [hdetail, status_passIf]
  grows hcells := by simpa using hgrows hcells

/-- The lines of all code cells are the sum of their numbers of lines. -/
theorem totalLines_eq_sum (notebook : Notebook) :
    totalLines notebook = (lineCounts notebook.cells).sum := by
  rw [List.sum_eq_foldl_nat, lineCounts, List.foldl_map]
  rfl

/-- The code cells among fewer cells are among the code cells. -/
theorem sublist_lineCounts {cells others : List Cell} (hcells : cells.Sublist others) :
    (lineCounts cells).Sublist (lineCounts others) :=
  (hcells.filter _).map _

/-- The number of code cells is limited. -/
theorem bounds_cellCount :
    Bounds judgeCellCount fun cells => [(cells.filter Cell.isCode).length] :=
  bounds_of_passIf (fun _ _ => ⟨_, rfl⟩) fun hcells => (hcells.filter _).length_le

/-- The lines of all code cells are limited. -/
theorem bounds_totalLines : Bounds judgeTotalLines fun cells => [(lineCounts cells).sum] := by
  have hgrows {cells others : List Cell} (hcells : cells.Sublist others) :
      (lineCounts cells).sum ≤ (lineCounts others).sum :=
    (sublist_lineCounts hcells).sum_le_sum fun _ _ => Nat.zero_le _
  refine bounds_of_passIf (fun max notebook => ?_) hgrows
  rw [← totalLines_eq_sum]
  exact ⟨_, rfl⟩

/-- No cell is found if all code cells are below the limit. -/
theorem firstLongCell_eq_none_iff (max place : Nat) (cells : List Cell) :
    firstLongCell max place cells = none ↔ ∀ size ∈ lineCounts cells, size < max := by
  fun_induction firstLongCell max place cells with
  | case1 => simp [lineCounts]
  | case2 place cell cells hlong =>
    rw [Bool.and_eq_true, decide_eq_true_eq] at hlong
    simp [lineCounts, List.filter_cons_of_pos hlong.1, Nat.not_lt.mpr hlong.2]
  | case3 place cell cells hshort ih =>
    rw [ih]
    by_cases hcode : cell.isCode
    · have hlt : cell.lineCount < max := by simpa [hcode] using hshort
      simp [lineCounts, List.filter_cons_of_pos hcode, hlt]
    · rw [lineCounts, lineCounts, List.filter_cons_of_neg hcode]

/-- The cell that is found is the first code cell that is not below the limit. -/
theorem exists_split_of_firstLongCell {max place found : Nat} {cells : List Cell} {cell : Cell}
    (h : firstLongCell max place cells = some (found, cell)) :
    ∃ before after, cells = before ++ cell :: after ∧ found = place + before.length ∧
      cell.kind = .code ∧ max ≤ cell.lineCount ∧
      ∀ other ∈ before, other.kind = .code → other.lineCount < max := by
  fun_induction firstLongCell max place cells with
  | case1 => cases h
  | case2 place first cells hlong =>
    obtain ⟨rfl, rfl⟩ := Prod.mk.inj (Option.some.inj h)
    rw [Bool.and_eq_true, decide_eq_true_eq] at hlong
    exact ⟨[], cells, rfl, rfl, first.isCode_iff.mp hlong.1, hlong.2, nofun⟩
  | case3 place first cells hshort ih =>
    obtain ⟨before, after, rfl, rfl, hkind, hlong, hbefore⟩ := ih h
    refine ⟨first :: before, after, rfl, ?_, hkind, hlong, ?_⟩
    · rw [List.length_cons]
      omega
    · rintro other hother hcode
      rcases List.mem_cons.mp hother with rfl | hother
      · simpa [other.isCode_iff.mpr hcode] using hshort
      · exact hbefore other hother hcode

/-- The lines of each code cell are limited. -/
theorem bounds_lineInCell : Bounds judgeLineInCell lineCounts where
  pass_iff max notebook := by
    rw [← firstLongCell_eq_none_iff max 1, judgeLineInCell]
    cases firstLongCell max 1 notebook.cells <;> simp [Verdict.pass, Verdict.fail]
  fail_iff max notebook := by
    have hnone := firstLongCell_eq_none_iff max 1 notebook.cells
    rw [judgeLineInCell]
    cases hfound : firstLongCell max 1 notebook.cells with
    | none =>
      simpa [Verdict.pass] using hnone.mp hfound
    | some found =>
      simpa [Verdict.fail, hfound] using hnone
  grows hcells size hsize := ⟨size, (sublist_lineCounts hcells).subset hsize, Nat.le_refl size⟩

/-- Changes of cells that are no code leave the code cells as they are. -/
theorem filter_isCode_of_edits {cells others : List Cell}
    (h : Relation.ReflTransGen ProseEdit cells others) :
    others.filter Cell.isCode = cells.filter Cell.isCode := by
  have hprose {cell : Cell} (hcell : cell.kind ≠ .code) : ¬cell.isCode :=
    hcell ∘ cell.isCode_iff.mp
  induction h with
  | refl => rfl
  | tail _ hedit ih =>
    rw [← ih]
    cases hedit with
    | insert before after hcell => simp [List.filter_cons_of_neg (hprose hcell)]
    | delete before after hcell => simp [List.filter_cons_of_neg (hprose hcell)]
    | change before after hcell hother =>
      simp [List.filter_cons_of_neg (hprose hcell), List.filter_cons_of_neg (hprose hother)]

/-- Two verdicts of a limit have the same status if the sizes are the same. -/
theorem Bounds.status_eq {judge : Nat → Notebook → Verdict} {sizes : List Cell → List Nat}
    (h : Bounds judge sizes) (max : Nat) {notebook other : Notebook}
    (hsizes : sizes other.cells = sizes notebook.cells) :
    (judge max other).status = (judge max notebook).status := by
  by_cases hpass : ∀ size ∈ sizes notebook.cells, size < max
  · rw [(h.pass_iff max notebook).mpr hpass, (h.pass_iff max other).mpr (hsizes ▸ hpass)]
  · push Not at hpass
    rw [(h.fail_iff max notebook).mpr hpass, (h.fail_iff max other).mpr (hsizes ▸ hpass)]

/-- The checks of sizes and of the order look at code cells only. The limits on sizes are kept when
they are raised, stay broken when cells are added, and the one on all lines implies the one on the
lines of each cell, which names the first code cell that breaks it. -/
theorem judge_limits_sizes (engine : Engine) (path : String) :
    LimitsSizes fun check notebook => (check.judge engine path notebook).verdict where
  prose notebook other hedits := by
    have hcode : other.codeCells = notebook.codeCells := filter_isCode_of_edits hedits
    refine ⟨fun max => ?_, ?_, fun max => ?_, fun max => ?_⟩
    · change judgeCellCount max other = judgeCellCount max notebook
      rw [judgeCellCount, judgeCellCount, hcode]
    · change judgeAscending other = judgeAscending notebook
      rw [judgeAscending, judgeAscending, executionCounts, executionCounts, hcode]
    · change judgeTotalLines max other = judgeTotalLines max notebook
      rw [judgeTotalLines, judgeTotalLines, totalLines, totalLines, hcode]
    · exact bounds_lineInCell.status_eq max (congrArg (List.map Cell.lineCount) hcode)
  raised limit hlimit notebook max larger hmax := by
    simp only [sizeLimits, List.mem_cons, List.not_mem_nil, or_false] at hlimit
    rcases hlimit with rfl | rfl | rfl
    · exact bounds_cellCount.raised hmax
    · exact bounds_lineInCell.raised hmax
    · exact bounds_totalLines.raised hmax
  added limit hlimit max notebook other hcells := by
    simp only [sizeLimits, List.mem_cons, List.not_mem_nil, or_false] at hlimit
    rcases hlimit with rfl | rfl | rfl
    · exact bounds_cellCount.added hcells
    · exact bounds_lineInCell.added hcells
    · exact bounds_totalLines.added hcells
  total max notebook hpass := by
    have hsum : (lineCounts notebook.cells).sum < max := by
      simpa using (bounds_totalLines.pass_iff max notebook).mp hpass
    apply (bounds_lineInCell.pass_iff max notebook).mpr
    exact fun size hsize => (List.le_sum_of_mem hsize).trans_lt hsum
  long max notebook := by
    refine (bounds_lineInCell.fail_iff max notebook).trans ?_
    simp [lineCounts, Cell.isCode_iff, and_assoc]
  first max notebook hfail := by
    change (judgeLineInCell max notebook).status = .fail at hfail
    change ∃ before cell after, _ ∧ _ ∧ _ ∧ _ ∧ judgeLineInCell max notebook = _
    rw [judgeLineInCell] at hfail ⊢
    cases hfound : firstLongCell max 1 notebook.cells with
    | none =>
      rw [hfound] at hfail
      cases hfail
    | some found =>
      obtain ⟨place, cell⟩ := found
      obtain ⟨before, after, hcells, rfl, hkind, hlong, hbefore⟩ :=
        exists_split_of_firstLongCell hfound
      refine ⟨before, cell, after, hcells, hkind, hlong, hbefore, ?_⟩
      rw [Nat.add_comm before.length]

/-- A cell of prose in front moves the place of the cell that is too long, and nothing else. -/
theorem judge_limits_sizes_moved :
    let code : Cell := ⟨.code, ["a\n", "b"], some 1, []⟩
    let prose : Cell := ⟨.markdown, ["c\n", "d\n", "e"], none, []⟩
    let verdict (check : Check) (cells : List Cell) :=
      (check.judge (fun _ => .completed) "a.ipynb" ⟨cells, none, none⟩).verdict
    Relation.ReflTransGen ProseEdit [code] [prose, code] ∧
      verdict (.lineInCell 2) [code] = .fail "cell 1 has 2 lines (limit 2)" ∧
      verdict (.lineInCell 2) [prose, code] = .fail "cell 2 has 2 lines (limit 2)" ∧
      verdict (.totalLineInNotebook 3) [prose, code] = verdict (.totalLineInNotebook 3) [code] ∧
      (verdict (.lineInCell 3) [code]).status = .pass ∧
      (verdict (.cellCount 1) [code, code]).status = .fail := by
  intro code prose verdict
  have hlimits := judge_limits_sizes (fun _ => .completed) "a.ipynb"
  have hedits : Relation.ReflTransGen ProseEdit [code] [prose, code] :=
    .single (.insert [] [code] (by decide))
  refine ⟨hedits, by decide, by decide, ?_, ?_, ?_⟩
  · exact (hlimits.prose ⟨[code], none, none⟩ ⟨[prose, code], none, none⟩ hedits).2.2.1 3
  · exact hlimits.total 3 ⟨[code], none, none⟩ (by decide)
  · exact hlimits.added .cellCount (by simp [sizeLimits]) 1 ⟨[code], none, none⟩
      ⟨[code, code], none, none⟩ (List.sublist_cons_self code [code]) (by decide)

end Size

end Check

end NotebookLint
