import NotebookLint.CommandLine

/-!
# What occurrences on a command line mean

Arguments can be looked at through what has to be said for them: the flags that are set, the texts
of each option, and the paths. Occurrences mean arguments if they say just that, and then they mean
no others. Taking in an occurrence adds what it says to what is seen and changes nothing else, so
occurrences that mean arguments yield them, in whatever order they come: no flag and no option but
the open-ended one is met a second time, and every text can be read back.
-/

namespace NotebookLint

namespace Text

/-- Digits continue a number to the one that they spell out behind it. -/
theorem digitsFrom_of_isDigit {digits : List Char} (hdigits : ∀ c ∈ digits, c.isDigit)
    (number : Nat) : digitsFrom number digits = some (Nat.ofDigitChars 10 digits number) := by
  induction digits generalizing number with
  | nil => rfl
  | cons c digits ih =>
    obtain ⟨hc, hrest⟩ := List.forall_mem_cons.mp hdigits
    rw [digitsFrom, if_pos hc, ih hrest, Nat.ofDigitChars_cons]

/-- A count that is written in decimal is read back. -/
theorem natural?_toString {n : Nat} (hn : n ≤ maxNatural) :
    natural? (toString n).toList = some n := by
  have htoList : (toString n).toList = Nat.toDigits 10 n := Nat.toList_repr
  have hdigits : ∀ c ∈ Nat.toDigits 10 n, c.isDigit := fun c hc =>
    Nat.isDigit_of_mem_toDigits (by decide) (by decide) hc
  obtain ⟨first, more, hcons⟩ := List.exists_cons_of_ne_nil (Nat.toDigits_ne_nil (b := 10) (n := n))
  have hplus : first ≠ '+' := by
    rintro rfl
    exact absurd (hdigits '+' (hcons ▸ List.mem_cons_self)) (by decide)
  have hread : digits? (first :: more) = some n := by
    rw [digits?, ← hcons, digitsFrom_of_isDigit hdigits, Nat.ofDigitChars_ten_toDigits]
    exact nofun
  rw [htoList, hcons, natural?]
  · simp [hread, hn]
  · exact fun _ h => hplus (List.cons.inj h).1

/-- Numbers that are written alike in decimal are the same. -/
theorem toString_injective : Function.Injective (toString : Nat → String) := by
  intro m n h
  have hdigits : Nat.toDigits 10 m = Nat.toDigits 10 n :=
    Nat.toList_repr.symm.trans ((congrArg String.toList h).trans Nat.toList_repr)
  rw [← Nat.ofDigitChars_ten_toDigits (n := m), hdigits, Nat.ofDigitChars_ten_toDigits]

end Text

/-- A form of the report is found by its name. -/
theorem OutputMode.ofName?_name (mode : OutputMode) : ofName? mode.name = some mode := by
  cases mode <;> rfl

/-- Forms of the report have names of their own. -/
theorem OutputMode.name_injective : Function.Injective OutputMode.name := fun one other h =>
  Option.some.inj (by rw [← one.ofName?_name, h, other.ofName?_name])

namespace Arguments

open CommandLine

/-- Whether a flag is set. -/
def has (given : Arguments) : Flag → Bool
  | .check kind => given.checks.contains kind
  | .executeWithoutParameters => given.executeWithoutParameters
  | .verbose => given.verbose
  | .noColor => given.noColor

/-- What is given for an option, as texts. -/
def texts (given : Arguments) : Setting → List String
  | .maxCellCount => (given.maxCellCount.map toString).toList
  | .maxLineInCell => (given.maxLineInCell.map toString).toList
  | .maxTotalLineInNotebook => (given.maxTotalLineInNotebook.map toString).toList
  | .excludePatterns => given.excludePatterns
  | .output => (given.output.map OutputMode.name).toList
  | .jobs => (given.jobs.map toString).toList
  | .logLevel => given.logLevel.toList
  | .config => given.config.toList

/-- Arguments with one option as it is in others. -/
def withSetting (given wanted : Arguments) : Setting → Arguments
  | .maxCellCount => { given with maxCellCount := wanted.maxCellCount }
  | .maxLineInCell => { given with maxLineInCell := wanted.maxLineInCell }
  | .maxTotalLineInNotebook =>
    { given with maxTotalLineInNotebook := wanted.maxTotalLineInNotebook }
  | .excludePatterns => { given with excludePatterns := wanted.excludePatterns }
  | .output => { given with output := wanted.output }
  | .jobs => { given with jobs := wanted.jobs }
  | .logLevel => { given with logLevel := wanted.logLevel }
  | .config => { given with config := wanted.config }

/-- Taking over an option leaves the flags as they are. -/
@[simp] theorem has_withSetting (given wanted : Arguments) (setting : Setting) :
    (given.withSetting wanted setting).has = given.has := by
  funext flag
  cases setting <;> cases flag <;> rfl

/-- The option that is taken over is as in the others, and no other option changes. -/
@[simp] theorem texts_withSetting (given wanted : Arguments) (setting other : Setting) :
    (given.withSetting wanted setting).texts other =
      if setting = other then wanted.texts other else given.texts other := by
  cases setting <;> cases other <;> rfl

/-- Taking over an option leaves the paths as they are. -/
@[simp] theorem paths_withSetting (given wanted : Arguments) (setting : Setting) :
    (given.withSetting wanted setting).paths = given.paths := by
  cases setting <;> rfl

/-- Taking over an option leaves the checks as they are. -/
@[simp] theorem checks_withSetting (given wanted : Arguments) (setting : Setting) :
    (given.withSetting wanted setting).checks = given.checks := by
  cases setting <;> rfl

/-- The checks stand in the order of reports. -/
def InOrder (given : Arguments) : Prop :=
  given.checks = CheckKind.all.filter fun kind => given.checks.contains kind

/-- The arguments that a command line can ask for. -/
structure Sayable (given : Arguments) : Prop where
  /-- The checks stand in the order of reports. -/
  inOrder : given.InOrder
  /-- The numbers have 64 bits. -/
  inRange : ∀ count ∈ [given.maxCellCount, given.maxLineInCell, given.maxTotalLineInNotebook,
    given.jobs], ∀ n ∈ count, n ≤ Text.maxNatural
  /-- The path of the configuration file is not empty. -/
  config : given.config ≠ some ""
  /-- No path is empty. -/
  paths : "" ∉ given.paths

end Arguments

namespace CommandLine

/-- What an occurrence says for an option. -/
def Occurrence.texts (setting : Setting) : Occurrence → List String
  | .setting other values => if other = setting then values else []
  | .flag _ | .paths _ => []

/-- The paths of an occurrence. -/
def Occurrence.pathTexts : Occurrence → List String
  | .paths values => values
  | .flag _ | .setting _ _ => []

/-- Occurrences mean arguments. -/
structure Means (said : List Occurrence) (given : Arguments) : Prop where
  /-- The flags that are said are set. -/
  has : ∀ flag, given.has flag = true ↔ .flag flag ∈ said
  /-- What is said for an option is given for it, in the same order. -/
  texts : ∀ setting, given.texts setting = said.flatMap (Occurrence.texts setting)
  /-- The paths are given in the same order. -/
  paths : given.paths = said.flatMap Occurrence.pathTexts
  /-- The checks stand in the order of reports. -/
  inOrder : given.InOrder

/-- Occurrences are orderly if no flag comes twice and no option comes without a value. -/
structure Orderly (said : List Occurrence) : Prop where
  /-- No flag comes twice. -/
  once : ∀ flag, said.count (.flag flag) ≤ 1
  /-- No option comes without a value. -/
  valued : ∀ setting, .setting setting [] ∉ said

/-- Taking in an occurrence adds what it says. -/
structure Takes (given : Arguments) (occurrence : Occurrence) (next : Arguments) : Prop where
  /-- A flag is set if it was before or is said. -/
  has : ∀ flag, next.has flag = true ↔ given.has flag = true ∨ .flag flag = occurrence
  /-- The values of an option are added. -/
  texts : ∀ setting, next.texts setting = given.texts setting ++ occurrence.texts setting
  /-- Paths are added. -/
  paths : next.paths = given.paths ++ occurrence.pathTexts
  /-- The checks stand in the order of reports. -/
  inOrder : next.InOrder

namespace Means

/-- Nothing said means the empty command line. -/
theorem nil : Means [] Arguments.empty where
  has flag := by cases flag <;> simp [Arguments.has, Arguments.empty]
  texts setting := by cases setting <;> rfl
  paths := rfl
  inOrder := rfl

/-- One more occurrence means what it adds. -/
theorem snoc {said : List Occurrence} {given next : Arguments} {occurrence : Occurrence}
    (h : Means said given) (hnext : Takes given occurrence next) :
    Means (said ++ [occurrence]) next where
  has flag := by rw [hnext.has, h.has, List.mem_append, List.mem_singleton]
  texts setting := by
    rw [hnext.texts, h.texts, List.flatMap_append, List.flatMap_singleton]
  paths := by rw [hnext.paths, h.paths, List.flatMap_append, List.flatMap_singleton]
  inOrder := hnext.inOrder

/-- Optional values are the same if both are missing or both are there and the same. -/
theorem eq_of_toList {α : Type} {one other : Option α} (h : one.toList = other.toList) :
    one = other := by
  cases one <;> cases other <;> simp_all

/-- Optional values are the same if their texts are. -/
theorem eq_of_texts {α : Type} {text : α → String} (htext : Function.Injective text)
    {one other : Option α} (h : (one.map text).toList = (other.map text).toList) : one = other :=
  Option.map_injective htext (eq_of_toList h)

/-- Occurrences mean at most one command line. -/
theorem unique {said : List Occurrence} {one other : Arguments} (h : Means said one)
    (h' : Means said other) : one = other := by
  have hhas (flag : Flag) : one.has flag = other.has flag :=
    Bool.eq_iff_iff.mpr ((h.has flag).trans (h'.has flag).symm)
  have htexts (setting : Setting) : one.texts setting = other.texts setting :=
    (h.texts setting).trans (h'.texts setting).symm
  have hnumber (setting : Setting) {m n : Option Nat}
      (hm : one.texts setting = (m.map toString).toList)
      (hn : other.texts setting = (n.map toString).toList) : m = n :=
    eq_of_texts Text.toString_injective (hm.symm.trans ((htexts setting).trans hn))
  have hchecks : one.checks = other.checks := by
    rw [h.inOrder, h'.inOrder]
    exact List.filter_congr fun kind _ => hhas (.check kind)
  cases one
  cases other
  simp only [Arguments.mk.injEq]
  exact ⟨h.paths.trans h'.paths.symm, hchecks, hhas .executeWithoutParameters,
    hnumber .maxCellCount rfl rfl, hnumber .maxLineInCell rfl rfl,
    hnumber .maxTotalLineInNotebook rfl rfl, htexts .excludePatterns, hhas .verbose,
    eq_of_texts OutputMode.name_injective (htexts .output), hhas .noColor, hnumber .jobs rfl rfl,
    eq_of_toList (htexts .logLevel), eq_of_toList (htexts .config)⟩

end Means

section Add

variable {given wanted : Arguments}

/-- A flag that is not set yet is taken in. -/
theorem takes_addFlag (hgiven : given.InOrder) {flag : Flag} (hflag : given.has flag = false) :
    ∃ next, given.addFlag flag = .ok next ∧ Takes given (.flag flag) next := by
  cases flag with
  | check kind =>
    refine ⟨_, if_neg (Bool.eq_false_iff.mp hflag), ?_, ?_, (List.append_nil _).symm, ?_⟩
    · intro other
      cases other <;> simp [Arguments.has, CheckKind.mem_all, or_comm]
    · intro setting
      cases setting <;> exact (List.append_nil _).symm
    · exact List.filter_congr fun other _ => by simp [CheckKind.mem_all]
  | executeWithoutParameters | verbose | noColor =>
    refine ⟨_, if_neg (Bool.eq_false_iff.mp hflag), ?_, ?_, (List.append_nil _).symm, hgiven⟩
    · intro other
      cases other <;> simp [Arguments.has]
    · intro setting
      cases setting <;> exact (List.append_nil _).symm

/-- The one value of an option is read if it is the text of what is wanted and none was given
before. -/
theorem single_eq_ok {α : Type} {before after : Option α} {text : α → String}
    {read : String → Except Mistake α} {value : String} (hbefore : (before.map text).toList = [])
    (hafter : (after.map text).toList = [value]) (hread : ∀ a ∈ after, read (text a) = .ok a) :
    Arguments.single before read [value] = .ok after := by
  cases before with
  | some a => cases hbefore
  | none =>
    cases after with
    | none => cases hafter
    | some a =>
      obtain rfl : text a = value := List.singleton_inj.mp hafter
      simp [Arguments.single, hread a rfl, Except.map]

/-- A value that is a text is its own text. -/
theorem single_eq_ok_of_toList {before after : Option String}
    {read : String → Except Mistake String} {value : String} (hbefore : before.toList = []) (hafter : after.toList = [value])
    (hread : ∀ a ∈ after, read a = .ok a) : Arguments.single before read [value] = .ok after := by
  have hsame (value? : Option String) : (value?.map id).toList = value?.toList :=
    congrArg Option.toList (congrFun Option.map_id value?)
  exact single_eq_ok ((hsame before).trans hbefore) ((hsame after).trans hafter) hread

/-- An option with one value takes in the text that arguments have for it which can be asked for. -/
theorem addSetting_single (hwanted : wanted.Sayable) {setting : Setting}
    (hsetting : setting.isOpenEnded = false) {value : String} (hgiven : given.texts setting = [])
    (hvalue : wanted.texts setting = [value]) :
    given.addSetting setting [value] = .ok (given.withSetting wanted setting) := by
  have hnumber {before after : Option Nat}
      (hmem : after ∈ [wanted.maxCellCount, wanted.maxLineInCell, wanted.maxTotalLineInNotebook,
        wanted.jobs]) (hbefore : (before.map toString).toList = [])
      (hafter : (after.map toString).toList = [value]) :
      Arguments.single before Arguments.readNumber [value] = .ok after := by
    refine single_eq_ok hbefore hafter fun n hn => ?_
    rw [Arguments.readNumber, Text.natural?_toString (hwanted.inRange after hmem n hn)]
  cases setting with
  | excludePatterns => cases hsetting
  | maxCellCount => exact congrArg (Except.map _) (hnumber (by simp) hgiven hvalue)
  | maxLineInCell => exact congrArg (Except.map _) (hnumber (by simp) hgiven hvalue)
  | maxTotalLineInNotebook => exact congrArg (Except.map _) (hnumber (by simp) hgiven hvalue)
  | jobs => exact congrArg (Except.map _) (hnumber (by simp) hgiven hvalue)
  | output =>
    refine congrArg (Except.map _) (single_eq_ok hgiven hvalue fun mode _ => ?_)
    rw [Arguments.readOutput, mode.ofName?_name]
  | logLevel =>
    have hread : Arguments.single given.logLevel .ok [value] = .ok wanted.logLevel :=
      single_eq_ok_of_toList hgiven hvalue fun _ _ => rfl
    exact congrArg (Except.map _) hread
  | config =>
    have hread : Arguments.single given.config Arguments.readPath [value] = .ok wanted.config := by
      refine single_eq_ok_of_toList hgiven hvalue fun path hpath => ?_
      have hsome : path ≠ "" := fun h => hwanted.config (h ▸ hpath)
      simp [Arguments.readPath, hsome]
    exact congrArg (Except.map _) hread

/-- Taking in an option changes this option only. -/
theorem takes_withSetting (hgiven : given.InOrder) {setting : Setting} {values : List String}
    (htexts : wanted.texts setting = given.texts setting ++ values) :
    Takes given (.setting setting values) (given.withSetting wanted setting) where
  has flag := by simp
  texts other := by
    by_cases hother : setting = other
    · subst hother
      simp [Occurrence.texts, htexts]
    · simp [Occurrence.texts, hother]
  paths := by simp [Occurrence.pathTexts]
  inOrder := by simpa [Arguments.InOrder] using hgiven

/-- Arguments have at most one text for an option unless it is open-ended. -/
theorem length_texts_le_one {setting : Setting} (hsetting : setting.isOpenEnded = false) :
    (given.texts setting).length ≤ 1 := by
  have honce (value? : Option String) : value?.toList.length ≤ 1 := by cases value? <;> simp
  cases setting with
  | excludePatterns => cases hsetting
  | maxCellCount | maxLineInCell | maxTotalLineInNotebook | output | jobs | logLevel | config =>
    exact honce _

/-- What an option is given is taken in if it continues towards the texts of arguments that can be
asked for. -/
theorem takes_addSetting (hgiven : given.InOrder) (hwanted : wanted.Sayable) {setting : Setting}
    {values : List String} (hvalues : values ≠ [])
    (htexts : given.texts setting ++ values <+: wanted.texts setting) :
    ∃ next, given.addSetting setting values = .ok next ∧
      Takes given (.setting setting values) next := by
  cases hopen : setting.isOpenEnded with
  | true =>
    obtain rfl : setting = .excludePatterns := by
      cases setting <;> first
        | rfl
        | cases hopen
    let longer : Arguments := { given with excludePatterns := given.excludePatterns ++ values }
    have htakes : Takes given (.setting .excludePatterns values) (given.withSetting longer _) :=
      takes_withSetting hgiven rfl
    exact ⟨longer, if_neg (by simpa using hvalues), htakes⟩
  | false =>
    obtain ⟨value, more, rfl⟩ := List.exists_cons_of_ne_nil hvalues
    obtain ⟨after, hafter⟩ := htexts
    have hlength : (wanted.texts setting).length ≤ 1 := length_texts_le_one hopen
    rw [← hafter] at hlength
    simp only [List.length_append, List.length_cons] at hlength
    -- nothing was given before, and nothing follows
    obtain hbefore : given.texts setting = [] := List.eq_nil_of_length_eq_zero (by omega)
    obtain rfl : more = [] := List.eq_nil_of_length_eq_zero (by omega)
    obtain rfl : after = [] := List.eq_nil_of_length_eq_zero (by omega)
    rw [hbefore] at hafter
    exact ⟨_, addSetting_single hwanted hopen hbefore hafter.symm,
      takes_withSetting hgiven (by rw [hbefore, ← hafter]; rfl)⟩

/-- Paths that are not empty are taken in. -/
theorem takes_addPaths (hgiven : given.InOrder) {values : List String} (hvalues : "" ∉ values) :
    ∃ next, given.addPaths values = .ok next ∧ Takes given (.paths values) next := by
  have hread : values.mapM Arguments.readPath = .ok values := by
    induction values with
    | nil => rfl
    | cons value values ih =>
      rw [List.mem_cons, not_or] at hvalues
      rw [List.mapM_cons, Arguments.readPath, if_neg (by simpa using Ne.symm hvalues.1),
        ih hvalues.2]
      rfl
  refine ⟨_, congrArg (Except.map _) hread, ?_, ?_, rfl, hgiven⟩
  · intro flag
    cases flag <;> simp [Arguments.has]
  · intro setting
    cases setting <;> exact (List.append_nil _).symm

end Add

section Run

variable {wanted : Arguments}

/-- An occurrence is taken in after others if together with what follows they mean arguments that
can be asked for. -/
theorem takes_add (hwanted : wanted.Sayable) {said rest : List Occurrence} {occurrence : Occurrence}
    (hmeans : Means (said ++ occurrence :: rest) wanted)
    (hsaid : Orderly (said ++ occurrence :: rest)) {given : Arguments} (hgiven : Means said given) :
    ∃ next, given.add occurrence = .ok next ∧ Takes given occurrence next := by
  cases occurrence with
  | flag flag =>
    refine takes_addFlag hgiven.inOrder (Bool.eq_false_iff.mpr fun hflag => ?_)
    have hbefore : 0 < said.count (.flag flag) :=
      List.count_pos_iff.mpr ((hgiven.has flag).mp hflag)
    have honce := hsaid.once flag
    rw [List.count_append, List.count_cons_self] at honce
    omega
  | setting setting values =>
    refine takes_addSetting hgiven.inOrder hwanted ?_ ?_
    · rintro rfl
      exact hsaid.valued setting (by simp)
    · rw [hmeans.texts, hgiven.texts]
      exact ⟨rest.flatMap (Occurrence.texts setting), by simp [Occurrence.texts]⟩
  | paths values =>
    refine takes_addPaths hgiven.inOrder fun hempty => hwanted.paths ?_
    rw [hmeans.paths]
    simp [Occurrence.pathTexts, hempty]

/-- Occurrences that mean arguments which can be asked for yield them. -/
theorem foldlM_add_of_means (hwanted : wanted.Sayable) {said : List Occurrence}
    (hmeans : Means said wanted) (hsaid : Orderly said) :
    said.foldlM Arguments.add Arguments.empty = .ok wanted := by
  have hrun (done rest : List Occurrence) (given : Arguments) (hall : done ++ rest = said)
      (hgiven : Means done given) :
      ∃ next, rest.foldlM Arguments.add given = .ok next ∧ Means said next := by
    induction rest generalizing done given with
    | nil =>
      rw [List.append_nil] at hall
      exact ⟨given, rfl, hall ▸ hgiven⟩
    | cons occurrence rest ih =>
      subst hall
      obtain ⟨next, hadd, htakes⟩ := takes_add hwanted hmeans hsaid hgiven
      obtain ⟨last, hrest, hlast⟩ := ih (done ++ [occurrence]) next (by simp) (hgiven.snoc htakes)
      exact ⟨last, by rw [List.foldlM_cons, hadd]; exact hrest, hlast⟩
  obtain ⟨given, hfold, hgiven⟩ := hrun [] said Arguments.empty rfl .nil
  rw [hfold, hgiven.unique hmeans]

end Run

end CommandLine

end NotebookLint
