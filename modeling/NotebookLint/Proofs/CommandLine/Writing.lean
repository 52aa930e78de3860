import Mathlib.Data.List.Count
import NotebookLint.Proofs.CommandLine.Meaning

/-!
# Writing command lines

Arguments are written as phrases, a phrase for a flag and phrases for options whose values are
attached to the name or stand apart, and behind a lone double dash the paths. The phrases may come
in any order and a name with underscores may be spelled with dashes. Whatever is chosen, the words
are cut into what the phrases say: a phrase begins with a dash, so it ends the one before it, which
matters for the values of the open-ended option.
-/

namespace NotebookLint.CommandLine

/-- The name of a flag. -/
def Flag.name : Flag → String
  | .check kind => kind.name
  | .executeWithoutParameters => "execute_without_parameters"
  | .verbose => "verbose"
  | .noColor => "no-color"

/-- The flags. -/
def Flag.all : List Flag :=
  CheckKind.all.map .check ++ [.executeWithoutParameters, .verbose, .noColor]

/-- There are no others. -/
theorem Flag.mem_all (flag : Flag) : flag ∈ all := by
  cases flag with
  | check kind => cases kind <;> decide
  | executeWithoutParameters | verbose | noColor => decide

/-- The name of an option. -/
def Setting.name : Setting → String
  | .maxCellCount => "max_cell_count"
  | .maxLineInCell => "max_line_in_cell"
  | .maxTotalLineInNotebook => "max_total_line_in_nb"
  | .excludePatterns => "exclude_patterns"
  | .output => "output"
  | .jobs => "jobs"
  | .logLevel => "log-level"
  | .config => "config"

/-- The options. -/
def Setting.all : List Setting :=
  [.maxCellCount, .maxLineInCell, .maxTotalLineInNotebook, .excludePatterns, .output, .jobs,
    .logLevel, .config]

/-- There are no others. -/
theorem Setting.mem_all (setting : Setting) : setting ∈ all := by
  cases setting <;> decide

/-- How a name is spelled. -/
inductive Spelling where
  /-- With its underscores. -/
  | underscores
  /-- With dashes in the place of underscores. -/
  | dashes
  deriving DecidableEq, Repr

/-- A name in a spelling. -/
def Spelling.spell (name : String) : Spelling → String
  | .underscores => name
  | .dashes => String.ofList (name.toList.map fun c => if c = '_' then '-' else c)

/-- A flag or an option with values, as it is written. -/
inductive Phrase where
  /-- A flag. -/
  | flag (flag : Flag) (spelling : Spelling)
  /-- An option with a value that is attached to its name. -/
  | attached (setting : Setting) (spelling : Spelling) (value : String)
  /-- An option with values that stand apart. -/
  | apart (setting : Setting) (spelling : Spelling) (value : String) (more : List String)
  deriving DecidableEq, Repr

namespace Phrase

/-- The words of a phrase. -/
def words : Phrase → List String
  | .flag which spelling => ["--" ++ spelling.spell which.name]
  | .attached setting spelling value => ["--" ++ spelling.spell setting.name ++ "=" ++ value]
  | .apart setting spelling value more => ("--" ++ spelling.spell setting.name) :: value :: more

/-- What a phrase says. -/
def occurrence : Phrase → Occurrence
  | .flag which _ => .flag which
  | .attached setting _ value => .setting setting [value]
  | .apart setting _ value more => .setting setting (value :: more)

/-- Whether values can stand apart as they do: none begins with a dash, and there is only one unless
the option is open-ended. -/
def Proper : Phrase → Prop
  | .flag _ _ | .attached _ _ _ => True
  | .apart setting _ value more =>
    (∀ word ∈ value :: more, word.toList.head? ≠ some '-') ∧
      (more = [] ∨ setting.isOpenEnded = true)

instance (phrase : Phrase) : Decidable phrase.Proper :=
  match phrase with
  | .flag _ _ | .attached _ _ _ => .isTrue trivial
  | .apart _ _ _ _ => inferInstanceAs (Decidable (_ ∧ _))

end Phrase

/-- Phrases write arguments, the paths apart. -/
structure Writes (phrases : List Phrase) (given : Arguments) : Prop where
  /-- Values that stand apart can do so. -/
  proper : ∀ phrase ∈ phrases, phrase.Proper
  /-- The flags that are set are written once, and no others. -/
  flags : ∀ flag, (phrases.map Phrase.occurrence).count (.flag flag) =
    if given.has flag then 1 else 0
  /-- What is given for an option is written in order. -/
  texts : ∀ setting, (phrases.map Phrase.occurrence).flatMap (Occurrence.texts setting) =
    given.texts setting

/-- The words of phrases, followed by paths. -/
def write (phrases : List Phrase) (paths : List String) : List String :=
  phrases.flatMap Phrase.words ++ "--" :: paths

/-- The words of the first phrase come first. -/
theorem write_cons (phrase : Phrase) (phrases : List Phrase) (paths : List String) :
    write (phrase :: phrases) paths = phrase.words ++ write phrases paths := by
  simp [write]

/-- What is said by paths at the end. -/
def pathsSaid : List String → List Occurrence
  | [] => []
  | path :: paths => [.paths (path :: paths)]

/-- Paths set no flag. -/
@[simp] theorem flag_not_mem_pathsSaid (flag : Flag) (paths : List String) :
    .flag flag ∉ pathsSaid paths := by
  cases paths <;> simp [pathsSaid]

/-- Paths say nothing for an option. -/
@[simp] theorem texts_pathsSaid (setting : Setting) (paths : List String) :
    (pathsSaid paths).flatMap (Occurrence.texts setting) = [] := by
  cases paths <;> rfl

/-- Paths are said as they are. -/
@[simp] theorem pathTexts_pathsSaid (paths : List String) :
    (pathsSaid paths).flatMap Occurrence.pathTexts = paths := by
  cases paths <;> simp [pathsSaid, Occurrence.pathTexts]

section Name

/-- A flag is known by its name in both spellings. -/
theorem longName?_flag (flag : Flag) (spelling : Spelling) :
    longName? (spelling.spell flag.name).toList = some (.flag flag) := by
  have hall : ∀ flag ∈ Flag.all, ∀ spelling ∈ [Spelling.underscores, .dashes],
      longName? (spelling.spell flag.name).toList = some (.flag flag) := by decide +kernel
  exact hall flag flag.mem_all spelling (by cases spelling <;> decide)

/-- An option is known by its name in both spellings. -/
theorem longName?_setting (setting : Setting) (spelling : Spelling) :
    longName? (spelling.spell setting.name).toList = some (.setting setting) := by
  have hall : ∀ setting ∈ Setting.all, ∀ spelling ∈ [Spelling.underscores, .dashes],
      longName? (spelling.spell setting.name).toList = some (.setting setting) := by decide +kernel
  exact hall setting setting.mem_all spelling (by cases spelling <;> decide)

/-- Names are letters, dashes and underscores. -/
theorem not_mem_of_longName? {name : List Char} {found : Name} (h : longName? name = some found) :
    name ≠ [] ∧ '=' ∉ name := by
  have hall : ∀ entry ∈ longNames, entry.1.toList ≠ [] ∧ '=' ∉ entry.1.toList := by decide +kernel
  obtain ⟨entry, hentry, -⟩ := Option.map_eq_some_iff.mp h
  obtain rfl : entry.1.toList = name := by simpa using List.find?_some hentry
  exact hall entry (List.mem_of_find?_eq_some hentry)

/-- A name ends at the first equals sign, behind which its value is. -/
theorem splitAttached_append {name : List Char} (h : '=' ∉ name) (value : List Char) :
    splitAttached (name ++ '=' :: value) = (name, some (String.ofList value)) := by
  have hall : ∀ c ∈ name, (c != '=') = true := fun c hc => bne_iff_ne.mpr fun heq => h (heq ▸ hc)
  rw [splitAttached, List.dropWhile_append_of_pos hall, List.takeWhile_append_of_pos hall]
  simp

/-- A name without an equals sign has no value. -/
theorem splitAttached_of_not_mem {name : List Char} (h : '=' ∉ name) :
    splitAttached name = (name, none) := by
  have hall : ∀ c ∈ name, (c != '=') = true := fun c hc => bne_iff_ne.mpr fun heq => h (heq ▸ hc)
  have hdrop : (name ++ []).dropWhile (· != '=') = [] := List.dropWhile_append_of_pos hall
  rw [List.append_nil] at hdrop
  rw [splitAttached, hdrop]

end Name

section Words

variable {rest : List String} {after : List Occurrence} {stop : Option Stop}

/-- A flag closes what has been begun. -/
theorem occurrences_flag {word : String} {name : List Char} {flag : Flag} (pending : Pending)
    (hword : word.toList = '-' :: '-' :: name) (hname : longName? name = some (.flag flag))
    (hrest : occurrences .nothing rest = (after, stop)) :
    occurrences pending (word :: rest) = (pending.close ++ .flag flag :: after, stop) := by
  obtain ⟨hnil, hequals⟩ := not_mem_of_longName? hname
  obtain ⟨first, more, rfl⟩ := List.exists_cons_of_ne_nil hnil
  rw [occurrences, hword]
  simp only [splitAttached_of_not_mem hequals, hname, hrest, List.append_assoc,
    List.singleton_append]

/-- So does an option with an attached value. -/
theorem occurrences_attached {word : String} {name value : List Char} {setting : Setting}
    (pending : Pending) (hword : word.toList = '-' :: '-' :: (name ++ '=' :: value))
    (hname : longName? name = some (.setting setting))
    (hrest : occurrences .nothing rest = (after, stop)) :
    occurrences pending (word :: rest) =
      (pending.close ++ .setting setting [String.ofList value] :: after, stop) := by
  obtain ⟨hnil, hequals⟩ := not_mem_of_longName? hname
  have hsplit := splitAttached_append hequals value
  obtain ⟨first, more, rfl⟩ := List.exists_cons_of_ne_nil hnil
  rw [List.cons_append] at hword hsplit
  rw [occurrences, hword]
  simp only [hsplit, hname, hrest, List.append_assoc, List.singleton_append]

/-- So does an option whose values follow, and they go on from it. -/
theorem occurrences_setting {word : String} {name : List Char} {setting : Setting}
    (pending : Pending) (hword : word.toList = '-' :: '-' :: name)
    (hname : longName? name = some (.setting setting))
    (hrest : occurrences (.setting setting []) rest = (after, stop)) :
    occurrences pending (word :: rest) = (pending.close ++ after, stop) := by
  obtain ⟨hnil, hequals⟩ := not_mem_of_longName? hname
  obtain ⟨first, more, rfl⟩ := List.exists_cons_of_ne_nil hnil
  rw [occurrences, hword]
  simp only [splitAttached_of_not_mem hequals, hname, hrest]

/-- A word that does not begin with a dash is a value of the option that has been begun, if the
option can have one more. -/
theorem occurrences_value {word : String} (hword : word.toList.head? ≠ some '-') {setting : Setting}
    {values : List String} (hmore : values = [] ∨ setting.isOpenEnded = true) :
    occurrences (.setting setting values) (word :: rest) =
      occurrences (.setting setting (values ++ [word])) rest := by
  have htake : Pending.takeWord (.setting setting values) word =
      ([], .setting setting (values ++ [word])) :=
    if_pos (by simpa using hmore)
  rw [occurrences]
  split
  -- first the three readings of a word with a dash in front
  · next hdash => simp [hdash] at hword
  · next hdash => simp [hdash] at hword
  · next hdash => simp [hdash] at hword
  · rw [htake]
    rfl

/-- So are all words of a row if the option is open-ended. -/
theorem occurrences_values {words : List String}
    (hwords : ∀ word ∈ words, word.toList.head? ≠ some '-') {setting : Setting}
    (hmore : words = [] ∨ setting.isOpenEnded = true) (values : List String) :
    occurrences (.setting setting values) (words ++ rest) =
      occurrences (.setting setting (values ++ words)) rest := by
  induction words generalizing values with
  | nil => simp
  | cons word words ih =>
    obtain ⟨hword, hrest⟩ := List.forall_mem_cons.mp hwords
    have hopen : setting.isOpenEnded = true := hmore.resolve_left (List.cons_ne_nil _ _)
    rw [List.cons_append, occurrences_value hword (.inr hopen), ih hrest (.inr hopen)]
    simp

/-- Behind a lone double dash there are paths only. -/
theorem occurrences_paths {pending : Pending} (hpending : ∀ values, pending ≠ .paths values)
    (paths : List String) :
    occurrences pending ("--" :: paths) = (pending.close ++ pathsSaid paths, none) := by
  have htake : pending.takePaths paths = pending.close ++ pathsSaid paths := by
    cases pending with
    | paths values => exact absurd rfl (hpending values)
    | nothing | setting => cases paths <;> simp [Pending.takePaths, pathsSaid]
  rw [← htake]
  rfl

/-- The words of phrases say what the phrases say, and the paths behind them. -/
theorem occurrences_write {phrases : List Phrase} (hphrases : ∀ phrase ∈ phrases, phrase.Proper)
    (paths : List String) {pending : Pending} (hpending : ∀ values, pending ≠ .paths values) :
    occurrences pending (write phrases paths) =
      (pending.close ++ (phrases.map Phrase.occurrence ++ pathsSaid paths), none) := by
  induction phrases generalizing pending with
  | nil => exact occurrences_paths hpending paths
  | cons phrase phrases ih =>
    obtain ⟨hphrase, hrest⟩ := List.forall_mem_cons.mp hphrases
    rw [write_cons]
    cases phrase with
    | flag which spelling =>
      exact occurrences_flag pending (by simp) (longName?_flag which spelling) (ih hrest nofun)
    | attached setting spelling value =>
      have hword : ("--" ++ spelling.spell setting.name ++ "=" ++ value).toList =
          '-' :: '-' :: ((spelling.spell setting.name).toList ++ '=' :: value.toList) := by simp
      have hread := occurrences_attached pending hword (longName?_setting setting spelling)
        (ih hrest nofun)
      rw [String.ofList_toList] at hread
      exact hread
    | apart setting spelling value more =>
      obtain ⟨hvalue, hwords⟩ := List.forall_mem_cons.mp hphrase.1
      refine occurrences_setting pending (by simp) (longName?_setting setting spelling) ?_
      calc occurrences (.setting setting []) (value :: (more ++ write phrases paths))
        _ = occurrences (.setting setting [value]) (more ++ write phrases paths) :=
          occurrences_value hvalue (.inl rfl)
        _ = occurrences (.setting setting (value :: more)) (write phrases paths) :=
          occurrences_values hwords hphrase.2 [value]
        _ = _ := ih hrest nofun

end Words

section Written

variable {given : Arguments} {phrases : List Phrase}

/-- A phrase has no paths. -/
theorem Phrase.pathTexts_occurrence (phrase : Phrase) : phrase.occurrence.pathTexts = [] := by
  cases phrase <;> rfl

/-- A phrase has a value if it is one of an option. -/
theorem Phrase.occurrence_ne (phrase : Phrase) (setting : Setting) :
    phrase.occurrence ≠ .setting setting [] := by
  cases phrase <;> simp [Phrase.occurrence]

/-- Phrases that write arguments mean them together with the paths. -/
theorem Writes.means (h : Writes phrases given) (hgiven : given.InOrder) :
    Means (phrases.map Phrase.occurrence ++ pathsSaid given.paths) given where
  has flag := by
    rw [List.mem_append, or_iff_left (flag_not_mem_pathsSaid flag given.paths),
      ← List.count_pos_iff, h.flags]
    cases given.has flag <;> simp
  texts setting := by
    rw [List.flatMap_append, h.texts, texts_pathsSaid, List.append_nil]
  paths := by
    rw [List.flatMap_append, pathTexts_pathsSaid, List.flatMap_map]
    simp [Phrase.pathTexts_occurrence]
  inOrder := hgiven

/-- Phrases that write arguments are orderly. -/
theorem Writes.orderly (h : Writes phrases given) :
    Orderly (phrases.map Phrase.occurrence ++ pathsSaid given.paths) where
  once flag := by
    rw [List.count_append, h.flags,
      List.count_eq_zero.mpr (flag_not_mem_pathsSaid flag given.paths)]
    split <;> decide
  valued setting hmem := by
    rcases List.mem_append.mp hmem with hphrase | hpaths
    · obtain ⟨phrase, -, hphrase⟩ := List.mem_map.mp hphrase
      exact phrase.occurrence_ne setting hphrase
    · cases hlast : given.paths <;> simp [hlast, pathsSaid] at hpaths

/-- The flags that are set, and every text with the name of its option. -/
def phrasesOf (given : Arguments) : List Phrase :=
  (Flag.all.filter given.has).map (fun flag => .flag flag .underscores) ++
    Setting.all.flatMap fun setting => (given.texts setting).map (.attached setting .underscores)

/-- What these say. -/
theorem occurrence_phrasesOf (given : Arguments) :
    (phrasesOf given).map Phrase.occurrence =
      (Flag.all.filter given.has).map .flag ++ Setting.all.flatMap fun setting =>
        (given.texts setting).map fun value => .setting setting [value] := by
  simp [phrasesOf, List.map_flatMap, Phrase.occurrence, Function.comp_def]

/-- Values that are said one by one are all said for their option. -/
theorem texts_values (setting other : Setting) (values : List String) :
    (values.map fun value => Occurrence.setting other [value]).flatMap (Occurrence.texts setting) =
      if other = setting then values else [] := by
  rw [List.flatMap_map]
  by_cases hother : other = setting <;> simp [Occurrence.texts, hother]

/-- They write arguments. -/
theorem writes_phrasesOf (given : Arguments) : Writes (phrasesOf given) given where
  proper phrase hphrase := by
    rcases List.mem_append.mp hphrase with hflag | hsetting
    · obtain ⟨flag, -, rfl⟩ := List.mem_map.mp hflag
      trivial
    · obtain ⟨setting, -, hvalue⟩ := List.mem_flatMap.mp hsetting
      obtain ⟨value, -, rfl⟩ := List.mem_map.mp hvalue
      trivial
  flags flag := by
    have hall : Flag.all.count flag = 1 := by
      cases flag with
      | check kind => cases kind <;> decide
      | executeWithoutParameters | verbose | noColor => decide
    have hinjective : Function.Injective Occurrence.flag := fun _ _ => Occurrence.flag.inj
    have hsettings : (Setting.all.flatMap fun setting => (given.texts setting).map fun value =>
        Occurrence.setting setting [value]).count (.flag flag) = 0 :=
      List.count_eq_zero.mpr (by simp)
    rw [occurrence_phrasesOf, List.count_append, hsettings,
      List.count_map_of_injective _ _ hinjective]
    split
    · rename_i hflag
      rw [List.count_filter hflag, hall]
    · rename_i hflag
      exact List.count_eq_zero.mpr (by simp [hflag])
  texts setting := by
    have hflags : ((Flag.all.filter given.has).map Occurrence.flag).flatMap
        (Occurrence.texts setting) = [] := by
      rw [List.flatMap_map]
      simp [Occurrence.texts]
    rw [occurrence_phrasesOf, List.flatMap_append, hflags, List.flatMap_assoc]
    simp only [texts_values]
    cases setting <;> simp [Setting.all]

end Written

/-- Every command line that asks for a run can be written, and however it is written, it is read
back: in any order of the phrases, with either spelling of each name, with values that are attached
or stand apart, and with any paths. -/
theorem parse_write (given : Arguments) (hgiven : given.Sayable) :
    (∃ phrases, Writes phrases given) ∧
      ∀ phrases, Writes phrases given →
        Arguments.parse (write phrases given.paths) = .ok given := by
  refine ⟨⟨_, writes_phrasesOf given⟩, fun phrases hphrases => ?_⟩
  have hsaid : occurrences .nothing (write phrases given.paths) =
      (phrases.map Phrase.occurrence ++ pathsSaid given.paths, none) :=
    occurrences_write hphrases.proper given.paths nofun
  have hfold := foldlM_add_of_means hgiven (hphrases.means hgiven.inOrder) hphrases.orderly
  simp only [Arguments.parse, hsaid, hfold]

/-- Values that are attached and values that stand apart between flags, and a path that looks like a
flag. -/
theorem parse_write_mixed :
    let given : Arguments :=
      { Arguments.empty with
        paths := ["-x", "a.ipynb"], checks := [.hasMarkdown, .execute], maxCellCount := some 5,
        excludePatterns := ["*a*", "b", "--c"], output := some .json }
    given.Sayable ∧
      Arguments.parse ["--execute", "--exclude-patterns", "*a*", "b", "--max-cell-count=5",
        "--has-md", "--exclude_patterns=--c", "--output", "json", "--", "-x", "a.ipynb"] =
        .ok given := by
  intro given
  have hgiven : given.Sayable :=
    { inOrder := rfl
      inRange := by decide +kernel
      config := by decide +kernel
      paths := by decide +kernel }
  let phrases : List Phrase :=
    [.flag (.check .execute) .underscores, .apart .excludePatterns .dashes "*a*" ["b"],
      .attached .maxCellCount .dashes "5", .flag (.check .hasMarkdown) .dashes,
      .attached .excludePatterns .underscores "--c", .apart .output .underscores "json" []]
  have hphrases : Writes phrases given :=
    { proper := by decide +kernel
      flags := fun flag => by
        cases flag with
        | check kind => cases kind <;> decide +kernel
        | executeWithoutParameters | verbose | noColor => decide +kernel
      texts := fun setting => by cases setting <;> decide +kernel }
  have hwords : write phrases given.paths = ["--execute", "--exclude-patterns", "*a*", "b",
      "--max-cell-count=5", "--has-md", "--exclude_patterns=--c", "--output", "json", "--", "-x",
      "a.ipynb"] := by decide +kernel
  exact ⟨hgiven, hwords ▸ (parse_write given hgiven).2 phrases hphrases⟩

end NotebookLint.CommandLine
