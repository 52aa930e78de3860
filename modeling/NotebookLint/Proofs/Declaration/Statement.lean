import NotebookLint.Proofs.Declaration.Standing

/-!
# Which statements declare parameters

A logical line declares a parameter exactly if a name at its beginning is followed by an equals sign,
or by a colon, an annotation and an equals sign, and no other equals sign comes directly after that
one. The name stands in the text of the cell, outside strings, comments and brackets, and neither
comparisons nor augmented assignments nor anything with a point or a bracket behind its first name
declare something.

What counts as an annotation is everything between the colon and the next equals sign. So a clause
whose keyword has its colon directly behind it is taken for an annotation of its keyword, and the
equals sign may belong to another statement on the line, to a call or even to a string.
-/

namespace NotebookLint.Declaration

open NotebookLint.Text NotebookLint.Literal

/-- Whether a text is an identifier of ASCII letters, digits and underscores. -/
def IsName (text : List Char) : Prop :=
  text.head?.any beginsName = true ∧ ∀ c ∈ text, continuesName c = true

/-- Whether a text holds an expression, which another equals sign does not begin. -/
def IsExpression (text : List Char) : Prop :=
  trim text ≠ [] ∧ (trim text).head? ≠ some '='

/-- The lines that assign an expression to a name, and what they declare. -/
inductive Assigns : List Char → Declaration → Prop where
  /-- A name, an equals sign, and an expression. -/
  | plain {name gap expression : List Char} (hname : IsName name) (hgap : isBlankText gap = true)
      (hexpression : IsExpression expression) :
      Assigns (name ++ (gap ++ '=' :: expression))
        ⟨String.ofList name, String.ofList (trim expression)⟩
  /-- A name, a colon, something without an equals sign, an equals sign, and an expression. -/
  | annotated {name gap hint expression : List Char} (hname : IsName name)
      (hgap : isBlankText gap = true) (hne : hint ≠ []) (hequals : '=' ∉ hint)
      (hexpression : IsExpression expression) :
      Assigns (name ++ (gap ++ ':' :: (hint ++ '=' :: expression)))
        ⟨String.ofList name, String.ofList (trim expression)⟩

/-- The words that are no names. -/
def keywords : List String :=
  ["False", "None", "True", "and", "as", "assert", "async", "await", "break", "class", "continue",
    "def", "del", "elif", "else", "except", "finally", "for", "from", "global", "if", "import", "in",
    "is", "lambda", "nonlocal", "not", "or", "pass", "raise", "return", "try", "while", "with", "yield"]

/-- Whether a word at the beginning of a line is followed by a colon or an equals sign. -/
def Heads (word line : List Char) : Prop :=
  ∃ gap c rest, isBlankText gap = true ∧ (c = ':' ∨ c = '=') ∧ line = word ++ (gap ++ c :: rest)

/-- The signs of comparisons. -/
def comparisonSigns : List (List Char) :=
  [['=', '='], ['!', '='], ['<'], ['>'], ['<', '='], ['>', '=']]

/-- The signs of augmented assignments. -/
def augmentedSigns : List (List Char) :=
  [['+', '='], ['-', '='], ['*', '='], ['/', '='], ['/', '/', '='], ['%', '='], ['@', '='],
    ['&', '='], ['|', '='], ['^', '='], ['>', '>', '='], ['<', '<', '='], ['*', '*', '=']]

/-- The signs behind which an attribute, a subscript or the arguments of a call begin. -/
def partSigns : List (List Char) :=
  [['.'], ['['], ['(']]

/-- The lines that are no assignments to a name. -/
inductive Declines : List Char → Prop where
  /-- A name with a sign of one of the three kinds behind it. -/
  | sign {name gap sign rest : List Char} (hname : IsName name) (hgap : isBlankText gap = true)
      (hsign : sign ∈ comparisonSigns ++ augmentedSigns ++ partSigns) :
      Declines (name ++ (gap ++ (sign ++ rest)))
  /-- A name with another word behind it, as in comparisons by `in` and `is`. -/
  | word {name gap rest : List Char} {c : Char} (hname : IsName name) (hgap : isBlankText gap = true)
      (hne : gap ≠ []) (hc : continuesName c = true) : Declines (name ++ (gap ++ c :: rest))
  /-- A keyword whose colon is not directly behind it, as in clauses with a condition. -/
  | clause {keyword : String} {gap rest : List Char} {c : Char} (hkeyword : keyword ∈ keywords)
      (hgap : isBlankText gap = true) (hc : isBlank c = false)
      (hend : gap = [] → continuesName c = false) (hcolon : c ≠ ':') (hequals : c ≠ '=') :
      Declines (keyword.toList ++ (gap ++ c :: rest))
  /-- No name, as in a line that begins with a string or a bracket. -/
  | noName {line : List Char} (hline : line.head?.any beginsName = false) : Declines line

section Line

variable {name gap rest expression : List Char} {c : Char}

/-- A blank continues no name. -/
theorem not_continuesName_of_isBlank (hc : isBlank c = true) : continuesName c = false := by
  have hall : ∀ d ∈ blanks, continuesName d = false := List.all_iff_forall_prop.mp (by decide)
  exact hall c (mem_blanks_of_isBlank hc)

/-- A name ends where something else begins. -/
theorem span_name_gap (rest : List Char) (hname : IsName name) (hgap : isBlankText gap = true)
    (hend : gap = [] → continuesName c = false) :
    (name ++ (gap ++ c :: rest)).takeWhile continuesName = name ∧
      (name ++ (gap ++ c :: rest)).dropWhile continuesName = gap ++ c :: rest := by
  refine span_append hname.2 fun d hd => ?_
  cases gap with
  | nil => exact Option.some.inj hd ▸ hend rfl
  | cons e gap =>
    obtain rfl : e = d := Option.some.inj hd
    exact not_continuesName_of_isBlank (List.all_eq_true.mp hgap e List.mem_cons_self)

/-- A name begins its line. -/
theorem head?_name_append (hname : IsName name) (line : List Char) :
    (name ++ line).head?.any beginsName = true := by
  obtain ⟨hbegins, -⟩ := hname
  cases name with
  | nil => cases hbegins
  | cons d name => exact hbegins

/-- Where the expression of an assignment begins. -/
theorem afterEquals_eq_some_iff {text : List Char} :
    afterEquals text = some expression ↔ ∃ gap, isBlankText gap = true ∧
      (text = gap ++ '=' :: expression ∨ ∃ hint, hint ≠ [] ∧ '=' ∉ hint ∧
        text = gap ++ ':' :: (hint ++ '=' :: expression)) := by
  constructor
  · intro h
    obtain ⟨gap, hgap, htext⟩ := exists_gap text
    refine ⟨gap, hgap, ?_⟩
    unfold afterEquals at h
    split at h
    · rename_i rest hskip
      obtain rfl := Option.some.inj h
      exact .inl (hskip ▸ htext)
    · rename_i rest hskip
      split at h
      · rename_i first hint equals expression' hbefore hafter
        obtain rfl := Option.some.inj h
        have hequals : equals = '=' := by
          have hhead := List.head?_dropWhile_not (· != '=') rest
          rw [hafter] at hhead
          simpa using hhead
        refine .inr ⟨first :: hint, List.cons_ne_nil _ _, ?_, ?_⟩
        · intro hmem
          rw [← hbefore] at hmem
          exact absurd (List.all_eq_true.mp List.all_takeWhile _ hmem) (by decide)
        · rw [htext, hskip, ← hequals, ← hbefore, ← hafter, List.takeWhile_append_dropWhile]
      · cases h
    · cases h
  · rintro ⟨gap, hgap, rfl | ⟨hint, hne, hequals, rfl⟩⟩
    · rw [afterEquals, skipBlanks_append hgap, skipBlanks_cons_of_not_isBlank rfl]
      rfl
    · have hinside : ∀ d ∈ hint, (d != '=') = true := fun d hd => by
        simpa using fun h : d = '=' => hequals (h ▸ hd)
      have hstop : ∀ d ∈ ('=' :: expression).head?, (d != '=') = false := by simp
      have hspan := span_append hinside hstop
      rw [afterEquals, skipBlanks_append hgap, skipBlanks_cons_of_not_isBlank rfl]
      obtain ⟨first, hint, rfl⟩ := List.exists_cons_of_ne_nil hne
      simp only [hspan.1, hspan.2]

/-- What a line declares whose name and expression are found. -/
theorem ofLine_of_afterEquals (hname : IsName name) (hgap : isBlankText gap = true)
    (hend : gap = [] → continuesName c = false)
    (hafter : afterEquals (gap ++ c :: rest) = some expression) (hexpression : IsExpression expression) :
    ofLine (name ++ (gap ++ c :: rest)) =
      some ⟨String.ofList name, String.ofList (trim expression)⟩ := by
  obtain ⟨htake, hdrop⟩ := span_name_gap rest hname hgap hend
  obtain ⟨hne, hequals⟩ := hexpression
  simp only [ofLine, htake, hdrop, hafter, if_pos (head?_name_append hname _)]
  generalize trim expression = raw at hne hequals ⊢
  split
  · exact absurd rfl hne
  · exact absurd rfl hequals
  · rfl

/-- A line that begins a name goes on with the rest of it. -/
theorem isName_takeWhile {line : List Char} (h : line.head?.any beginsName = true) :
    IsName (line.takeWhile continuesName) := by
  refine ⟨?_, List.all_eq_true.mp List.all_takeWhile⟩
  cases line with
  | nil => cases h
  | cons first line =>
    have hfirst : beginsName first = true := h
    have hcontinues : continuesName first = true := by
      simp only [beginsName, continuesName, Char.isAlphanum, Bool.or_eq_true] at hfirst ⊢
      exact hfirst.imp_left .inl
    rw [List.takeWhile_cons_of_pos hcontinues]
    exact hfirst

/-- A line declares exactly what it assigns. -/
theorem ofLine_eq_some_iff {line : List Char} {declaration : Declaration} :
    ofLine line = some declaration ↔ Assigns line declaration := by
  constructor
  · intro h
    have hline : line = line.takeWhile continuesName ++ line.dropWhile continuesName :=
      List.takeWhile_append_dropWhile.symm
    simp only [ofLine] at h
    split at h
    case isFalse => cases h
    rename_i hbegins
    have hname := isName_takeWhile hbegins
    split at h
    · cases h
    · rename_i expression hafter
      split at h
      · cases h
      · cases h
      · rename_i hnil hdoubled
        obtain rfl := Option.some.inj h
        have hexpression : IsExpression expression := by
          refine ⟨hnil, fun hhead => ?_⟩
          obtain ⟨more, hmore⟩ := List.head?_eq_some_iff.mp hhead
          exact hdoubled more hmore
        obtain ⟨gap, hgap, hsplit | ⟨hint, hne, hequals, hsplit⟩⟩ :=
          afterEquals_eq_some_iff.mp hafter
        · rw [hsplit] at hline
          have hassigns := Assigns.plain hname hgap hexpression
          rwa [← hline] at hassigns
        · rw [hsplit] at hline
          have hassigns := Assigns.annotated hname hgap hne hequals hexpression
          rwa [← hline] at hassigns
  · intro h
    cases h with
    | plain hname hgap hexpression =>
      exact ofLine_of_afterEquals hname hgap (fun _ => rfl)
        (afterEquals_eq_some_iff.mpr ⟨_, hgap, .inl rfl⟩) hexpression
    | annotated hname hgap hne hequals hexpression =>
      exact ofLine_of_afterEquals hname hgap (fun _ => rfl)
        (afterEquals_eq_some_iff.mpr ⟨_, hgap, .inr ⟨_, hne, hequals, rfl⟩⟩) hexpression

/-- A name with anything but a colon or an equals sign behind it declares nothing. -/
theorem ofLine_eq_none_of_mark (hname : IsName name) (hgap : isBlankText gap = true)
    (hend : gap = [] → continuesName c = false) (hc : isBlank c = false) (hcolon : c ≠ ':')
    (hequals : c ≠ '=') : ofLine (name ++ (gap ++ c :: rest)) = none := by
  obtain ⟨-, hdrop⟩ := span_name_gap rest hname hgap hend
  have hafter : afterEquals (gap ++ c :: rest) = none := by
    rw [afterEquals, skipBlanks_append hgap, skipBlanks_cons_of_not_isBlank hc]
    split
    · rename_i hskip
      exact absurd (List.cons.inj hskip).1 hequals
    · rename_i hskip
      exact absurd (List.cons.inj hskip).1 hcolon
    · rfl
  simp only [ofLine, hdrop, hafter, ite_self]

/-- A name with two equals signs behind it declares nothing. -/
theorem ofLine_eq_none_of_doubled (hname : IsName name) (hgap : isBlankText gap = true) :
    ofLine (name ++ (gap ++ '=' :: '=' :: rest)) = none := by
  obtain ⟨-, hdrop⟩ := span_name_gap (c := '=') ('=' :: rest) hname hgap fun _ => rfl
  have hafter : afterEquals (gap ++ '=' :: '=' :: rest) = some ('=' :: rest) :=
    afterEquals_eq_some_iff.mpr ⟨gap, hgap, .inl rfl⟩
  obtain ⟨more, hmore⟩ : ∃ more, trim ('=' :: rest) = '=' :: more := by
    have hprefix := trim_prefix_skipBlanks ('=' :: rest)
    rw [skipBlanks_cons_of_not_isBlank rfl rest] at hprefix
    cases htrim : trim ('=' :: rest) with
    | nil => cases (trim_eq_nil_iff _).mp htrim
    | cons d more =>
      rw [htrim] at hprefix
      exact ⟨more, by rw [(List.cons_prefix_cons.mp hprefix).1]⟩
  simp only [ofLine, hdrop, hafter, hmore, ite_self]

/-- The signs of the three kinds begin with a character that makes no assignment, but for two equals
signs. -/
theorem cases_of_sign {sign : List Char}
    (hsign : sign ∈ comparisonSigns ++ augmentedSigns ++ partSigns) :
    sign = ['=', '='] ∨ ∃ c rest, sign = c :: rest ∧ isBlank c = false ∧ continuesName c = false ∧
      c ≠ ':' ∧ c ≠ '=' := by
  have hall : ∀ sign ∈ comparisonSigns ++ augmentedSigns ++ partSigns, sign = ['=', '='] ∨
      sign.head?.any (fun c => !isBlank c && !continuesName c && c != ':' && c != '=') = true := by
    decide
  refine (hall sign hsign).imp_right fun hhead => ?_
  cases sign with
  | nil => cases hhead
  | cons c rest =>
    simp only [List.head?_cons, Option.any_some, Bool.and_eq_true, Bool.not_eq_true',
      bne_iff_ne] at hhead
    obtain ⟨⟨⟨hblank, hcontinues⟩, hcolon⟩, hequals⟩ := hhead
    exact ⟨c, rest, rfl, hblank, hcontinues, hcolon, hequals⟩

/-- Keywords are made of letters. -/
theorem isName_of_mem_keywords {keyword : String} (h : keyword ∈ keywords) :
    IsName keyword.toList := by
  have hall : ∀ keyword ∈ keywords, keyword.toList.head?.any beginsName = true ∧
      keyword.toList.all continuesName = true := by decide
  obtain ⟨hbegins, hcontinues⟩ := hall keyword h
  exact ⟨hbegins, List.all_eq_true.mp hcontinues⟩

/-- A line that is no assignment to a name declares nothing. -/
theorem ofLine_eq_none_of_declines {line : List Char} (h : Declines line) : ofLine line = none := by
  cases h with
  | sign hname hgap hsign =>
    rcases cases_of_sign hsign with rfl | ⟨c, sign, rfl, hblank, hcontinues, hcolon, hequals⟩
    · exact ofLine_eq_none_of_doubled hname hgap
    · exact ofLine_eq_none_of_mark hname hgap (fun _ => hcontinues) hblank hcolon hequals
  | @word _ _ _ c hname hgap hne hc =>
    have hblank : isBlank c = false := Bool.eq_false_iff.mpr fun hblank => by
      rw [not_continuesName_of_isBlank hblank] at hc
      cases hc
    refine ofLine_eq_none_of_mark hname hgap (fun hnil => absurd hnil hne) hblank ?_ ?_
    · rintro rfl
      cases hc
    · rintro rfl
      cases hc
  | clause hkeyword hgap hc hend hcolon hequals =>
    exact ofLine_eq_none_of_mark (isName_of_mem_keywords hkeyword) hgap hend hc hcolon hequals
  | noName hline => rw [ofLine, if_neg (by simp [hline])]

/-- The line of a declaration is headed by its name. -/
theorem Assigns.heads {line : List Char} {declaration : Declaration} (h : Assigns line declaration) :
    IsName declaration.name.toList ∧ Heads declaration.name.toList line ∧
      IsExpression declaration.raw.toList ∧ trim declaration.raw.toList = declaration.raw.toList := by
  cases h with
  | plain hname hgap hexpression =>
    simp only [String.toList_ofList, IsExpression, trim_trim]
    exact ⟨hname, ⟨_, _, _, hgap, .inr rfl, rfl⟩, hexpression, trivial⟩
  | annotated hname hgap _ _ hexpression =>
    simp only [String.toList_ofList, IsExpression, trim_trim]
    exact ⟨hname, ⟨_, _, _, hgap, .inl rfl, rfl⟩, hexpression, trivial⟩

end Line

/-- A cell declares what its logical lines assign to names. -/
theorem mem_ofCell_iff {source : String} {declaration : Declaration} :
    declaration ∈ ofCell source ↔
      ∃ line ∈ logicalLines source.toList, Assigns (trim line) declaration := by
  simp only [ofCell, List.mem_filterMap, ofLine_eq_some_iff]

/-- A cell declares exactly what its logical lines assign to names. Each name that is declared is an
identifier, which stands in the cell at the beginning of a logical line, outside strings, comments
and brackets, and its expression is given, trimmed and not begun by another equals sign. A name is no
keyword if no line has a keyword directly before a colon or an equals sign; and comparisons, augmented
assignments, assignments to attributes and subscripts, calls, clauses whose keyword has no colon
directly behind it, and lines without a name at their beginning declare nothing. -/
theorem ofCell_assigns (source : String) :
    (∀ declaration, declaration ∈ ofCell source ↔
        ∃ line ∈ logicalLines source.toList, Assigns (trim line) declaration) ∧
      (∀ declaration ∈ ofCell source,
        IsName declaration.name.toList ∧ StandsIn declaration.name.toList source.toList ∧
          declaration.raw.toList ≠ [] ∧ trim declaration.raw.toList = declaration.raw.toList ∧
          declaration.raw.toList.head? ≠ some '=') ∧
      ((∀ line ∈ logicalLines source.toList, ∀ keyword ∈ keywords,
          ¬Heads keyword.toList (trim line)) →
        ∀ declaration ∈ ofCell source, declaration.name ∉ keywords) ∧
      ∀ line ∈ logicalLines source.toList, Declines (trim line) →
        ∀ declaration, ¬Assigns (trim line) declaration := by
  refine ⟨fun declaration => mem_ofCell_iff, ?_, ?_, ?_⟩
  · intro declaration hdeclared
    obtain ⟨line, hline, hassigns⟩ := mem_ofCell_iff.mp hdeclared
    obtain ⟨hname, ⟨gap, c, rest, -, -, hsplit⟩, ⟨hne, hequals⟩, htrim⟩ := hassigns.heads
    rw [htrim] at hne hequals
    refine ⟨hname, ?_, hne, htrim, hequals⟩
    have hnil : declaration.name.toList ≠ [] := fun hnil => by
      rw [hnil] at hname
      cases hname.1
    exact standsIn_of_logicalLine hline hname.2 hnil (hsplit ▸ List.prefix_append _ _)
  · intro hnone declaration hdeclared hkeyword
    obtain ⟨line, hline, hassigns⟩ := mem_ofCell_iff.mp hdeclared
    exact hnone line hline _ hkeyword hassigns.heads.2.1
  · intro line _ hdeclines declaration hassigns
    have hnone := ofLine_eq_none_of_declines hdeclines
    rw [ofLine_eq_some_iff.mpr hassigns] at hnone
    cases hnone

/-- Clauses with a colon directly behind their keyword declare the keyword. A call or a string behind
a colon gives its equals sign to a declaration. -/
theorem ofCell_assigns_clause :
    ofCell "try: x = 1\nfinally: y = 2" = [⟨"try", "1"⟩, ⟨"finally", "2"⟩] ∧
      "try" ∈ keywords ∧ "finally" ∈ keywords ∧
      ofCell "x: f(a=1)" = [⟨"x", "1)"⟩] ∧ ofCell "x: 'a=b'" = [⟨"x", "b'"⟩] := by
  decide +kernel

end NotebookLint.Declaration
