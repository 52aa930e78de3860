import NotebookLint.Proofs.Engine.Failure

/-!
# How the line of a raised error is split

Where messages complain about no kernel and mention no raising cell, their last informative line may
be that of a raised error: a dotted name whose last part ends like the name of an error, a colon and
a message. Such a line is split at its first colon, whatever the message holds, into the last part of
the name and the message without the blanks before it.

The ending has to stand behind the first character of the dotted name. So a name that is nothing but
an ending, without qualifiers, is taken for none, and its line is the message as a whole.
-/

namespace NotebookLint.Engine

open NotebookLint.Text

/-- Whether a text is an identifier of ASCII letters, digits and underscores. -/
structure IsIdentifier (text : List Char) : Prop where
  /-- A letter or an underscore comes first. -/
  begins : ∃ first ∈ text.head?, first.isAlpha ∨ first = '_'
  /-- Letters, digits and underscores follow. -/
  continues : ∀ c ∈ text, c.isAlphanum ∨ c = '_'

instance (text : List Char) : Decidable (IsIdentifier text) :=
  decidable_of_iff (text.head?.any (fun c => c.isAlpha || c == '_') ∧
      text.all fun c => c.isAlphanum || c == '_') <| by
    simp only [Option.any_eq_true, List.all_eq_true, Bool.or_eq_true, beq_iff_eq]
    exact ⟨fun ⟨hfirst, hall⟩ => ⟨hfirst, hall⟩, fun h => ⟨h.begins, h.continues⟩⟩

/-- A dotted name: qualifiers, each with a point behind it, and the last part. -/
def dotted (qualifiers : List (List Char)) (last : List Char) : List Char :=
  qualifiers.flatMap (· ++ ['.']) ++ last

/-- Whether a text ends like the name of an error. -/
def EndsLikeError (text : List Char) : Prop :=
  ∃ ending ∈ ["Error", "Exception", "Interrupt", "Exit"], ending.toList <:+ text

/-- Whether a text is nothing but such an ending. -/
def IsBareEnding (text : List Char) : Prop :=
  ∃ ending ∈ ["Error", "Exception", "Interrupt", "Exit"], ending.toList = text

instance (text : List Char) : Decidable (EndsLikeError text) :=
  inferInstanceAs (Decidable (∃ ending ∈ ["Error", "Exception", "Interrupt", "Exit"], _))

instance (text : List Char) : Decidable (IsBareEnding text) :=
  inferInstanceAs (Decidable (∃ ending ∈ ["Error", "Exception", "Interrupt", "Exit"], _))

section Names

variable {qualifiers : List (List Char)} {last : List Char}

/-- ASCII letters, digits and underscores are characters of words. -/
theorem isWordChar_of_isAlphanum {c : Char} (h : c.isAlphanum ∨ c = '_') : isWordChar c := by
  have hascii : c.toNat < 0x80 := by
    rcases h with h | rfl
    · have hranges : (decide ('A'.val ≤ c.val ∧ c.val ≤ 'Z'.val) ||
          decide ('a'.val ≤ c.val) && decide (c.val ≤ 'z'.val) ||
          decide ('0'.val ≤ c.val) && decide (c.val ≤ '9'.val)) = true := h
      simp only [Bool.or_eq_true, Bool.and_eq_true, decide_eq_true_eq, UInt32.le_iff_toNat_le]
        at hranges
      have hcode : c.val.toNat = c.toNat := rfl
      have hupper : 'Z'.val.toNat = 90 := rfl
      have hlower : 'z'.val.toNat = 122 := rfl
      have hdigit : '9'.val.toNat = 57 := rfl
      omega
    · decide
  rw [isWordChar, if_pos hascii]
  simpa using h

/-- What stands in a dotted name. -/
theorem mem_dotted (hqualifiers : ∀ part ∈ qualifiers, IsIdentifier part) (hlast : IsIdentifier last) :
    ∀ c ∈ dotted qualifiers last, (c.isAlphanum ∨ c = '_') ∨ c = '.' := by
  intro c hc
  rw [dotted, List.mem_append, List.mem_flatMap] at hc
  rcases hc with ⟨part, hpart, hc⟩ | hc
  · rcases List.mem_append.mp hc with hc | hc
    · exact .inl ((hqualifiers part hpart).continues c hc)
    · exact .inr (List.mem_singleton.mp hc)
  · exact .inl (hlast.continues c hc)

/-- A dotted name begins like an identifier. -/
theorem exists_dotted_eq_cons (hqualifiers : ∀ part ∈ qualifiers, IsIdentifier part)
    (hlast : IsIdentifier last) :
    ∃ first rest, dotted qualifiers last = first :: rest ∧ (first.isAlpha ∨ first = '_') := by
  cases qualifiers with
  | nil =>
    obtain ⟨first, hhead, hfirst⟩ := hlast.begins
    obtain ⟨rest, rfl⟩ := List.head?_eq_some_iff.mp hhead
    exact ⟨first, rest, rfl, hfirst⟩
  | cons part more =>
    obtain ⟨first, hhead, hfirst⟩ := (hqualifiers part List.mem_cons_self).begins
    obtain ⟨rest, rfl⟩ := List.head?_eq_some_iff.mp hhead
    exact ⟨first, _, rfl, hfirst⟩

/-- The last part of a dotted name stands behind its last point. -/
theorem lastPart_dotted (hlast : IsIdentifier last) : lastPart (dotted qualifiers last) = last := by
  have hpoint : ∀ c ∈ last.reverse, (c != '.') = true := by
    intro c hc
    rw [bne_iff_ne]
    rintro rfl
    exact absurd (hlast.continues '.' (List.mem_reverse.mp hc)) (by decide)
  have hstop : (qualifiers.flatMap (· ++ ['.'])).reverse.takeWhile (· != '.') = [] := by
    induction qualifiers using List.reverseRecOn with
    | nil => rfl
    | append_singleton front part _ => simp
  rw [lastPart, dotted, List.reverse_append, List.takeWhile_append_of_pos hpoint, hstop,
    List.append_nil, List.reverse_reverse]

/-- Only a name that is nothing but an ending does not end like an error behind its first
character. -/
theorem endsLikeError_tail_iff {first : Char} {rest : List Char}
    (h : EndsLikeError (first :: rest)) :
    EndsLikeError rest ↔ ¬IsBareEnding (first :: rest) := by
  have hdistinct : ∀ bare ∈ ["Error", "Exception", "Interrupt", "Exit"],
      ∀ ending ∈ ["Error", "Exception", "Interrupt", "Exit"],
        ¬ending.toList <:+ bare.toList.tail := by
    decide
  constructor
  · rintro ⟨ending, hmem, hending⟩ ⟨bare, hbare, heq⟩
    refine hdistinct bare hbare ending hmem ?_
    rw [heq]
    exact hending
  · intro hbare
    obtain ⟨ending, hmem, hending⟩ := h
    rcases List.suffix_cons_iff.mp hending with heq | hrest
    · exact absurd ⟨ending, hmem, heq⟩ hbare
    · exact ⟨ending, hmem, hrest⟩

end Names

section Split

variable {qualifiers : List (List Char)} {last message : List Char}

/-- A name before a colon is recognised by its first character, its other characters and its
ending. -/
theorem exceptionLine_cons {first : Char} {rest : List Char} (hcolon : ':' ∉ first :: rest)
    (hfirst : first.isAlpha ∨ first = '_') (hrest : ∀ c ∈ rest, isWordChar c ∨ c = '.')
    (message : List Char) :
    exceptionLine (first :: rest ++ ':' :: message) =
      if EndsLikeError rest then some (lastPart (first :: rest), skipBlanks message) else none := by
  have hname : ∀ c ∈ first :: rest, (c != ':') = true := by
    intro c hc
    rw [bne_iff_ne]
    rintro rfl
    exact hcolon hc
  have hwritten : (first.isAlpha || first == '_') &&
      rest.all (fun c => isWordChar c || c == '.') := by
    simpa [List.all_eq_true] using ⟨hfirst, hrest⟩
  have hending : errorSuffixes.any (fun ending => ending.toList.isSuffixOf rest) ↔
      EndsLikeError rest := by
    simp only [List.any_eq_true, List.isSuffixOf_iff_suffix]
    rfl
  rw [exceptionLine, List.takeWhile_append_of_pos hname, List.dropWhile_append_of_pos hname,
    List.takeWhile_cons_of_neg (by simp), List.dropWhile_cons_of_neg (by simp), List.append_nil]
  dsimp only
  rw [hwritten, Bool.true_and]
  exact if_congr hending rfl rfl

/-- The line of an error is split unless its name is nothing but an ending. -/
theorem exceptionLine_dotted (hqualifiers : ∀ part ∈ qualifiers, IsIdentifier part)
    (hlast : IsIdentifier last) (hending : EndsLikeError last) (message : List Char) :
    exceptionLine (dotted qualifiers last ++ ':' :: message) =
      if IsBareEnding (dotted qualifiers last) then none
      else some (last, skipBlanks message) := by
  have hmem := mem_dotted hqualifiers hlast
  have hends : EndsLikeError (dotted qualifiers last) := by
    obtain ⟨ending, hknown, hsuffix⟩ := hending
    exact ⟨ending, hknown, hsuffix.trans (List.suffix_append _ last)⟩
  have hpart : lastPart (dotted qualifiers last) = last := lastPart_dotted hlast
  obtain ⟨first, rest, hname, hfirst⟩ := exists_dotted_eq_cons hqualifiers hlast
  rw [hname] at hmem hends hpart ⊢
  have hcolon : ':' ∉ first :: rest := fun hc => absurd (hmem ':' hc) (by decide)
  rw [exceptionLine_cons hcolon hfirst
    (fun c hc => (hmem c (List.mem_cons_of_mem first hc)).imp_left isWordChar_of_isAlphanum), hpart]
  by_cases hbare : IsBareEnding (first :: rest)
  · rw [if_pos hbare, if_neg (fun hrest => (endsLikeError_tail_iff hends).mp hrest hbare)]
  · rw [if_neg hbare, if_pos ((endsLikeError_tail_iff hends).mpr hbare)]

end Split

/-- Where messages complain about no kernel and mention no raising cell, and their last informative
line is a dotted name that ends like an error, a colon and a message, the last part of the name is
the error and the message is told without the blanks before it. Only where the whole name is nothing
but one of the endings the line is told as it is. -/
theorem classify_splits_exception {messages : List Char} {qualifiers : List (List Char)}
    {last message : List Char} (status : String) (hkernel : NamesNoKernel messages)
    (hcell : ¬"PapermillExecutionError".toList <:+: messages)
    (hqualifiers : ∀ part ∈ qualifiers, IsIdentifier part) (hlast : IsIdentifier last)
    (hending : EndsLikeError last)
    (hline : (informativeLines messages).getLast? =
      some (dotted qualifiers last ++ ':' :: message)) :
    classify messages status =
      if IsBareEnding (dotted qualifiers last) then
        .failed "EngineError" (String.ofList (dotted qualifiers last ++ ':' :: message))
      else .failed (String.ofList last) (String.ofList (skipBlanks message)) := by
  rw [hkernel.classify_of_last (afterCellError_eq_none hcell) hline,
    exceptionLine_dotted hqualifiers hlast hending]
  by_cases hbare : IsBareEnding (dotted qualifiers last)
  · rw [if_pos hbare, if_pos hbare]
  · rw [if_neg hbare, if_neg hbare]

/-- A qualified name that is nothing but an ending behind its point is split off, and so is only the
first of two names of errors. -/
theorem classify_splits_exception_qualified :
    let messages := "boom\nx.Exception:  KeyError: 'a'\n---".toList
    NamesNoKernel messages ∧ ¬"PapermillExecutionError".toList <:+: messages ∧
      classify messages "exit status: 1" = .failed "Exception" "KeyError: 'a'" := by
  intro messages
  have hkernel : NamesNoKernel messages := namesNoKernel_iff.mpr (by decide +kernel)
  have hcell : ¬"PapermillExecutionError".toList <:+: messages :=
    mt (mentions_iff _ _).mpr (by decide +kernel)
  have hqualifier : ∀ part ∈ [['x']], IsIdentifier part :=
    List.forall_mem_singleton.mpr (by decide)
  have hlast : IsIdentifier "Exception".toList := by decide
  have hline : (informativeLines messages).getLast? =
      some (dotted [['x']] "Exception".toList ++ ':' :: "  KeyError: 'a'".toList) := by
    decide +kernel
  refine ⟨hkernel, hcell, ?_⟩
  rw [classify_splits_exception "exit status: 1" hkernel hcell hqualifier hlast (by decide) hline]
  decide +kernel

/-- A name that is nothing but an ending is not split off, although it is the name of an error. -/
theorem classify_bare_exception :
    let messages := "Exception: boom".toList
    NamesNoKernel messages ∧ ¬"PapermillExecutionError".toList <:+: messages ∧
      IsIdentifier "Exception".toList ∧ EndsLikeError "Exception".toList ∧
      (informativeLines messages).getLast? =
        some (dotted [] "Exception".toList ++ ':' :: " boom".toList) ∧
      classify messages "exit status: 1" ≠ .failed "Exception" "boom" :=
  ⟨namesNoKernel_iff.mpr (by decide +kernel), mt (mentions_iff _ _).mpr (by decide +kernel),
    by decide, by decide, by decide +kernel, by decide +kernel⟩

end NotebookLint.Engine
