import NotebookLint.Proofs.Literal.Render

/-!
# Reading what was written

Reading a written value gives the value back if no more brackets nest than may be open at once,
and is refused for the nesting otherwise. For the refusal the reader is followed to the first
bracket that has no room: everything before it is read, since it nests less.
-/

namespace NotebookLint.Literal

open NotebookLint.Text

/-- Whether a reader refuses a text because of its nesting. -/
def TooDeep {α : Type} (result : Except Fault α) : Prop :=
  ∃ fault, result = .error fault ∧ fault.cause = .nestingTooDeep

section Inside

variable {reader : List Char → Step Value} {element : List Char → Value → Prop}

/-- Blanks in front of a value change nothing. -/
theorem Reads.gap (h : Reads reader element) {gap : List Char} (hgap : isBlankText gap)
    (text : List Char) : reader (gap ++ text) = reader text := by
  rw [← h.skips, skipBlanks_append hgap, h.skips]

/-- What refuses the first item refuses the items. -/
theorem readItems_tooDeep (h : Reads reader element) {close : Char} (hclose : isSeparator close)
    {text : List Char} (hhead : ∀ d ∈ (skipBlanks text).head?, isSeparator d = false)
    (hitem : TooDeep (reader text)) (fuel : Nat) (comma : Bool) :
    TooDeep (readItems reader close (fuel + 1) comma text) := by
  obtain ⟨fault, hread, hcause⟩ := hitem
  have hopen : (skipBlanks text).head? ≠ some close := fun heq => by
    simpa [hclose] using hhead close heq
  refine ⟨fault, ?_, hcause⟩
  rw [readItems]
  simp only [hopen, if_false, h.skips, hread]

/-- What refuses the items after the first refuses them all. -/
theorem readItems_tooDeep_more (h : Reads reader element) {close : Char} (hclose : isSeparator close)
    {text more : List Char} {item : Value} (hitem : Spaced element text item) {fuel : Nat}
    (hmore : TooDeep (readItems reader close fuel true more)) (comma : Bool) :
    TooDeep (readItems reader close (fuel + 1) comma (text ++ ',' :: more)) := by
  obtain ⟨fault, hread, hcause⟩ := hmore
  obtain ⟨after, hread', hafter, hhead⟩ := h.spaced hitem (c := ',') rfl more
  refine ⟨fault, ?_, hcause⟩
  rw [readItems_item h hclose hhead hread' hafter, if_pos rfl, hread]

/-- What refuses the value of the first pair refuses the pairs. -/
theorem readPairs_tooDeep (h : Reads reader element) {keyText valueText : List Char} {key : String}
    (hkey : Spaced element keyText (.text key)) (hvalue : TooDeep (reader valueText)) (fuel : Nat) :
    TooDeep (readPairs reader (fuel + 1) (keyText ++ ':' :: valueText)) := by
  obtain ⟨fault, hread, hcause⟩ := hvalue
  obtain ⟨afterKey, hreadKey, hcolon, hhead⟩ := h.spaced hkey (c := ':') rfl valueText
  have hopen : (skipBlanks (keyText ++ ':' :: valueText)).head? ≠ some '}' := fun heq => by
    simpa [isSeparator] using hhead '}' heq
  have hkeyRead : readKey reader (skipBlanks (keyText ++ ':' :: valueText)) = .ok (key, valueText) :=
    readKey_eq_ok_iff.mpr ⟨afterKey, by rw [h.skips, hreadKey], hcolon⟩
  refine ⟨fault, ?_, hcause⟩
  rw [readPairs]
  simp only [hopen, if_false, hkeyRead, hread]

/-- What refuses the pairs after the first refuses them all. -/
theorem readPairs_tooDeep_more (h : Reads reader element) {keyText text more : List Char} {key : String}
    {value : Value} (hkey : Spaced element keyText (.text key)) (hvalue : Spaced element text value)
    {fuel : Nat} (hmore : TooDeep (readPairs reader fuel more)) :
    TooDeep (readPairs reader (fuel + 1) (keyText ++ ':' :: (text ++ ',' :: more))) := by
  obtain ⟨fault, hread, hcause⟩ := hmore
  obtain ⟨afterKey, hreadKey, hcolon, hhead⟩ := h.spaced hkey (c := ':') rfl (text ++ ',' :: more)
  obtain ⟨after, hreadValue, hafter, -⟩ := h.spaced hvalue (c := ',') rfl more
  refine ⟨fault, ?_, hcause⟩
  rw [readPairs_pair h hhead hreadKey hcolon hreadValue, hafter]
  simp only [hread]

end Inside

/-- What refuses the inside of brackets refuses the brackets. -/
theorem readBracketed_tooDeep {reader : List Char → Step Value} {rest : List Char} {c close : Char}
    (hc : c = '[' ∧ close = ']' ∨ c = '(' ∧ close = ')')
    (h : TooDeep (readItems reader close (rest.length + 1) false rest)) :
    TooDeep (readBracketed reader (c :: rest)) := by
  obtain ⟨fault, hread, hcause⟩ := h
  refine ⟨fault, ?_, hcause⟩
  rcases hc with ⟨rfl, rfl⟩ | ⟨rfl, rfl⟩ <;> simp only [readBracketed, hread]

/-- What refuses the inside of braces refuses the braces. -/
theorem readBracketed_tooDeep_braces {reader : List Char → Step Value} {rest : List Char}
    (h : TooDeep (readPairs reader (rest.length + 1) rest)) :
    TooDeep (readBracketed reader ('{' :: rest)) := by
  obtain ⟨fault, hread, hcause⟩ := h
  exact ⟨fault, by simp only [readBracketed, hread], hcause⟩

/-- An opening bracket is refused if there is no room for it, or if its inside is. -/
theorem readValue_tooDeep_opening {room depth : Nat} (hdepth : room < depth + 1) {c : Char}
    (hc : isOpening c) {inside rest : List Char}
    (h : ∀ inner < depth, TooDeep (readBracketed (readValue inner) (c :: (inside ++ rest)))) :
    TooDeep (readValue room (c :: inside ++ rest)) := by
  rw [List.cons_append]
  cases room with
  | zero => exact ⟨⟨c :: (inside ++ rest), .nestingTooDeep⟩, readWith_opening _ _ hc, rfl⟩
  | succ inner =>
    rw [readValue, readWith_opening _ _ hc]
    exact h inner (Nat.lt_of_succ_lt_succ hdepth)

/-- The first of some texts comes first. -/
theorem exists_commaSeparated_cons (text : List Char) (texts : List (List Char)) :
    ∃ following, commaSeparated (text :: texts) = text ++ following := by
  cases texts with
  | nil => exact ⟨[], by rw [commaSeparated_singleton, List.append_nil]⟩
  | cons next texts => exact ⟨_, commaSeparated_cons_cons text next texts⟩

/-- Texts with a comma and a space between them have a character for each text but one. -/
theorem length_le_commaSeparated (texts : List (List Char)) :
    texts.length ≤ (commaSeparated texts).length + 1 := by
  induction texts with
  | nil => exact Nat.zero_le _
  | cons text texts ih =>
    cases texts with
    | nil => exact Nat.succ_le_succ (Nat.zero_le _)
    | cons next texts =>
      simp only [commaSeparated_cons_cons, List.length_append, List.length_cons] at ih ⊢
      omega

/-- The fuel of the readers of brackets suffices for what is written inside. -/
theorem length_le_length_inside {texts : List (List Char)} {count : Nat} (hcount : texts.length = count)
    (rest : List Char) : count ≤ (commaSeparated texts ++ rest).length + 1 := by
  have hle := length_le_commaSeparated texts
  rw [List.length_append]
  omega

namespace Datum

/-- Every item is written once. -/
theorem length_renderAll (items : List Datum) : (renderAll items).length = items.length := by
  induction items with
  | nil => rfl
  | cons item items ih => rw [renderAll, List.length_cons, List.length_cons, ih]

/-- Every entry is written once. -/
theorem length_renderEntries (entries : List (QuotedText × Datum)) :
    (renderEntries entries).length = entries.length := by
  induction entries with
  | nil => rfl
  | cons entry entries ih => rw [renderEntries, List.length_cons, List.length_cons, ih]

/-- What is written of a value begins neither with a blank nor with a separator. -/
theorem head?_render (datum : Datum) (hvalid : datum.Valid) {gap : List Char} (hgap : isBlankText gap)
    (rest : List Char) :
    ∀ d ∈ (skipBlanks (gap ++ (datum.render ++ rest))).head?, isSeparator d = false := by
  have hreads := readValue_reads datum.depth
  have hexpr := datum.expr_render hvalid (Nat.le_refl _)
  rw [skipBlanks_append hgap, hreads.skipBlanks_body hexpr]
  obtain ⟨c, tail, htext, -, hc⟩ := hreads.begins hexpr
  rw [htext]
  exact fun d hd => Option.some.inj hd ▸ hc

/-- An item without room among the first ones, or among those after it. -/
theorem tooDeep_cons {item : Datum} {items : List Datum} {room : Nat} (hvalid : item.Valid)
    (hdepth : room < depthAll (item :: items)) {gap : List Char} (hgap : isBlankText gap)
    (rest : List Char) {close : Char} (hclose : isSeparator close) (comma : Bool) {fuel : Nat}
    (hitem : room < item.depth → ∀ rest, TooDeep (readValue room (item.render ++ rest)))
    (hitems : room < depthAll items → TooDeep (readItems (readValue room) close fuel true
      ([' '] ++ (commaSeparated (renderAll items) ++ rest)))) :
    TooDeep (readItems (readValue room) close (fuel + 1) comma
      (gap ++ (commaSeparated (renderAll (item :: items)) ++ rest))) := by
  have hreads := readValue_reads room
  by_cases hdeep : room < item.depth
  · obtain ⟨following, hfollowing⟩ := exists_commaSeparated_cons item.render (renderAll items)
    rw [renderAll, hfollowing, List.append_assoc]
    refine readItems_tooDeep hreads hclose (head?_render item hvalid hgap _) ?_ fuel comma
    rw [hreads.gap hgap]
    exact hitem hdeep _
  · have hshallow : item.depth ≤ room := Nat.le_of_not_lt hdeep
    have hmore : room < depthAll items := by
      rw [depthAll] at hdepth
      omega
    have hspaced := spaced_of_element hgap (expr_render item hvalid hshallow)
    have hrefused := readItems_tooDeep_more hreads hclose hspaced (hitems hmore) comma
    cases items with
    | nil => exact absurd hmore (Nat.not_lt_zero room)
    | cons next items =>
      rw [renderAll] at hrefused ⊢
      rw [renderAll, commaSeparated_cons_cons]
      simpa using hrefused

/-- An entry without room in the first value, or among the entries after it. -/
theorem tooDeep_cons_entry {key : QuotedText} {value : Datum} {entries : List (QuotedText × Datum)}
    {room : Nat} (hvalid : value.Valid) (hdepth : room < depthEntries ((key, value) :: entries))
    {gap : List Char} (hgap : isBlankText gap) (rest : List Char) {fuel : Nat}
    (hvalue : room < value.depth → ∀ rest, TooDeep (readValue room (value.render ++ rest)))
    (hentries : room < depthEntries entries → TooDeep (readPairs (readValue room) fuel
      ([' '] ++ (commaSeparated (renderEntries entries) ++ rest)))) :
    TooDeep (readPairs (readValue room) (fuel + 1)
      (gap ++ (commaSeparated (renderEntries ((key, value) :: entries)) ++ rest))) := by
  have hreads := readValue_reads room
  have hkey := spaced_of_element hgap (expr_quotedText key room)
  by_cases hdeep : room < value.depth
  · obtain ⟨following, hfollowing⟩ :=
      exists_commaSeparated_cons (key.render ++ ':' :: ' ' :: value.render) (renderEntries entries)
    have hrefusedValue : TooDeep (readValue room ([' '] ++ (value.render ++ (following ++ rest)))) := by
      rw [hreads.gap isBlankText_space]
      exact hvalue hdeep _
    have hrefused := readPairs_tooDeep hreads hkey hrefusedValue fuel
    rw [renderEntries, hfollowing]
    simpa using hrefused
  · have hshallow : value.depth ≤ room := Nat.le_of_not_lt hdeep
    have hmore : room < depthEntries entries := by
      rw [depthEntries] at hdepth
      omega
    have hspaced := spaced_of_element isBlankText_space (expr_render value hvalid hshallow)
    have hrefused := readPairs_tooDeep_more hreads hkey hspaced (hentries hmore)
    cases entries with
    | nil => exact absurd hmore (Nat.not_lt_zero room)
    | cons next entries =>
      rw [renderEntries] at hrefused ⊢
      rw [renderEntries, commaSeparated_cons_cons]
      simpa using hrefused

mutual

/-- What is written of a value is refused if its brackets have no room. -/
theorem tooDeep_render (datum : Datum) {room : Nat} (hvalid : datum.Valid)
    (hdepth : room < datum.depth) (rest : List Char) :
    TooDeep (readValue room (datum.render ++ rest)) :=
  match datum with
  | .null | .bool _ | .int _ | .text _ => absurd hdepth (Nat.not_lt_zero room)
  | .list items =>
    readValue_tooDeep_opening hdepth rfl fun _ hinner =>
      readBracketed_tooDeep (.inl ⟨rfl, rfl⟩) (by
        rw [List.append_assoc]
        exact tooDeep_renderAll items hvalid hinner isBlankText_nil _ rfl false
          (length_le_length_inside (length_renderAll items) _))
  | .tuple items =>
    readValue_tooDeep_opening hdepth rfl fun _ hinner =>
      readBracketed_tooDeep (.inr ⟨rfl, rfl⟩) (by
        rw [List.append_assoc]
        exact tooDeep_renderAll items hvalid hinner isBlankText_nil _ rfl false
          (length_le_length_inside (length_renderAll items) _))
  | .dict entries =>
    readValue_tooDeep_opening hdepth rfl fun _ hinner =>
      readBracketed_tooDeep_braces (by
        rw [List.append_assoc]
        exact tooDeep_renderEntries entries hvalid.2 hinner isBlankText_nil _
          (length_le_length_inside (length_renderEntries entries) _))

/-- What is written of some items is refused if the brackets of one of them have no room. -/
theorem tooDeep_renderAll (items : List Datum) {room : Nat} (hvalid : ValidAll items)
    (hdepth : room < depthAll items) {gap : List Char} (hgap : isBlankText gap) (rest : List Char)
    {close : Char} (hclose : isSeparator close) (comma : Bool) {fuel : Nat}
    (hfuel : items.length ≤ fuel) :
    TooDeep (readItems (readValue room) close fuel comma
      (gap ++ (commaSeparated (renderAll items) ++ rest))) :=
  match items, fuel, hfuel with
  | [], _, _ => absurd hdepth (Nat.not_lt_zero room)
  | item :: items, _ + 1, hfuel =>
    tooDeep_cons hvalid.1 hdepth hgap rest hclose comma (tooDeep_render item hvalid.1)
      fun hmore => tooDeep_renderAll items hvalid.2 hmore rfl rest hclose true
        (Nat.le_of_succ_le_succ hfuel)

/-- What is written of some entries is refused if the brackets of one of them have no room. -/
theorem tooDeep_renderEntries (entries : List (QuotedText × Datum)) {room : Nat}
    (hvalid : ValidEntries entries) (hdepth : room < depthEntries entries) {gap : List Char}
    (hgap : isBlankText gap) (rest : List Char) {fuel : Nat} (hfuel : entries.length ≤ fuel) :
    TooDeep (readPairs (readValue room) fuel
      (gap ++ (commaSeparated (renderEntries entries) ++ rest))) :=
  match entries, fuel, hfuel with
  | [], _, _ => absurd hdepth (Nat.not_lt_zero room)
  | (_, value) :: entries, _ + 1, hfuel =>
    tooDeep_cons_entry hvalid.1 hdepth hgap rest (tooDeep_render value hvalid.1)
      fun hmore => tooDeep_renderEntries entries hvalid.2 hmore rfl rest
        (Nat.le_of_succ_le_succ hfuel)

end

/-- A written value is read whole if its brackets have room. -/
theorem readWhole_render (datum : Datum) (hvalid : datum.Valid) (hdepth : datum.depth ≤ maxNesting) :
    readWhole datum.render = .ok datum.value := by
  have hspaced := spaced_of_element isBlankText_nil (expr_render datum hvalid hdepth)
  exact readWhole_eq_ok_iff.mpr hspaced

/-- A written value is refused for its nesting if its brackets have no room. -/
theorem readWhole_tooDeep (datum : Datum) (hvalid : datum.Valid) (hdepth : maxNesting < datum.depth) :
    TooDeep (readWhole datum.render) := by
  obtain ⟨fault, hread, hcause⟩ := tooDeep_render datum hvalid hdepth []
  rw [List.append_nil] at hread
  have hblank : isBlankText datum.render = false := by
    have hreads := readValue_reads datum.depth
    obtain ⟨c, tail, htext, hc, -⟩ := hreads.begins (expr_render datum hvalid (Nat.le_refl _))
    simp [htext, isBlankText, hc]
  refine ⟨fault, ?_, hcause⟩
  rw [readWhole, hblank]
  simp only [Bool.false_eq_true, if_false, hread]

/-- Square brackets around a value, as many as told. -/
def nested (datum : Datum) : Nat → Datum
  | 0 => datum
  | count + 1 => .list [nested datum count]

/-- Brackets around a valid value are valid. -/
theorem valid_nested {datum : Datum} (hvalid : datum.Valid) (count : Nat) :
    (datum.nested count).Valid := by
  induction count with
  | zero => exact hvalid
  | succ count ih => exact ⟨ih, trivial⟩

/-- As many brackets nest more as are put around a value. -/
theorem depth_nested (datum : Datum) (count : Nat) :
    (datum.nested count).depth = datum.depth + count := by
  induction count with
  | zero => rfl
  | succ count ih =>
    rw [nested, depth, depthAll, depthAll, ih]
    omega

/-- A written value is read back, with tuples as lists, exactly if at most 128 brackets nest in
it; if more do, it is refused for that reason. -/
theorem read_render (datum : Datum) (hvalid : datum.Valid) :
    (datum.depth ≤ 128 → read (String.ofList datum.render) = .ok datum.value) ∧
      (128 < datum.depth → ∃ error, read (String.ofList datum.render) = .error error ∧
        error.cause.message = "nesting too deep") := by
  rw [read, String.toList_ofList]
  constructor
  · intro hdepth
    rw [readWhole_render datum hvalid hdepth]
    rfl
  · intro hdepth
    obtain ⟨fault, hread, hcause⟩ := readWhole_tooDeep datum hvalid hdepth
    refine ⟨fault.located datum.render, ?_, ?_⟩
    · rw [hread]
      rfl
    · rw [Fault.located, hcause]
      rfl

/-- With 126 brackets around it a dictionary that holds a tuple is read back, and with one more it
is refused. -/
theorem read_render_nested :
    let datum := Datum.dict [(⟨.single, "it's"⟩, .tuple [.int (-7)]), (⟨.double, "it"⟩, .null)]
    read (String.ofList (datum.nested 126).render) = .ok (datum.nested 126).value ∧
      ∃ error, read (String.ofList (datum.nested 127).render) = .error error ∧
        error.cause.message = "nesting too deep" := by
  intro datum
  have hint : (-7 : Int).natAbs ≤ maxInt := by decide
  have hvalid : datum.Valid := ⟨by decide, ⟨hint, trivial⟩, trivial, trivial⟩
  have hdepth : datum.depth = 2 := rfl
  constructor
  · exact (read_render _ (valid_nested hvalid 126)).1 (by simp [depth_nested, hdepth])
  · exact (read_render _ (valid_nested hvalid 127)).2 (by simp [depth_nested, hdepth])

end Datum

end NotebookLint.Literal
