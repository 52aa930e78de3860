import Mathlib.Data.List.Forall2
import NotebookLint.Proofs.Literal.Acceptance

/-!
# Writing values as literals

A value is written as a literal in one of many ways: every text in quotes of its own choice, and a
sequence as a list or as a tuple. What is written is a literal of the grammar that denotes the
value, with as many brackets open at once as nest in the value.
-/

namespace NotebookLint.Literal

open NotebookLint.Text

/-- The two characters between which a text can be written. -/
inductive Quote where
  /-- The single quote. -/
  | single
  /-- The double quote. -/
  | double
  deriving DecidableEq, Repr

/-- The character of a quote. -/
def Quote.char : Quote → Char
  | .single => '\''
  | .double => '"'

/-- A text with the quotes to write it in. -/
structure QuotedText where
  /-- The quotes around it. -/
  quote : Quote
  /-- The text. -/
  text : String
  deriving DecidableEq, Repr

/-- A value as it is to be written: tuples are told from lists, and every text comes with its
quotes. -/
inductive Datum where
  /-- The value without content. -/
  | null
  /-- A truth value. -/
  | bool (value : Bool)
  /-- A whole number. -/
  | int (value : Int)
  /-- A text. -/
  | text (value : QuotedText)
  /-- Values in square brackets. -/
  | list (items : List Datum)
  /-- Values in round brackets. -/
  | tuple (items : List Datum)
  /-- Named values in braces. -/
  | dict (entries : List (QuotedText × Datum))

/-- How a character is written between quotes: a backslash, the quote and the line feed with a
backslash in front, everything else as it is. -/
def escapedChar (quote c : Char) : List Char :=
  if c = '\\' then ['\\', '\\']
  else if c = quote then ['\\', quote]
  else if c = '\n' then ['\\', 'n']
  else [c]

/-- How a text is written. -/
def QuotedText.render (quoted : QuotedText) : List Char :=
  quoted.quote.char ::
    (quoted.text.toList.flatMap (escapedChar quoted.quote.char) ++ [quoted.quote.char])

/-- Texts with a comma and a space between them. -/
def commaSeparated (texts : List (List Char)) : List Char :=
  List.intercalate [',', ' '] texts

/-- What ends a tuple: the closing bracket, after a comma if there is exactly one item. -/
def tupleEnd {α : Type} : List α → List Char
  | [_] => [',', ')']
  | _ => [')']

namespace Datum

mutual

/-- How a value is written. -/
def render : Datum → List Char
  | .null => ['N', 'o', 'n', 'e']
  | .bool true => ['T', 'r', 'u', 'e']
  | .bool false => ['F', 'a', 'l', 's', 'e']
  | .int value => (toString value).toList
  | .text quoted => quoted.render
  | .list items => '[' :: (commaSeparated (renderAll items) ++ [']'])
  | .tuple items => '(' :: (commaSeparated (renderAll items) ++ tupleEnd items)
  | .dict entries => '{' :: (commaSeparated (renderEntries entries) ++ ['}'])

/-- How the items of a sequence are written. -/
def renderAll : List Datum → List (List Char)
  | [] => []
  | item :: rest => item.render :: renderAll rest

/-- How the entries of a dictionary are written. -/
def renderEntries : List (QuotedText × Datum) → List (List Char)
  | [] => []
  | (key, value) :: rest => (key.render ++ ':' :: ' ' :: value.render) :: renderEntries rest

end

mutual

/-- The value that is written. Tuples are lists. -/
def value : Datum → Value
  | .null => .null
  | .bool value => .bool value
  | .int value => .int value
  | .text quoted => .text quoted.text
  | .list items => .list (valueAll items)
  | .tuple items => .list (valueAll items)
  | .dict entries => .dict (valueEntries entries)

/-- The values of the items of a sequence. -/
def valueAll : List Datum → List Value
  | [] => []
  | item :: rest => item.value :: valueAll rest

/-- The named values of a dictionary. -/
def valueEntries : List (QuotedText × Datum) → List (String × Value)
  | [] => []
  | (key, value) :: rest => (key.text, value.value) :: valueEntries rest

end

mutual

/-- How many brackets nest. -/
def depth : Datum → Nat
  | .list items => depthAll items + 1
  | .tuple items => depthAll items + 1
  | .dict entries => depthEntries entries + 1
  | _ => 0

/-- How many brackets nest in the items of a sequence. -/
def depthAll : List Datum → Nat
  | [] => 0
  | item :: rest => max item.depth (depthAll rest)

/-- How many brackets nest in the values of a dictionary. -/
def depthEntries : List (QuotedText × Datum) → Nat
  | [] => 0
  | (_, value) :: rest => max value.depth (depthEntries rest)

end

mutual

/-- Whether every whole number is in range and the keys of every dictionary are distinct. -/
def Valid : Datum → Prop
  | .int value => value.natAbs ≤ maxInt
  | .list items => ValidAll items
  | .tuple items => ValidAll items
  | .dict entries => (entries.map fun entry => entry.1.text).Nodup ∧ ValidEntries entries
  | _ => True

/-- Whether all items of a sequence are valid. -/
def ValidAll : List Datum → Prop
  | [] => True
  | item :: rest => item.Valid ∧ ValidAll rest

/-- Whether all values of a dictionary are valid. -/
def ValidEntries : List (QuotedText × Datum) → Prop
  | [] => True
  | (_, value) :: rest => value.Valid ∧ ValidEntries rest

end

end Datum

/-- A quote opens and closes strings. -/
theorem Quote.isQuote_char (quote : Quote) : isQuote quote.char := by
  cases quote <;> rfl

/-- No written character begins with the quote. -/
theorem head?_escapedChar_ne (quote : Quote) (c : Char) (rest : List Char) :
    (escapedChar quote.char c ++ rest).head? ≠ some quote.char := by
  have hquote : '\\' ≠ quote.char := by cases quote <;> decide
  rw [escapedChar]
  split
  · simpa using hquote
  · split
    · simpa using hquote
    · split
      · simpa using hquote
      · rename_i hc _
        simpa using hc

/-- A written character stands for itself in a body. -/
theorem body_escapedChar (quote : Quote) (c : Char) {body chars : List Char}
    (hbody : Body ⟨quote.char, false, false⟩ body chars) :
    Body ⟨quote.char, false, false⟩ (escapedChar quote.char c ++ body) (c :: chars) := by
  have hescape (letter : Char) (h : escape letter [] = .ok ([c], 0)) :
      Body ⟨quote.char, false, false⟩ ('\\' :: letter :: body) (c :: chars) :=
    @Body.escaped _ letter [] body [c] chars rfl h hbody
  rw [escapedChar]
  split
  · rename_i hc
    exact hescape '\\' (by rw [hc]; rfl)
  · rename_i hbackslash
    split
    · rename_i hc
      exact hescape quote.char (by rw [hc]; cases quote <;> rfl)
    · rename_i hquote
      split
      · rename_i hc
        exact hescape 'n' (by rw [hc]; rfl)
      · rename_i hline
        refine .plain ?_ (fun h => absurd h hline) hbackslash hbody
        simpa [closes] using hquote

/-- Written characters with the quote after them are a body that denotes them. -/
theorem body_flatMap_escapedChar (quote : Quote) (chars : List Char) :
    Body ⟨quote.char, false, false⟩ (chars.flatMap (escapedChar quote.char) ++ [quote.char]) chars := by
  induction chars with
  | nil => exact .close
  | cons c chars ih =>
    rw [List.flatMap_cons, List.append_assoc]
    exact body_escapedChar quote c ih

/-- A written text is one string literal. -/
theorem stringLiteral_render (quoted : QuotedText) :
    StringLiteral [] quoted.render quoted.text.toList := by
  obtain ⟨quote, text⟩ := quoted
  refine @StringLiteral.single _ none _ _ _ (by simp) quote.isQuote_char ?_
    (body_flatMap_escapedChar quote text.toList)
  cases text.toList with
  | nil => simp [List.isPrefixOf]
  | cons c chars =>
    have hhead := head?_escapedChar_ne quote c (chars.flatMap (escapedChar quote.char) ++ [quote.char])
    rw [List.append_nil, List.flatMap_cons, List.append_assoc]
    cases hbody : escapedChar quote.char c ++ (chars.flatMap (escapedChar quote.char) ++ [quote.char]) with
    | nil => rfl
    | cons d rest =>
      rw [hbody] at hhead
      have hne : quote.char ≠ d := fun heq => hhead (heq ▸ rfl)
      simp [List.isPrefixOf, hne]

/-- A bracketed literal is one with room for its bracket. -/
theorem expr_of_bracketed {room depth : Nat} (hdepth : depth + 1 ≤ room) {text : List Char} {value : Value}
    (h : ∀ inner, depth ≤ inner → Bracketed (Expr inner) text value) : Expr room text value := by
  obtain ⟨inner, rfl⟩ := Nat.exists_eq_add_of_le' (Nat.le_trans (Nat.le_add_left 1 depth) hdepth)
  exact .inr (h inner (Nat.le_of_succ_le_succ hdepth))

/-- A literal without brackets is one with any room. -/
theorem expr_of_scalar {text : List Char} {value : Value} (h : Scalar text value) (room : Nat) :
    Expr room text value := by
  cases room with
  | zero => exact h
  | succ room => exact .inl h

/-- A written text is a literal. -/
theorem expr_quotedText (quoted : QuotedText) (room : Nat) :
    Expr room quoted.render (.text quoted.text) := by
  have hscalar : Scalar quoted.render (.text quoted.text) := by
    simpa using Scalar.text (.last (stringLiteral_render quoted))
  exact expr_of_scalar hscalar room

/-- A written whole number in range is a literal. -/
theorem scalar_toString {value : Int} (h : value.natAbs ≤ maxInt) :
    Scalar (toString value).toList (.int value) := by
  cases value with
  | ofNat n =>
    have htext : (toString (Int.ofNat n)).toList = Nat.toDigits 10 n := Nat.toList_repr
    rw [htext]
    exact .unsigned (numberToken_toDigits false h)
  | negSucc n =>
    have htext : (toString (Int.negSucc n)).toList = '-' :: Nat.toDigits 10 (n + 1) := by
      rw [Int.toString_eq_repr, Int.repr_eq_if, if_neg (by simp), String.toList_append,
        Nat.toList_repr]
      rfl
    rw [htext]
    exact .signed (.inr rfl) isBlankText_nil (numberToken_toDigits true h)

/-- One text has nothing to be separated from. -/
theorem commaSeparated_singleton (text : List Char) : commaSeparated [text] = text := by
  simp [commaSeparated, List.intercalate]

/-- The first of several texts has a comma and a space after it. -/
theorem commaSeparated_cons_cons (first second : List Char) (texts : List (List Char)) :
    commaSeparated (first :: second :: texts) =
      first ++ ',' :: ' ' :: commaSeparated (second :: texts) := by
  simp [commaSeparated, List.intercalate]

section Inside

variable {element : List Char → Value → Prop}

/-- A value is one with blanks around it, also where there are none after it. -/
theorem spaced_of_element {gap text : List Char} {value : Value} (hgap : isBlankText gap)
    (h : element text value) : Spaced element (gap ++ text) value := by
  have hspaced := Spaced.intro hgap h isBlankText_nil
  rwa [List.append_nil] at hspaced

/-- Values with a comma and a space between them are items. -/
theorem items_commaSeparated {texts : List (List Char)} {values : List Value}
    (h : List.Forall₂ element texts values) {gap : List Char} (hgap : isBlankText gap) :
    Items element (gap ++ commaSeparated texts) values false := by
  induction h generalizing gap with
  | nil => simpa [commaSeparated, List.intercalate] using Items.nil hgap
  | @cons text value texts values htext htexts ih =>
    cases htexts with
    | nil =>
      rw [commaSeparated_singleton]
      exact .last (spaced_of_element hgap htext)
    | cons hnext hmore =>
      rw [commaSeparated_cons_cons, ← List.append_assoc]
      exact .cons (spaced_of_element hgap htext) (ih isBlankText_space)

/-- A comma after the last of some items ends them too. -/
theorem items_append_comma {text : List Char} {item : Value} (hitem : Spaced element text item) :
    Items element (text ++ [',']) [item] true :=
  .cons hitem (.nil isBlankText_nil)

/-- A text that holds a key, a colon, a space and a value. -/
inductive EntryText (element : List Char → Value → Prop) : List Char → String × Value → Prop where
  /-- The key before the colon, and the value after it. -/
  | intro {keyText text : List Char} {key : String} {value : Value}
      (hkey : element keyText (.text key)) (hvalue : element text value) :
      EntryText element (keyText ++ ':' :: ' ' :: text) (key, value)

/-- Entries with a comma and a space between them are pairs. -/
theorem pairs_commaSeparated {texts : List (List Char)} {pairs : List (String × Value)}
    (h : List.Forall₂ (EntryText element) texts pairs) {gap : List Char} (hgap : isBlankText gap) :
    Pairs element (gap ++ commaSeparated texts) pairs := by
  induction h generalizing gap with
  | nil => simpa [commaSeparated, List.intercalate] using Pairs.nil hgap
  | @cons text pair texts pairs htext htexts ih =>
    obtain ⟨hkey, hvalue⟩ := htext
    rename_i keyText text key value
    have hkeySpaced := spaced_of_element hgap hkey
    have hvalueSpaced := spaced_of_element isBlankText_space hvalue
    cases htexts with
    | nil =>
      rw [commaSeparated_singleton, ← List.append_assoc]
      exact .last hkeySpaced hvalueSpaced
    | cons hnext hmore =>
      have hpairs := Pairs.cons hkeySpaced hvalueSpaced (ih isBlankText_space)
      rw [commaSeparated_cons_cons]
      simpa using hpairs

end Inside

namespace Datum

/-- The keys of a written dictionary. -/
theorem map_fst_valueEntries (entries : List (QuotedText × Datum)) :
    (valueEntries entries).map Prod.fst = entries.map fun entry => entry.1.text := by
  induction entries with
  | nil => rfl
  | cons entry rest ih => rw [valueEntries, List.map_cons, List.map_cons, ih]

/-- Items written as a tuple are a list in round brackets. -/
theorem bracketed_tuple {element : List Char → Value → Prop} {items : List Datum}
    (h : List.Forall₂ element (renderAll items) (valueAll items)) :
    Bracketed element ('(' :: (commaSeparated (renderAll items) ++ tupleEnd items))
      (.list (valueAll items)) := by
  match items with
  | [] => exact .tuple (items_commaSeparated h isBlankText_nil) nofun
  | [item] =>
    cases h with
    | cons hitem _ =>
      have hcomma := Bracketed.tuple (items_append_comma (spaced_of_element isBlankText_nil hitem))
        fun _ => rfl
      rw [List.nil_append, List.append_assoc] at hcomma
      rw [renderAll, renderAll, commaSeparated_singleton]
      exact hcomma
  | _ :: _ :: _ =>
    exact .tuple (items_commaSeparated h isBlankText_nil) fun hone => by
      simp [valueAll] at hone

mutual

/-- What is written of a value is a literal that denotes it, if its brackets have room. -/
theorem expr_render (datum : Datum) {room : Nat} (hvalid : datum.Valid) (hdepth : datum.depth ≤ room) :
    Expr room datum.render datum.value :=
  match datum with
  | .null => expr_of_scalar .noneWord room
  | .bool true => expr_of_scalar .trueWord room
  | .bool false => expr_of_scalar .falseWord room
  | .int _ => expr_of_scalar (scalar_toString hvalid) room
  | .text quoted => expr_quotedText quoted room
  | .list items =>
    expr_of_bracketed hdepth fun _ hinner =>
      .list (items_commaSeparated (forall₂_renderAll items hvalid hinner) isBlankText_nil)
  | .tuple items =>
    expr_of_bracketed hdepth fun _ hinner =>
      bracketed_tuple (forall₂_renderAll items hvalid hinner)
  | .dict entries =>
    expr_of_bracketed hdepth fun _ hinner =>
      .dict (pairs_commaSeparated (forall₂_renderEntries entries hvalid.2 hinner) isBlankText_nil)
        (Entries.settles_iff.mpr (Entries.ofList_of_nodup (by
          rw [Entries.names, map_fst_valueEntries]; exact hvalid.1)).symm)

/-- The items of a sequence are written as expressions one by one. -/
theorem forall₂_renderAll (items : List Datum) {room : Nat} (hvalid : ValidAll items)
    (hdepth : depthAll items ≤ room) :
    List.Forall₂ (Expr room) (renderAll items) (valueAll items) :=
  match items with
  | [] => .nil
  | item :: rest =>
    .cons (expr_render item hvalid.1 (Nat.max_le.mp hdepth).1)
      (forall₂_renderAll rest hvalid.2 (Nat.max_le.mp hdepth).2)

/-- The entries of a dictionary are written one by one. -/
theorem forall₂_renderEntries (entries : List (QuotedText × Datum)) {room : Nat}
    (hvalid : ValidEntries entries) (hdepth : depthEntries entries ≤ room) :
    List.Forall₂ (EntryText (Expr room)) (renderEntries entries) (valueEntries entries) :=
  match entries with
  | [] => .nil
  | (key, value) :: rest =>
    .cons (.intro (expr_quotedText key room) (expr_render value hvalid.1 (Nat.max_le.mp hdepth).1))
      (forall₂_renderEntries rest hvalid.2 (Nat.max_le.mp hdepth).2)

end

end Datum

end NotebookLint.Literal
