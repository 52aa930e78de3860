import Mathlib.Data.Bool.AllAny
import NotebookLint.Literal.Reader
import NotebookLint.Proofs.Entries

/-!
# The grammar of literals

Which texts are literals and what they denote, as relations on whole texts: no rule speaks of a
reader's position or of what is tried first. The value of a number token is what the reader of
numbers gives when the token is all there is to read, and the meaning of an escape is taken from
its table; everything around them is spelled out here.

The relations on bracketed texts take the relation on the texts inside as a parameter, and `Expr`
ties the knot by recursion on the number of brackets that may be open at once. What may follow a
value is the same everywhere, `EndsValue`, and is what makes words and number tokens maximal.
-/

namespace NotebookLint.Literal

open NotebookLint.Text

/-- The quotes that open and close a body. -/
def BodyForm.quotes (form : BodyForm) : List Char :=
  if form.triple then [form.quote, form.quote, form.quote] else [form.quote]

/-- The body of a string with its closing quotes, and the characters it denotes. -/
inductive Body (form : BodyForm) : List Char → List Char → Prop where
  /-- The closing quotes. -/
  | close : Body form form.quotes []
  /-- A character that stands for itself. A line feed does so between tripled quotes only. -/
  | plain {c : Char} {body chars : List Char} (hopen : closes form (c :: body) = false)
      (hline : c = '\n' → form.triple) (hc : c ≠ '\\') (hbody : Body form body chars) :
      Body form (c :: body) (c :: chars)
  /-- A backslash in a verbatim body, with the character that it protects. -/
  | verbatim {letter : Char} {body chars : List Char} (hraw : form.raw = true)
      (hbody : Body form body chars) :
      Body form ('\\' :: letter :: body) ('\\' :: letter :: chars)
  /-- An escape with the digits that belong to it. -/
  | escaped {letter : Char} {digits body meaning chars : List Char} (hraw : form.raw = false)
      (hescape : escape letter digits = .ok (meaning, digits.length))
      (hbody : Body form body chars) :
      Body form ('\\' :: letter :: (digits ++ body)) (meaning ++ chars)

/-- One string literal and the characters it denotes, directly before the text `following`. Two
quotes that a third one follows open a tripled body, so a single quote opens a body only if two
more do not come next. -/
inductive StringLiteral (following : List Char) : List Char → List Char → Prop where
  /-- A body between single quotes, after an optional prefix letter. -/
  | single {mark : Option Char} {quote : Char} {body chars : List Char}
      (hmark : ∀ c ∈ mark, isStringPrefix c) (hquote : isQuote quote)
      (hopen : [quote, quote].isPrefixOf (body ++ following) = false)
      (hbody : Body ⟨quote, false, mark.any isRawPrefix⟩ body chars) :
      StringLiteral following (mark.toList ++ quote :: body) chars
  /-- A body between tripled quotes, after an optional prefix letter. -/
  | triple {mark : Option Char} {quote : Char} {body chars : List Char}
      (hmark : ∀ c ∈ mark, isStringPrefix c) (hquote : isQuote quote)
      (hbody : Body ⟨quote, true, mark.any isRawPrefix⟩ body chars) :
      StringLiteral following (mark.toList ++ quote :: quote :: quote :: body) chars

/-- One or more string literals with blanks between them, and the characters they denote
together. -/
inductive Strings : List Char → List Char → Prop where
  /-- One literal. -/
  | last {text chars : List Char} (hlast : StringLiteral [] text chars) : Strings text chars
  /-- A literal before others. -/
  | cons {text gap more chars rest : List Char}
      (hfirst : StringLiteral (gap ++ more) text chars) (hgap : isBlankText gap)
      (hmore : Strings more rest) : Strings (text ++ (gap ++ more)) (chars ++ rest)

/-- A number token and the value that it denotes with or without a minus sign. -/
structure NumberToken (negative : Bool) (token : List Char) (value : Value) : Prop where
  /-- It begins with a digit or a point. -/
  begins : token.head?.any beginsNumber
  /-- It is one token, and denotes the value. -/
  denotes : readNumber negative token = .ok (value, [])

/-- The literals without brackets. -/
inductive Scalar : List Char → Value → Prop where
  /-- The true constant. -/
  | trueWord : Scalar ['T', 'r', 'u', 'e'] (.bool true)
  /-- The false constant. -/
  | falseWord : Scalar ['F', 'a', 'l', 's', 'e'] (.bool false)
  /-- The empty constant. -/
  | noneWord : Scalar ['N', 'o', 'n', 'e'] .null
  /-- A number without a sign. -/
  | unsigned {token : List Char} {value : Value} (htoken : NumberToken false token value) :
      Scalar token value
  /-- A number after a sign and blanks. -/
  | signed {sign : Char} {gap token : List Char} {value : Value} (hsign : sign = '+' ∨ sign = '-')
      (hgap : isBlankText gap) (htoken : NumberToken (sign == '-') token value) :
      Scalar (sign :: (gap ++ token)) value
  /-- Adjacent strings. -/
  | text {text chars : List Char} (hstrings : Strings text chars) :
      Scalar text (.text (String.ofList chars))

section Brackets

variable (element : List Char → Value → Prop)

/-- A value with blanks around it. -/
inductive Spaced : List Char → Value → Prop where
  /-- Blanks, the value, and blanks. -/
  | intro {before body after : List Char} {value : Value} (hbefore : isBlankText before)
      (hbody : element body value) (hafter : isBlankText after) :
      Spaced (before ++ (body ++ after)) value

/-- What stands between list brackets: items with single commas between them and perhaps one
after the last, which the truth value tells. -/
inductive Items : List Char → List Value → Bool → Prop where
  /-- Nothing but blanks. -/
  | nil {gap : List Char} (hgap : isBlankText gap) : Items gap [] false
  /-- One item. -/
  | last {text : List Char} {item : Value} (hitem : Spaced element text item) :
      Items text [item] false
  /-- An item with a comma after it, and what comes then. -/
  | cons {text more : List Char} {item : Value} {items : List Value} {trailing : Bool}
      (hitem : Spaced element text item) (hmore : Items more items trailing) :
      Items (text ++ ',' :: more) (item :: items) (items.isEmpty || trailing)

/-- What stands between dictionary brackets: pairs of a key, which denotes a text, and a value,
with single commas between them and perhaps one after the last. -/
inductive Pairs : List Char → List (String × Value) → Prop where
  /-- Nothing but blanks. -/
  | nil {gap : List Char} (hgap : isBlankText gap) : Pairs gap []
  /-- One pair. -/
  | last {keyText text : List Char} {key : String} {value : Value}
      (hkey : Spaced element keyText (.text key)) (hvalue : Spaced element text value) :
      Pairs (keyText ++ ':' :: text) [(key, value)]
  /-- A pair with a comma after it, and what comes then. -/
  | cons {keyText text more : List Char} {key : String} {value : Value}
      {pairs : List (String × Value)} (hkey : Spaced element keyText (.text key))
      (hvalue : Spaced element text value) (hmore : Pairs more pairs) :
      Pairs (keyText ++ ':' :: (text ++ ',' :: more)) ((key, value) :: pairs)

/-- The literals in brackets. Round brackets around one item without a comma only group. -/
inductive Bracketed : List Char → Value → Prop where
  /-- A list in square brackets. -/
  | list {body : List Char} {items : List Value} {trailing : Bool}
      (hitems : Items element body items trailing) : Bracketed ('[' :: (body ++ [']'])) (.list items)
  /-- A value in round brackets. -/
  | group {body : List Char} {item : Value} (hitems : Items element body [item] false) :
      Bracketed ('(' :: (body ++ [')'])) item
  /-- A list in round brackets: with no item, with a comma at the end, or with several items. -/
  | tuple {body : List Char} {items : List Value} {trailing : Bool}
      (hitems : Items element body items trailing) (hmany : items.length = 1 → trailing) :
      Bracketed ('(' :: (body ++ [')'])) (.list items)
  /-- A dictionary, in which a repeated key keeps its first place and takes its last value. -/
  | dict {body : List Char} {pairs : List (String × Value)} {entries : Entries Value}
      (hpairs : Pairs element body pairs) (hentries : Entries.Settles pairs entries) :
      Bracketed ('{' :: (body ++ ['}'])) (.dict entries)

end Brackets

/-- The literals in which at most `room` brackets are open at once. -/
def Expr : (room : Nat) → List Char → Value → Prop
  | 0 => Scalar
  | room + 1 => fun text value => Scalar text value ∨ Bracketed (Expr room) text value

/-- Whether a character comes between values or closes a bracket. -/
def isSeparator (c : Char) : Bool :=
  c == ',' || c == ':' || c == ']' || c == ')' || c == '}'

/-- Whether a text may come after a value: there is nothing but blanks, or a separator after
blanks. -/
def EndsValue (rest : List Char) : Prop :=
  ∀ c ∈ (skipBlanks rest).head?, isSeparator c

/-- A text that holds exactly one literal, with blanks around it. -/
def Denotes (text : List Char) (value : Value) : Prop :=
  Spaced (Expr maxNesting) text value

/-- A character is none of those that lack one of its properties. -/
theorem not_mem_of_all {p : Char → Bool} {chars : List Char} (hall : chars.all fun d => !p d)
    {c : Char} (hc : p c) : c ∉ chars := by
  intro hmem
  have hlacks := List.all_eq_true.mp hall c hmem
  simp [hc] at hlacks

/-- There are three opening brackets. -/
theorem isOpening_iff (c : Char) : isOpening c ↔ c = '[' ∨ c = '(' ∨ c = '{' := by
  simp [isOpening, or_assoc]

/-- There are two quote characters. -/
theorem isQuote_iff (c : Char) : isQuote c ↔ c = '\'' ∨ c = '"' := by
  simp [isQuote]

/-- The letters that may stand before a quote. -/
theorem isStringPrefix_iff (c : Char) : isStringPrefix c ↔ c = 'r' ∨ c = 'R' ∨ c = 'u' ∨ c = 'U' := by
  simp [isStringPrefix, isRawPrefix, or_assoc]

/-- A quote is no prefix letter. -/
theorem isStringPrefix_of_isQuote {c : Char} (hquote : isQuote c) : isStringPrefix c = false := by
  rcases (isQuote_iff c).mp hquote with rfl | rfl <;> rfl

/-- Whether a character comes between values, closes a bracket, or is a blank. -/
def isDelimiter (c : Char) : Bool :=
  isBlank c || isSeparator c

/-- The delimiters one by one. -/
def delimiters : List Char :=
  blanks ++ [',', ':', ']', ')', '}']

/-- A delimiter is one of the list. -/
theorem mem_delimiters {c : Char} (hc : isDelimiter c) : c ∈ delimiters := by
  rw [isDelimiter, Bool.or_eq_true] at hc
  rw [delimiters, List.mem_append]
  exact hc.imp mem_blanks_of_isBlank fun h => by simpa [isSeparator, or_assoc] using h

/-- No token goes on with a delimiter. -/
theorem not_token_of_isDelimiter {c : Char} (hc : isDelimiter c) :
    continuesWord c = false ∧ isNumberChar c = false ∧ isQuote c = false ∧
      isStringPrefix c = false ∧ c ≠ '+' ∧ c ≠ '-' := by
  have hall : ∀ d ∈ delimiters, continuesWord d = false ∧ isNumberChar d = false ∧
      isQuote d = false ∧ isStringPrefix d = false ∧ d ≠ '+' ∧ d ≠ '-' :=
    List.all_iff_forall_prop.mp (by decide +kernel)
  exact hall c (mem_delimiters hc)

/-- What may come after a value begins with a delimiter, if with anything. -/
theorem EndsValue.isDelimiter_of_mem_head? {rest : List Char} (h : EndsValue rest) {c : Char}
    (hc : c ∈ rest.head?) : isDelimiter c := by
  cases rest with
  | nil => cases hc
  | cons d rest =>
    obtain rfl := Option.some.inj hc
    rw [isDelimiter, Bool.or_eq_true]
    by_cases hblank : isBlank d
    · exact .inl hblank
    · refine .inr (h d ?_)
      rw [skipBlanks_cons_of_not_isBlank (by simpa using hblank)]
      rfl

/-- The separators one by one. -/
theorem isSeparator_iff (c : Char) :
    isSeparator c ↔ c = ',' ∨ c = ':' ∨ c = ']' ∨ c = ')' ∨ c = '}' := by
  simp [isSeparator, or_assoc]

/-- A separator is no blank. -/
theorem not_isBlank_of_isSeparator {c : Char} (hc : isSeparator c) : isBlank c = false := by
  rcases (isSeparator_iff c).mp hc with rfl | rfl | rfl | rfl | rfl <;> rfl

/-- A separator may come after a value, with blanks before it. -/
theorem endsValue_separator {gap : List Char} (hgap : isBlankText gap) {c : Char} (hc : isSeparator c)
    (rest : List Char) : EndsValue (gap ++ c :: rest) := by
  intro d hd
  rw [skipBlanks_append hgap, skipBlanks_cons_of_not_isBlank (not_isBlank_of_isSeparator hc)] at hd
  exact Option.some.inj hd ▸ hc

/-- A separator may come directly after a value. -/
theorem endsValue_cons {c : Char} (hc : isSeparator c) (rest : List Char) : EndsValue (c :: rest) :=
  endsValue_separator isBlankText_nil hc rest

/-- Nothing but blanks may come after a value. -/
theorem endsValue_blank {gap : List Char} (hgap : isBlankText gap) : EndsValue gap := by
  intro d hd
  rw [(skipBlanks_eq_nil_iff gap).mpr hgap] at hd
  cases hd

end NotebookLint.Literal
