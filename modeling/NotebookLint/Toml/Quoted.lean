import NotebookLint.Text.Hexadecimal

/-!
# Quoted TOML texts

Four forms of quoted texts: with escapes between double quotes or verbatim between single quotes,
and each of these on one line or, between tripled quotes, on several. A line feed right after
three opening quotes does not count, and up to two quotes may stand before three closing ones.
-/

namespace NotebookLint.Toml

/-- Whether a character may stand in a text or in a comment: no control character but the tab. -/
def isPrintable (c : Char) : Bool :=
  c == '\t' || (0x20 ≤ c.toNat && c.toNat != 0x7F)

/-- The form of a quoted text. -/
structure QuotedForm where
  /-- The quote. -/
  quote : Char
  /-- Whether the quote is tripled. -/
  triple : Bool
  deriving DecidableEq, Repr

/-- Whether a form has escapes. -/
def QuotedForm.hasEscapes (form : QuotedForm) : Bool := form.quote = '"'

/-- The text without a line end at its beginning, if it begins with one. -/
def afterLineEnd : List Char → Option (List Char)
  | '\n' :: rest => some rest
  | '\r' :: '\n' :: rest => some rest
  | _ => none

/-- Whether a character is a space or a tab. -/
def isSpace (c : Char) : Bool := c == ' ' || c == '\t'

/-- The rest of a text after a backslash at the end of a line: after all blank lines and the
spaces before the next character. -/
def afterContinuation (text : List Char) : Option (List Char) :=
  (afterLineEnd (text.dropWhile isSpace)).map fun rest =>
    rest.dropWhile fun c => isSpace c || c == '\n' || c == '\r'

/-- The character that so many hexadecimal digits name, and the rest. -/
def hexCharacter (count : Nat) (text : List Char) : Option (Char × List Char) :=
  (Text.hexPrefix count 0 text).bind fun code =>
    if code.isValidChar then some (Char.ofNat code, text.drop count) else none

/-- The character that a backslash and the characters after it stand for, and the rest. -/
def escape : List Char → Option (Char × List Char)
  | 'b' :: rest => some ('\x08', rest)
  | 't' :: rest => some ('\t', rest)
  | 'n' :: rest => some ('\n', rest)
  | 'f' :: rest => some ('\x0c', rest)
  | 'r' :: rest => some ('\r', rest)
  | 'e' :: rest => some ('\x1b', rest)
  | '"' :: rest => some ('"', rest)
  | '\\' :: rest => some ('\\', rest)
  | 'x' :: rest => hexCharacter 2 rest
  | 'u' :: rest => hexCharacter 4 rest
  | 'U' :: rest => hexCharacter 8 rest
  | _ => none

/-- How many of the first five characters are the quote before any other character. -/
def leadingQuotes (quote : Char) (text : List Char) : Nat :=
  ((text.take 5).takeWhile (· == quote)).length

/-- Reads a text up to its closing quotes, with fuel for its characters. -/
def readQuoted (form : QuotedForm) : (fuel : Nat) → List Char → Option (List Char × List Char)
  | 0, _ | _, [] => none
  | fuel + 1, c :: rest =>
    let put (chars : List Char) (after : List Char) : Option (List Char × List Char) :=
      (readQuoted form fuel after).map fun (more, after) => (chars ++ more, after)
    if c = form.quote then
      if form.triple then
        let count := leadingQuotes form.quote (c :: rest)
        if 3 ≤ count then some (List.replicate (count - 3) c, (c :: rest).drop count)
        else put [c] rest
      else some ([], rest)
    else if c = '\\' ∧ form.hasEscapes then
      match escape rest with
      | some (char, after) => put [char] after
      | none => if form.triple then (afterContinuation rest).bind (put []) else none
    else if isPrintable c then put [c] rest
    else if form.triple then (afterLineEnd (c :: rest)).bind (put ['\n'])
    else none

/-- The quoted text at the beginning of a text, on one line or on several, and the rest. -/
def quoted (text : List Char) : Option (QuotedForm × String × List Char) :=
  let read (quote : Char) (rest : List Char) : Option (QuotedForm × String × List Char) :=
    let form : QuotedForm := ⟨quote, [quote, quote].isPrefixOf rest⟩
    let body := if form.triple then (afterLineEnd (rest.drop 2)).getD (rest.drop 2) else rest
    (readQuoted form (body.length + 1) body).map fun (chars, after) =>
      (form, String.ofList chars, after)
  match text with
  | '"' :: rest => read '"' rest
  | '\'' :: rest => read '\'' rest
  | _ => none

end NotebookLint.Toml
