/-!
# Globs for names

A glob is a sequence of tokens: characters, `?` for any character, `*` for any characters, and
brackets for one character of a class or outside it. A bracket without its closing bracket makes
the glob invalid.
-/

namespace NotebookLint

/-- A part of a bracketed class. -/
inductive ClassItem where
  /-- One character. -/
  | single (char : Char)
  /-- The characters between two bounds. -/
  | range (low high : Char)
  deriving DecidableEq, Repr

/-- Whether a character belongs to a part of a class. -/
def ClassItem.contains : ClassItem → Char → Bool
  | .single char, c => c == char
  | .range low high, c => low ≤ c && c ≤ high

/-- A part of a glob. -/
inductive GlobToken where
  /-- The character itself. -/
  | char (char : Char)
  /-- Any one character. -/
  | anyChar
  /-- Any characters. -/
  | anySequence
  /-- One character of a class. -/
  | within (items : List ClassItem)
  /-- One character outside a class. -/
  | except (items : List ClassItem)
  deriving DecidableEq, Repr

/-- Whether a token other than a sequence matches a character. -/
def GlobToken.accepts : GlobToken → Char → Bool
  | .char wanted, c => c == wanted
  | .anyChar, _ => true
  | .anySequence, _ => false
  | .within items, c => items.any fun item => item.contains c
  | .except items, c => !items.any fun item => item.contains c

/-- A glob. -/
abbrev Glob := List GlobToken

namespace Glob

/-- The class that the text between brackets describes. -/
def classItems : List Char → List ClassItem
  | low :: '-' :: high :: rest => .range low high :: classItems rest
  | char :: rest => .single char :: classItems rest
  | [] => []

/-- Splits at the first closing bracket. -/
def splitClosing : List Char → Option (List Char × List Char)
  | [] => none
  | c :: rest =>
    if c = ']' then some ([], rest)
    else (splitClosing rest).map fun (inner, after) => (c :: inner, after)

/-- The token of a bracket and the text after it, given the text after the opening bracket. The
first character of the class is taken as it is, even if it is a closing bracket. -/
def bracket : List Char → Option (GlobToken × List Char)
  | '!' :: first :: rest =>
    (splitClosing rest).map fun (inner, after) => (.except (classItems (first :: inner)), after)
  | '!' :: [] => none
  | first :: rest =>
    (splitClosing rest).map fun (inner, after) => (.within (classItems (first :: inner)), after)
  | [] => none

/-- Reads a glob, with fuel for its characters; `place` counts the characters before it. An
invalid bracket is reported by its place. -/
def parseFrom : (fuel place : Nat) → List Char → Except Nat Glob
  | _, _, [] => .ok []
  | 0, place, _ :: _ => .error place
  | fuel + 1, place, c :: rest =>
    if c = '?' then (parseFrom fuel (place + 1) rest).map (.anyChar :: ·)
    else if c = '*' then (parseFrom fuel (place + 1) rest).map (.anySequence :: ·)
    else if c = '[' then
      match bracket rest with
      | none => .error place
      | some (token, after) =>
        (parseFrom fuel (place + 1 + (rest.length - after.length)) after).map (token :: ·)
    else (parseFrom fuel (place + 1) rest).map (.char c :: ·)

/-- The glob that a text describes, or the place of an invalid bracket. -/
def parse (text : List Char) : Except Nat Glob :=
  parseFrom text.length 0 text

/-- Whether some mark at or after each place is set. -/
def setFrom : List Bool → List Bool
  | [] => []
  | mark :: marks =>
    let rest := setFrom marks
    (mark || rest.headD false) :: rest

/-- Whether a glob matches each end of a text: the whole text first, the empty end last. Every
token is looked at once for every end, however many sequences there are. -/
def matchesEnds : Glob → List Char → List Bool
  | [], text => text.map (fun _ => false) ++ [true]
  | .anySequence :: tokens, text => setFrom (matchesEnds tokens text)
  | token :: tokens, text =>
    List.zipWith (fun c next => token.accepts c && next) text (matchesEnds tokens text).tail ++
      [false]

/-- Whether a glob matches a whole text. -/
def matchesText (glob : Glob) (text : List Char) : Bool :=
  (matchesEnds glob text).headD false

end Glob

end NotebookLint
