import NotebookLint.Yaml.Token

/-!
# YAML nodes

The node that a document holds. Aliases stay in place and name their node by a number, so that
the tree is finite however the names are used; `Document.resolve` follows them.
-/

namespace NotebookLint.Yaml

/-- What may stand before a node. -/
structure Properties where
  /-- The number of the node's name. -/
  anchor : Option Nat
  /-- The tag. -/
  tag : Option String
  deriving DecidableEq, Repr

/-- A node. -/
inductive Node where
  /-- A scalar. -/
  | scalar (properties : Properties) (form : ScalarForm) (text : String)
  /-- A sequence of nodes. -/
  | sequence (properties : Properties) (items : List Node)
  /-- A mapping of nodes to nodes, in order. -/
  | mapping (properties : Properties) (pairs : List (Node × Node))
  /-- Another node, by the number of its name. -/
  | alias (anchor : Nat)

/-- The node that is meant where nothing is written. -/
def emptyNode (properties : Properties) : Node := .scalar properties .plain ""

/-- Nothing before a node. -/
def noProperties : Properties := ⟨none, none⟩

/-- What has been declared so far. -/
structure Names where
  /-- The tag handles with the beginnings of the tags that they stand for. -/
  handles : List (String × String)
  /-- The names of nodes with their numbers, the latest first. -/
  anchors : List (String × Nat)
  deriving Repr

namespace Names

/-- The handles that need no declaration. -/
def builtinHandles : List (String × String) := [("!", "!"), ("!!", "tag:yaml.org,2002:")]

/-- The number of a name. -/
def number? (names : Names) (name : String) : Option Nat :=
  (names.anchors.find? fun entry => entry.1 = name).map Prod.snd

/-- The number that a name gets: the number of different names before it. A name that is given
again replaces its number. -/
def declare (names : Names) (name : String) : Nat × Names :=
  let number := names.anchors.length
  (number, { names with
    anchors := (name, number) :: names.anchors.filter fun entry => entry.1 ≠ name })

/-- The tag that a handle and a suffix stand for. -/
def tag? (names : Names) (handle suffix : String) : Option String :=
  if handle.isEmpty then some suffix
  else
    ((names.handles ++ builtinHandles).find? fun entry => entry.1 = handle).map fun entry =>
      entry.2 ++ suffix

end Names

/-- What has been read, with the tokens after it and what has been declared. -/
abbrev Taken (α : Type) := α × List Token × Names

/-- The tags and names before a node: at most one of each, in either order. -/
def readProperties (tokens : List Token) (names : Names) :
    Option (Option String × Option String × List Token) :=
  match tokens with
  | .anchor name :: .tag handle suffix :: rest | .tag handle suffix :: .anchor name :: rest =>
    (names.tag? handle suffix).map fun tag => (some name, some tag, rest)
  | .anchor name :: rest => some (some name, none, rest)
  | .tag handle suffix :: rest =>
    (names.tag? handle suffix).map fun tag => (none, some tag, rest)
  | rest => some (none, none, rest)

/-- Gives a node its number, if it has a name. -/
def declareAnchor (anchor : Option String) (names : Names) : Option Nat × Names :=
  match anchor with
  | none => (none, names)
  | some name =>
    let (number, names) := names.declare name
    (some number, names)

/-- Whether a key or a value in a block is left out before this token. -/
def endsBlockPart : Option Token → Bool
  | some .key | some .value | some .blockEnd => true
  | _ => false

/-- The tag of a scalar; a lone exclamation mark counts as no tag. -/
def scalarTag (tag : Option String) : Option String := tag.filter (· ≠ "!")

mutual

/-- A node, in a block or in brackets; only below a key an item sign may begin a sequence. Fuel
for the tokens. -/
def readNode : (fuel : Nat) → (block belowKey : Bool) → List Token → Names → Option (Taken Node)
  | 0, _, _, _, _ => none
  | fuel + 1, block, belowKey, tokens, names =>
    match tokens with
    | .alias name :: rest => (names.number? name).map fun number => (.alias number, rest, names)
    | _ =>
      match readProperties tokens names with
      | none => none
      | some (anchor, tag, rest) =>
        let (number, named) := declareAnchor anchor names
        let properties : Properties := ⟨number, tag⟩
        let sequence : Option (Taken (List Node)) → Option (Taken Node) :=
          Option.map fun (items, after) => (.sequence properties items, after)
        let mapping : Option (Taken (List (Node × Node))) → Option (Taken Node) :=
          Option.map fun (pairs, after) => (.mapping properties pairs, after)
        match rest, block, belowKey with
        | .blockEntry :: after, _, true =>
          sequence (readIndentless fuel (.blockEntry :: after) named)
        | .scalar form text :: after, _, _ =>
          some (.scalar ⟨number, scalarTag tag⟩ form text, after, named)
        | .flowSequenceStart :: after, _, _ => sequence (readFlowItems fuel true after named)
        | .flowMappingStart :: after, _, _ => mapping (readFlowPairs fuel true after named)
        | .blockSequenceStart :: after, true, _ => sequence (readBlockItems fuel after named)
        | .blockMappingStart :: after, true, _ => mapping (readBlockPairs fuel after named)
        | after, _, _ =>
          if anchor.isSome || tag.isSome then some (emptyNode properties, after, named) else none

/-- The items of a block sequence up to its end. -/
def readBlockItems : (fuel : Nat) → List Token → Names → Option (Taken (List Node))
  | 0, _, _ => none
  | fuel + 1, tokens, names =>
    match tokens with
    | .blockEnd :: rest => some ([], rest, names)
    | .blockEntry :: rest => do
      let (first, rest, names) ←
        if rest.head? = some .blockEntry ∨ rest.head? = some .blockEnd then
          some (emptyNode noProperties, rest, names)
        else readNode fuel true false rest names
      let (others, after) ← readBlockItems fuel rest names
      some (first :: others, after)
    | _ => none

/-- The items of a sequence that stands below a key at the key's own column. -/
def readIndentless : (fuel : Nat) → List Token → Names → Option (Taken (List Node))
  | 0, _, _ => none
  | fuel + 1, tokens, names =>
    match tokens with
    | .blockEntry :: rest => do
      let (first, rest, names) ←
        if rest.head? = some .blockEntry ∨ endsBlockPart rest.head? then
          some (emptyNode noProperties, rest, names)
        else readNode fuel true false rest names
      let (others, after) ← readIndentless fuel rest names
      some (first :: others, after)
    | rest => some ([], rest, names)

/-- The pairs of a block mapping up to its end. -/
def readBlockPairs : (fuel : Nat) → List Token → Names → Option (Taken (List (Node × Node)))
  | 0, _, _ => none
  | fuel + 1, tokens, names =>
    match tokens with
    | .blockEnd :: rest => some ([], rest, names)
    | .key :: rest => do
      let (first, rest, names) ←
        if endsBlockPart rest.head? then some (emptyNode noProperties, rest, names)
        else readNode fuel true true rest names
      let (second, rest, names) ←
        match rest with
        | .value :: rest =>
          if endsBlockPart rest.head? then some (emptyNode noProperties, rest, names)
          else readNode fuel true true rest names
        | rest => some (emptyNode noProperties, rest, names)
      let (others, after) ← readBlockPairs fuel rest names
      some ((first, second) :: others, after)
    | _ => none

/-- The items of a sequence in brackets up to its end; `first` says whether none has been read. A
pair among them is a mapping of its own. -/
def readFlowItems : (fuel : Nat) → (first : Bool) → List Token → Names → Option (Taken (List Node))
  | 0, _, _, _ => none
  | fuel + 1, first, tokens, names =>
    match tokens, first with
    | .flowSequenceEnd :: rest, _ => some ([], rest, names)
    | .flowEntry :: .flowSequenceEnd :: rest, false => some ([], rest, names)
    | .flowEntry :: rest, false | rest, true => do
      let (item, rest, names) ←
        match rest with
        | .key :: rest => readFlowPair fuel rest names
        | rest => readNode fuel false false rest names
      let (others, after) ← readFlowItems fuel false rest names
      some (item :: others, after)
    | _, false => none

/-- A pair in a sequence in brackets, after the sign before its key. Where the key is left out
the next token is passed over. -/
def readFlowPair : (fuel : Nat) → List Token → Names → Option (Taken Node)
  | 0, _, _ => none
  | fuel + 1, tokens, names => do
    let (key, rest, names) ←
      match tokens with
      | .value :: rest | .flowEntry :: rest | .flowSequenceEnd :: rest =>
        some (emptyNode noProperties, rest, names)
      | rest => readNode fuel false false rest names
    let (value, rest, names) ←
      match rest with
      | .value :: rest =>
        if rest.head? = some .flowEntry ∨ rest.head? = some .flowSequenceEnd then
          some (emptyNode noProperties, rest, names)
        else readNode fuel false false rest names
      | rest => some (emptyNode noProperties, rest, names)
    some (.mapping noProperties [(key, value)], rest, names)

/-- The pairs of a mapping in braces up to its end; `first` says whether none has been read. -/
def readFlowPairs : (fuel : Nat) → (first : Bool) → List Token → Names →
    Option (Taken (List (Node × Node)))
  | 0, _, _, _ => none
  | fuel + 1, first, tokens, names =>
    match tokens, first with
    | .flowMappingEnd :: rest, _ => some ([], rest, names)
    | .flowEntry :: .flowMappingEnd :: rest, false => some ([], rest, names)
    | .flowEntry :: rest, false | rest, true => do
      let (pair, rest, names) ←
        match rest with
        | .key :: rest => do
          let (key, rest, names) ←
            match rest with
            | .value :: _ | .flowEntry :: _ | .flowMappingEnd :: _ =>
              some (emptyNode noProperties, rest, names)
            | _ => readNode fuel false false rest names
          let (value, rest, names) ←
            match rest with
            | .value :: rest =>
              if rest.head? = some .flowEntry ∨ rest.head? = some .flowMappingEnd then
                some (emptyNode noProperties, rest, names)
              else readNode fuel false false rest names
            | rest => some (emptyNode noProperties, rest, names)
          some ((key, value), rest, names)
        | rest => do
          let (key, rest, names) ← readNode fuel false false rest names
          some ((key, emptyNode noProperties), rest, names)
      let (others, after) ← readFlowPairs fuel false rest names
      some (pair :: others, after)
    | _, false => none

end

/-- The directives before a document: at most one version, which is 1.1 or 1.2, and no handle
twice. -/
def readDirectives : (versioned : Bool) → List (String × String) → List Token →
    Option (List (String × String) × List Token)
  | versioned, handles, .version major minor :: rest =>
    if versioned ∨ major ≠ 1 ∨ (minor ≠ 1 ∧ minor ≠ 2) then none
    else readDirectives true handles rest
  | versioned, handles, .tagHandle handle start :: rest =>
    if handles.any fun entry => entry.1 = handle then none
    else readDirectives versioned (handles ++ [(handle, start)]) rest
  | _, handles, rest => some (handles, rest)

/-- Whether the document after its mark is left empty before this token. -/
def endsDocument : Option Token → Bool
  | none | some (.version _ _) | some (.tagHandle _ _) | some .documentStart
  | some .documentEnd => true
  | _ => false

/-- The marks at the end of a document are passed over. -/
def dropEndMarks : List Token → List Token
  | .documentEnd :: rest => dropEndMarks rest
  | rest => rest

/-- A document: its node, if it has one. -/
structure Document where
  /-- The node. -/
  root : Option Node

namespace Document

/-- The only document of a text. A text without one is an empty document, and one with several
is refused. -/
def ofText (text : List Char) : Option Document := do
  let tokens ← tokens text
  let (handles, rest) ← readDirectives false [] tokens
  let names : Names := ⟨handles, []⟩
  let fuel := 8 * tokens.length + 8
  let finish (node : Node) (rest : List Token) : Option Document :=
    if (dropEndMarks rest).isEmpty then some ⟨some node⟩ else none
  match rest with
  | .documentStart :: rest =>
    if endsDocument rest.head? then finish (emptyNode noProperties) rest
    else (readNode fuel true false rest names).bind fun (node, rest, _) => finish node rest
  | rest =>
    if tokens.isEmpty then some ⟨none⟩
    else if rest.length < tokens.length then none
    else (readNode fuel true false rest names).bind fun (node, rest, _) => finish node rest

mutual

/-- The last node of a tree that has a number. -/
def lastNumbered (number : Nat) : Node → Option Node
  | .scalar properties form text =>
    if properties.anchor = some number then some (.scalar properties form text) else none
  | .sequence properties items =>
    (lastInItems number items).orElse fun _ =>
      if properties.anchor = some number then some (.sequence properties items) else none
  | .mapping properties pairs =>
    (lastInPairs number pairs).orElse fun _ =>
      if properties.anchor = some number then some (.mapping properties pairs) else none
  | .alias _ => none

/-- The last node in a list of trees that has a number. -/
def lastInItems (number : Nat) : List Node → Option Node
  | [] => none
  | item :: items => (lastInItems number items).orElse fun _ => lastNumbered number item

/-- The last node in a list of pairs that has a number. -/
def lastInPairs (number : Nat) : List (Node × Node) → Option Node
  | [] => none
  | (key, value) :: pairs =>
    (lastInPairs number pairs).orElse fun _ =>
      (lastNumbered number value).orElse fun _ => lastNumbered number key

end

/-- The node that a node stands for. -/
def resolve (document : Document) : Node → Option Node
  | .alias number => document.root.bind (lastNumbered number)
  | node => some node

end Document

end NotebookLint.Yaml
