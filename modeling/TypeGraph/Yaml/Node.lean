import TypeGraph.Yaml.Token

/-!
# TypeGraph.Yaml.Node

From tokens to the node that a YAML text holds.

1. A text holds at most one document, whose begin may be marked, and so may
   its end.
2. An item, key or value may be left out where the tokens show that there
   should be one; it is then a plain scalar of no characters.
3. As a value or key in a block mapping, a block sequence may be as little
   indented as the mapping.
4. A single key with its value in a flow sequence is a mapping of its own.
-/

namespace TypeGraph.Yaml

/-- What a text holds. -/
inductive Node where
  /-- A scalar; `isPlain` if it is not in quotes. -/
  | scalar (text : String) (isPlain : Bool)
  | sequence (items : List Node)
  | mapping (entries : List (Node × Node))

/-- What stands where nothing is written. -/
def Node.absent : Node := .scalar "" true

def startsWith (choices tokens : List Token) : Bool := tokens.head?.any choices.contains

mutual

/-- A node, and what comes after it.  `block` if it may be a block
collection, and `indentless` if it may be a block sequence that is not
indented. -/
def node? (block indentless : Bool) : Nat → List Token → Option (Node × List Token)
  | 0, _ => none
  | fuel + 1, tokens =>
    match tokens with
    | .scalar text isPlain :: rest => some (.scalar text isPlain, rest)
    | .sequenceStart :: .sequenceEnd :: rest => some (.sequence [], rest)
    | .sequenceStart :: rest =>
      (flowItems? fuel rest).map fun (items, rest) => (.sequence items, rest)
    | .mappingStart :: .mappingEnd :: rest => some (.mapping [], rest)
    | .mappingStart :: rest =>
      (flowEntries? fuel rest).map fun (entries, rest) => (.mapping entries, rest)
    | .blockEntry :: _ =>
      if indentless then
        (indentlessItems? fuel tokens).map fun (items, rest) => (.sequence items, rest)
      else none
    | .blockSequenceStart :: rest =>
      if block then (blockItems? fuel rest).map fun (items, rest) => (.sequence items, rest)
      else none
    | .blockMappingStart :: rest =>
      if block then
        (blockEntries? fuel rest).map fun (entries, rest) => (.mapping entries, rest)
      else none
    | _ => none

/-- The node in front of one of the given tokens, unless it is left out. -/
def nodeBefore? (choices : List Token) (block indentless : Bool) :
    Nat → List Token → Option (Node × List Token)
  | 0, _ => none
  | fuel + 1, tokens =>
    if startsWith choices tokens then some (.absent, tokens)
    else node? block indentless fuel tokens

/-- The value in front of one of the given tokens, unless it is left out. -/
def valueBefore? (choices : List Token) (block : Bool) :
    Nat → List Token → Option (Node × List Token)
  | 0, _ => none
  | fuel + 1, tokens =>
    match tokens with
    | .value :: rest => nodeBefore? choices block block fuel rest
    | tokens => some (.absent, tokens)

/-- The items of a block sequence up to its end. -/
def blockItems? : Nat → List Token → Option (List Node × List Token)
  | 0, _ => none
  | fuel + 1, tokens =>
    match tokens with
    | .blockEnd :: rest => some ([], rest)
    | .blockEntry :: rest => do
      let (item, rest) ← nodeBefore? [.blockEntry, .blockEnd] true false fuel rest
      let (items, rest) ← blockItems? fuel rest
      return (item :: items, rest)
    | _ => none

/-- The items of a block sequence that is not indented; it ends where there
is no further item. -/
def indentlessItems? : Nat → List Token → Option (List Node × List Token)
  | 0, _ => none
  | fuel + 1, tokens =>
    match tokens with
    | .blockEntry :: rest => do
      let (item, rest) ← nodeBefore? [.blockEntry, .key, .value, .blockEnd] true false fuel rest
      let (items, rest) ← indentlessItems? fuel rest
      return (item :: items, rest)
    | tokens => some ([], tokens)

/-- The entries of a block mapping up to its end. -/
def blockEntries? : Nat → List Token → Option (List (Node × Node) × List Token)
  | 0, _ => none
  | fuel + 1, tokens =>
    match tokens with
    | .blockEnd :: rest => some ([], rest)
    | .key :: rest => do
      let (key, rest) ← nodeBefore? [.key, .value, .blockEnd] true true fuel rest
      let (value, rest) ← valueBefore? [.key, .value, .blockEnd] true fuel rest
      let (entries, rest) ← blockEntries? fuel rest
      return ((key, value) :: entries, rest)
    | _ => none

/-- An item of a flow sequence.  A `?` in front of no key takes the mark after
it instead. -/
def flowItem? : Nat → List Token → Option (Node × List Token)
  | 0, _ => none
  | fuel + 1, tokens =>
    match tokens with
    | .key :: rest => do
      let (key, rest) ←
        if startsWith [.value, .flowEntry, .sequenceEnd] rest then
          some (.absent, rest.drop 1)
        else node? false false fuel rest
      let (value, rest) ← valueBefore? [.flowEntry, .sequenceEnd] false fuel rest
      return (.mapping [(key, value)], rest)
    | tokens => node? false false fuel tokens

/-- The items of a flow sequence from one of them up to its bracket. -/
def flowItems? : Nat → List Token → Option (List Node × List Token)
  | 0, _ => none
  | fuel + 1, tokens => do
    let (item, rest) ← flowItem? fuel tokens
    match rest with
    | .sequenceEnd :: rest => return ([item], rest)
    | .flowEntry :: .sequenceEnd :: rest => return ([item], rest)
    | .flowEntry :: rest =>
      let (items, rest) ← flowItems? fuel rest
      return (item :: items, rest)
    | _ => none

def flowMappingEntry? : Nat → List Token → Option ((Node × Node) × List Token)
  | 0, _ => none
  | fuel + 1, tokens =>
    match tokens with
    | .key :: rest => do
      let (key, rest) ← nodeBefore? [.value, .flowEntry, .mappingEnd] false false fuel rest
      let (value, rest) ← valueBefore? [.flowEntry, .mappingEnd] false fuel rest
      return ((key, value), rest)
    | tokens => (node? false false fuel tokens).map fun (key, rest) => ((key, .absent), rest)

/-- The entries of a flow mapping from one of them up to its brace. -/
def flowEntries? : Nat → List Token → Option (List (Node × Node) × List Token)
  | 0, _ => none
  | fuel + 1, tokens => do
    let (entry, rest) ← flowMappingEntry? fuel tokens
    match rest with
    | .mappingEnd :: rest => return ([entry], rest)
    | .flowEntry :: .mappingEnd :: rest => return ([entry], rest)
    | .flowEntry :: rest =>
      let (entries, rest) ← flowEntries? fuel rest
      return (entry :: entries, rest)
    | _ => none

end

/-- The node of a document, from the mark of its begin or from its first
token on, and what comes after it. -/
def documentNode? (tokens : List Token) : Option (Node × List Token) :=
  let fuel := 4 * (tokens.length + 1)
  match tokens with
  | .documentStart :: rest =>
    if rest.isEmpty || startsWith [.documentStart, .documentEnd] rest then
      some (.absent, rest)
    else node? true false fuel rest
  | tokens => node? true false fuel tokens

/-- The node that tokens spell; without any there is nothing. -/
def ofTokens? (tokens : List Token) : Option Node :=
  if tokens.isEmpty then some .absent
  else do
    let (node, rest) ← documentNode? tokens
    if rest.all (· == .documentEnd) then some node else none

def parse? (text : String) : Option Node := (tokens? text.toList).bind ofTokens?

end TypeGraph.Yaml
