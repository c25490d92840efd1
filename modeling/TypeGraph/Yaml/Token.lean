import TypeGraph.Yaml.Scalar

/-!
# TypeGraph.Yaml.Token

The tokens of a YAML text.

1. Indentation is made into tokens: a block collection starts at the first
   entry that is indented more than what it stands in, and ends in front of
   the first token that is indented less.  Inside brackets and braces
   indentation means nothing.
2. A key without a `?` is found out only by the `:` after it.  Until then a
   token that may be a key is remembered, and `:` puts the key token in front
   of it.  Such a key stands on one line, and the `:` comes at most 1024
   bytes after its start.
3. Where a block mapping is open, a token at its column must be a key.
4. A collection or key may start only at the start of a line, or after the
   mark of another entry.

Anchors, aliases, tags, directives and block scalars are not accepted.
-/

namespace TypeGraph.Yaml

inductive Token where
  | documentStart
  | documentEnd
  | blockSequenceStart
  | blockMappingStart
  | blockEnd
  | sequenceStart
  | sequenceEnd
  | mappingStart
  | mappingEnd
  | blockEntry
  | flowEntry
  | key
  | value
  /-- A scalar; `isPlain` if it is not in quotes. -/
  | scalar (text : String) (isPlain : Bool)
  deriving DecidableEq, Repr

/-- A token that may turn out to be a key. -/
structure PossibleKey where
  /-- How many tokens there are before it. -/
  index : Nat
  line : Nat
  column : Nat
  /-- How many bytes there are before it in its line. -/
  offset : Nat
  /-- Whether it must be a key. -/
  isRequired : Bool
  deriving Repr

/-- How far a text has been read. -/
structure Scanner where
  tokens : Array Token
  /-- The columns of the open block collections, innermost first. -/
  indents : List Nat
  /-- What may be a key in the innermost open bracket or brace, or outside of
  them. -/
  possible : Option PossibleKey
  /-- The same for those around it. -/
  outer : List (Option PossibleKey)
  /-- Whether a collection or key may start here. -/
  mayStart : Bool

namespace Scanner

def start : Scanner := ⟨#[], [], none, [], true⟩

def inFlow (s : Scanner) : Bool := !s.outer.isEmpty

def push (s : Scanner) (token : Token) : Scanner :=
  { s with tokens := s.tokens.push token }

/-! ## Indentation -/

/-- Starts a block collection in front of the token at `index`, if the column
is deeper than that of the innermost open one. -/
def indentTo (s : Scanner) (column index : Nat) (token : Token) : Scanner :=
  if s.inFlow || s.indents.head?.any (column ≤ ·) then s
  else { s with
    indents := column :: s.indents
    tokens := s.tokens.insertIdxIfInBounds index token }

/-- Ends the block collections that are deeper than the column. -/
def unindentTo (s : Scanner) (column : Nat) : Scanner :=
  if s.inFlow then s
  else
    let ended := s.indents.takeWhile (column < ·)
    { s with
      indents := s.indents.dropWhile (column < ·)
      tokens := ended.foldl (fun tokens _ => tokens.push .blockEnd) s.tokens }

def unindent (s : Scanner) : Scanner :=
  if s.inFlow then s
  else { s with
    indents := []
    tokens := s.indents.foldl (fun tokens _ => tokens.push .blockEnd) s.tokens }

/-! ## Keys -/

/-- Forgets what may be a key, unless it must be one. -/
def dropKey? (s : Scanner) : Option Scanner :=
  if s.possible.any (·.isRequired) then none else some { s with possible := none }

/-- Remembers that the next token, which stands at `c`, may be a key. -/
def markKey? (s : Scanner) (c : Placed) : Option Scanner :=
  if s.mayStart then
    s.dropKey?.map fun s => { s with
      possible := some ⟨s.tokens.size, c.line, c.column, c.offset,
        !s.inFlow && s.indents.head? == some c.column⟩ }
  else some s

/-- What may still be a key when the text has been read up to `c`: a key
stands on one line and is not too long.  Fails if it must be one. -/
def freshKey? (c : Placed) : Option PossibleKey → Option (Option PossibleKey)
  | none => some none
  | some k =>
    if k.line < c.line || k.offset + 1024 < c.offset then
      if k.isRequired then none else some none
    else some (some k)

/-- Forgets what cannot be a key any more. -/
def dropStaleKeys? (s : Scanner) (c : Placed) : Option Scanner := do
  return { s with
    possible := ← freshKey? c s.possible
    outer := ← s.outer.mapM (freshKey? c) }

/-! ## Space -/

/-- What comes after the space and the comments at the start of the
characters, and whether a collection or key may start there.  A tab is no
indentation.  `inComment` if the characters are those of a comment. -/
def skipSpace (flow inComment mayStart : Bool) : List Placed → Bool × List Placed
  | [] => (mayStart, [])
  | c :: rest =>
    if isBreak c.char then skipSpace flow false (mayStart || !flow) rest
    else if inComment then skipSpace flow true mayStart rest
    else if c.char = '#' then skipSpace flow true mayStart rest
    else if c.char = ' ' ∨ (c.char = '\t' ∧ (flow ∨ !mayStart))
        ∨ (c.char = '\uFEFF' ∧ c.column = 0) then
      skipSpace flow false mayStart rest
    else (mayStart, c :: rest)

/-! ## Tokens -/

/-- The mark that begins or ends a document. -/
def document? (s : Scanner) (token : Token) : Option Scanner := do
  let s ← s.unindent.dropKey?
  return { s.push token with mayStart := false }

/-- A bracket or brace that opens. -/
def openFlow? (s : Scanner) (c : Placed) (token : Token) : Option Scanner := do
  let s ← s.markKey? c
  return { s.push token with possible := none, outer := s.possible :: s.outer, mayStart := true }

def closeFlow? (s : Scanner) (token : Token) : Option Scanner := do
  let s := { (← s.dropKey?).push token with mayStart := false }
  match s.outer with
  | [] => return s
  | possible :: outer => return { s with possible := possible, outer := outer }

/-- A comma inside brackets or braces. -/
def flowEntry? (s : Scanner) : Option Scanner := do
  return { (← s.dropKey?).push .flowEntry with mayStart := true }

/-- The mark at `c` of an entry of a block collection, which it may start. -/
def entry? (s : Scanner) (c : Placed) (collection token : Token) : Option Scanner := do
  if !s.inFlow && !s.mayStart then none
  return (← (s.indentTo c.column s.tokens.size collection).dropKey?).push token

/-- The mark of an item of a block sequence. -/
def blockEntry? (s : Scanner) (c : Placed) : Option Scanner := do
  return { ← s.entry? c .blockSequenceStart .blockEntry with mayStart := true }

/-- The mark in front of a key. -/
def key? (s : Scanner) (c : Placed) : Option Scanner := do
  return { ← s.entry? c .blockMappingStart .key with mayStart := !s.inFlow }

/-- The mark in front of a value, which makes what may be a key a key. -/
def value? (s : Scanner) (c : Placed) : Option Scanner :=
  match s.possible with
  | some k =>
    let s := { s with
      tokens := s.tokens.insertIdxIfInBounds k.index .key
      possible := none }
    some { (s.indentTo k.column k.index .blockMappingStart).push .value with mayStart := false }
  | none => do
    return { ← s.entry? c .blockMappingStart .value with mayStart := !s.inFlow }

def scalar? (s : Scanner) (c : Placed) (text : List Char) (isPlain : Bool) :
    Option Scanner := do
  return { (← s.markKey? c).push (.scalar (String.ofList text) isPlain) with mayStart := false }

/-- Whether no plain scalar may start with a character. -/
def isIndicator (c : Char) : Bool :=
  ['-', '?', ':', ',', '[', ']', '\x7b', '\x7d', '#', '&', '*', '!', '|', '>', '\'', '"', '%',
    '@', '\x60'].contains c

/-- Whether a plain scalar starts with the character `c`: some indicators are
none in front of other text. -/
def startsPlain (flow : Bool) (c : Placed) (rest : List Placed) : Bool :=
  !(isSpace c.char || isIndicator c.char)
    || (c.char == '-' && !(rest.head?.any (isBlank ·.char)))
    || (!flow && (c.char == '?' || c.char == ':') && !Placed.startsSpace rest)

/-- The scanner after the token that starts with the character `c`, and what
comes after it. -/
def token? (s : Scanner) (c : Placed) (rest : List Placed) : Option (Scanner × List Placed) :=
  if c.column = 0 ∧ c.char = '%' then none
  else if Placed.startsMark '-' (c :: rest) then
    (s.document? .documentStart).map (·, rest.drop 2)
  else if Placed.startsMark '.' (c :: rest) then
    (s.document? .documentEnd).map (·, rest.drop 2)
  else if c.char = '[' then (s.openFlow? c .sequenceStart).map (·, rest)
  else if c.char = '\x7b' then (s.openFlow? c .mappingStart).map (·, rest)
  else if c.char = ']' then (s.closeFlow? .sequenceEnd).map (·, rest)
  else if c.char = '\x7d' then (s.closeFlow? .mappingEnd).map (·, rest)
  else if c.char = ',' then s.flowEntry?.map (·, rest)
  else if c.char = '-' ∧ Placed.startsSpace rest then (s.blockEntry? c).map (·, rest)
  else if c.char = '?' ∧ (s.inFlow ∨ Placed.startsSpace rest) then (s.key? c).map (·, rest)
  else if c.char = ':' ∧ (s.inFlow ∨ Placed.startsSpace rest) then (s.value? c).map (·, rest)
  else if c.char = '\'' ∨ c.char = '"' then do
    let (text, after) ← quoted? c.char rest
    return (← s.scalar? c text false, after)
  else if startsPlain s.inFlow c rest then do
    let plain ← plain? s.inFlow (s.indents.head?.elim 0 (· + 1)) (c :: rest)
    let s ← s.scalar? c plain.text true
    return ({ s with mayStart := plain.endsLine }, plain.rest)
  else none

/-- The tokens of a text that has been read to its end. -/
def finish? (s : Scanner) : Option (List Token) :=
  s.unindent.dropKey?.map (·.tokens.toList)

/-- The tokens of a text that has been read so far and goes on with the
characters.  Every token takes at least one of them. -/
def scan? : Nat → Scanner → List Placed → Option (List Token)
  | 0, _, _ => none
  | fuel + 1, s, chars =>
    match skipSpace s.inFlow false s.mayStart chars with
    | (_, []) => s.finish?
    | (mayStart, c :: rest) => do
      let s ← { s with mayStart := mayStart }.dropStaleKeys? c
      let (s, after) ← (s.unindentTo c.column).token? c rest
      scan? fuel s after

end Scanner

def tokens? (text : List Char) : Option (List Token) := do
  let chars ← place? text
  Scanner.start.scan? (chars.length + 1) chars

end TypeGraph.Yaml
