import TypeGraph.Text.Hexadecimal
import TypeGraph.Yaml.Placed

/-!
# TypeGraph.Yaml.Scalar

The text of a scalar, in quotes or without.

1. The space between two words stays as it is within a line.  Across lines
   it is folded: one line break becomes a space, and of more than one the
   first is dropped.
2. In single quotes, a quote is written twice.  In double quotes, a backslash
   starts an escape, or joins two lines.
3. A plain scalar ends in front of `: `, of a comment and of a line that is
   not indented enough; inside brackets and braces, their punctuation ends
   it too.
4. No scalar goes on past the mark that begins or ends a document.
-/

namespace TypeGraph.Yaml

/-! ## Folding -/

/-- The space between two words, folded if there is a line break in it. -/
def foldSpace (space : List Char) : List Char :=
  match space.dropWhile isBlank with
  | [] => space
  | first :: rest =>
    let more := rest.filter isBreak
    if first = '\n' then if more.isEmpty then [' '] else more
    else first :: more

/-- What stands between quotes, one character or escape at a time. -/
inductive Piece where
  | char (c : Char)
  | escape (c : Char)
  /-- A backslash at the end of a line. -/
  | joined

/-- The space that has been read since the last word. -/
inductive Gap where
  | space (chars : List Char)
  /-- The space after a line that has been joined to the next one. -/
  | joined (chars : List Char)

namespace Gap

/-- What the space stands for. -/
def text : Gap → List Char
  | .space chars => foldSpace chars
  | .joined chars => chars.filter isBreak

/-- The gap with one more character. -/
def push (gap : Gap) (c : Char) : Gap :=
  match gap with
  | .space chars => .space (chars ++ [c])
  | .joined chars => .joined (chars ++ [c])

end Gap

/-- The text that pieces stand for, after a gap. -/
def foldPieces (gap : Gap) : List Piece → List Char
  | [] => gap.text
  | .char c :: rest =>
    if isSpace c then foldPieces (gap.push c) rest
    else gap.text ++ c :: foldPieces (.space []) rest
  | .escape c :: rest => gap.text ++ c :: foldPieces (.space []) rest
  | .joined :: rest => gap.text ++ foldPieces (.joined []) rest

/-! ## Quotes -/

/-- The character that an escape of one character stands for. -/
def escaped? : Char → Option Char
  | '0' => some '\x00'
  | 'a' => some '\x07'
  | 'b' => some '\x08'
  | 't' => some '\t'
  | '\t' => some '\t'
  | 'n' => some '\n'
  | 'v' => some '\x0b'
  | 'f' => some '\x0c'
  | 'r' => some '\r'
  | 'e' => some '\x1b'
  | ' ' => some ' '
  | '"' => some '"'
  | '/' => some '/'
  | '\\' => some '\\'
  | 'N' => some '\x85'
  | '_' => some '\u00a0'
  | 'L' => some '\u2028'
  | 'P' => some '\u2029'
  | _ => none

/-- How many hexadecimal digits follow the character in an escape. -/
def escapeWidth? : Char → Option Nat
  | 'x' => some 2
  | 'u' => some 4
  | 'U' => some 8
  | _ => none

/-- The piece that an escape is and what comes after it, given the character
after the backslash. -/
def escape? (c : Char) (rest : List Placed) : Option (Piece × List Placed) :=
  if isBreak c then some (.joined, rest)
  else match escapeWidth? c with
    | some width =>
      (Text.hexChar? width ((rest.take width).map (·.char))).map fun e =>
        (.escape e, rest.drop width)
    | none => (escaped? c).map fun e => (.escape e, rest)

theorem length_escape? {c : Char} {rest after : List Placed} {piece : Piece}
    (h : escape? c rest = some (piece, after)) : after.length ≤ rest.length := by
  unfold escape? at h
  split at h
  · cases h
    exact Nat.le_refl _
  · split at h
    all_goals
      simp only [Option.map_eq_some_iff, Prod.mk.injEq] at h
      obtain ⟨_, -, -, rfl⟩ := h
      simp

/-- The pieces up to the closing single quote, and what comes after it. -/
def singlePieces? : List Placed → Option (List Piece × List Placed)
  | [] => none
  | c :: rest =>
    if Placed.startsDocumentMark (c :: rest) then none
    else if c.char = '\'' then
      match rest with
      | d :: after =>
        if d.char = '\'' then
          (singlePieces? after).map fun (pieces, out) => (.escape '\'' :: pieces, out)
        else some ([], d :: after)
      | [] => some ([], [])
    else (singlePieces? rest).map fun (pieces, out) => (.char c.char :: pieces, out)

/-- The pieces up to the closing double quote, and what comes after it. -/
def doublePieces? : List Placed → Option (List Piece × List Placed)
  | [] => none
  | c :: rest =>
    if Placed.startsDocumentMark (c :: rest) then none
    else if c.char = '"' then some ([], rest)
    else if c.char = '\\' then
      match rest with
      | [] => none
      | d :: rest =>
        match _h : escape? d.char rest with
        | none => none
        | some (piece, after) =>
          (doublePieces? after).map fun (pieces, out) => (piece :: pieces, out)
    else (doublePieces? rest).map fun (pieces, out) => (.char c.char :: pieces, out)
termination_by chars => chars.length
decreasing_by
  · have := length_escape? _h
    simp only [List.length_cons]
    omega
  · simp

/-- The text after an opening quote, and what comes after the closing one. -/
def quoted? (quote : Char) (rest : List Placed) : Option (List Char × List Placed) :=
  (if quote = '\'' then singlePieces? rest else doublePieces? rest).map fun (pieces, after) =>
    (foldPieces (.space []) pieces, after)

/-! ## Plain scalars -/

/-- Whether a character is punctuation inside brackets and braces. -/
def isFlowMark (c : Char) : Bool :=
  c == ',' || c == '[' || c == ']' || c == '\x7b' || c == '\x7d'

/-- One word of a plain scalar, which may be empty, and what comes after it.
Inside brackets and braces (`flow`) no punctuation may follow a colon. -/
def plainWord? (flow : Bool) : List Placed → Option (List Char × List Placed)
  | [] => some ([], [])
  | c :: rest =>
    if isSpace c.char then some ([], c :: rest)
    else if flow && c.char == ':'
        && rest.head?.any (fun d => isFlowMark d.char || d.char == '?') then none
    else if (c.char == ':' && Placed.startsSpace rest) || (flow && isFlowMark c.char) then
      some ([], c :: rest)
    else (plainWord? flow rest).map fun (word, after) => (c.char :: word, after)

/-- A plain scalar read so far. -/
structure Plain where
  text : List Char
  /-- What comes after it and the space behind it. -/
  rest : List Placed
  /-- Whether it ends in front of a line break. -/
  endsLine : Bool

/-- The space at the start of the characters, and what comes after it. -/
def space (chars : List Placed) : List Placed × List Placed :=
  (chars.takeWhile (isSpace ·.char), chars.dropWhile (isSpace ·.char))

/-- Whether a tab stands where a line should be indented. -/
def hasTabIndent (indent : Nat) (space : List Placed) : Bool :=
  (space.dropWhile (!isBreak ·.char)).any fun c => c.char == '\t' && c.column < indent

/-- Whether a plain scalar ends in front of a character because of its place,
or because it starts a comment. -/
def endsPlain (flow : Bool) (indent : Nat) (chars : List Placed) : Bool :=
  match chars with
  | [] => true
  | c :: _ =>
    (!flow && c.column < indent) || c.char == '#' || Placed.startsDocumentMark chars

/-- The words of a plain scalar after the given text, with the space in front
of each.  Lines after the first one are indented by `indent` columns. -/
def plainWords? (flow : Bool) (indent : Nat) : Nat → List Char → List Placed → Option Plain
  | 0, _, _ => none
  | fuel + 1, text, chars => do
    let (gap, rest) := space chars
    let endsLine := gap.any (isBreak ·.char)
    if gap.isEmpty then return ⟨text, rest, false⟩
    if hasTabIndent indent gap then none
    if endsPlain flow indent rest then return ⟨text, rest, endsLine⟩
    let (word, after) ← plainWord? flow rest
    if word.isEmpty then return ⟨text, rest, endsLine⟩
    plainWords? flow indent fuel (text ++ foldSpace (gap.map (·.char)) ++ word) after

def plain? (flow : Bool) (indent : Nat) (chars : List Placed) : Option Plain := do
  let (word, after) ← plainWord? flow chars
  plainWords? flow indent (after.length + 1) word after

end TypeGraph.Yaml
