import TypeGraph.Toml.Number

/-!
# TypeGraph.Toml.Reader

From tokens to the sections of a TOML 0.5 text: each header with the keys
below it, and the keys in front of the first header.

1. Keys may be dotted.  A dotted key adds to the table that an earlier dotted
   key of the same section opened, and to no other value.
2. An array may spread over lines, hold values of any kind and end with a
   comma; an inline table stands on one line and may not end with one.
3. A header or a key with its value ends its line.
-/

namespace TypeGraph.Toml

inductive Value where
  | text (value : String)
  | flag (value : Bool)
  | number
  | date
  | array (items : List Value)
  /-- An inline table. -/
  | table (fields : List (String × Value))
  /-- A table opened by a dotted key. -/
  | dotted (fields : List (String × Value))

/-- A header and the fields below it. -/
structure Section where
  /-- The keys of the header; none for the fields in front of any header. -/
  path : List String
  /-- Whether the header stands in double brackets. -/
  isArray : Bool
  fields : List (String × Value)

/-- The fields with one more, given by a key with dots between its parts. -/
def insert? : List String → Value → List (String × Value) → Option (List (String × Value))
  | [], _, _ => none
  | [key], value, fields => some (fields ++ [(key, value)])
  | key :: next :: path, value, fields =>
    match fields.span (·.1 != key) with
    | (before, (_, .dotted inner) :: after) =>
      (insert? (next :: path) value inner).map fun inner =>
        before ++ (key, .dotted inner) :: after
    | (_, _ :: _) => none
    | (before, []) =>
      (insert? (next :: path) value []).map fun inner => before ++ [(key, .dotted inner)]

/-! ## Keys -/

def skipBlank : List Token → List Token
  | .blank _ :: rest => rest
  | rest => rest

/-- What comes after blanks, comments and line breaks. -/
def skipLines (tokens : List Token) : List Token :=
  tokens.dropWhile fun
    | .blank _ | .newline | .comment => true
    | _ => false

/-- One part of a key, and what comes after it. -/
def key? : List Token → Option (String × List Token)
  | .word chars :: rest => some (String.ofList chars, rest)
  | .text chars false :: rest => some (String.ofList chars, rest)
  | _ => none

/-- The parts of a key after the first one, and what comes after them. -/
def moreKeys? : Nat → List Token → Option (List String × List Token)
  | 0, _ => none
  | fuel + 1, tokens =>
    match skipBlank tokens with
    | .period :: rest => do
      let (key, rest) ← key? (skipBlank rest)
      let (keys, rest) ← moreKeys? fuel rest
      return (key :: keys, rest)
    | rest => some ([], rest)

/-- A key with all of its parts, and what comes after it and the blank
behind it. -/
def path? (tokens : List Token) : Option (List String × List Token) := do
  let (key, rest) ← key? tokens
  let (keys, rest) ← moreKeys? (rest.length + 1) rest
  return (key :: keys, rest)

/-- What comes after an equals sign and the blanks around it. -/
def afterEquals? (tokens : List Token) : Option (List Token) :=
  match skipBlank tokens with
  | .equals :: rest => some (skipBlank rest)
  | _ => none

/-! ## Values -/

/-- The value of a word, and what comes after it. -/
def wordValue? (chars : List Char) (rest : List Token) : Option (Value × List Token) :=
  if chars = ['t', 'r', 'u', 'e'] then some (.flag true, rest)
  else if chars = ['f', 'a', 'l', 's', 'e'] then some (.flag false, rest)
  else if chars = ['i', 'n', 'f'] ∨ chars = ['n', 'a', 'n']
    ∨ chars.head?.any (fun c => c == '-' || c.isDigit) then
    (afterScalar? chars rest).map fun (isDate, rest) =>
      (if isDate then .date else .number, rest)
  else none

mutual

def value? : Nat → List Token → Option (Value × List Token)
  | 0, _ => none
  | fuel + 1, tokens =>
    match tokens with
    | .text chars _ :: rest => some (.text (String.ofList chars), rest)
    | .word chars :: rest => wordValue? chars rest
    | .plus :: .word chars :: rest => (afterNumber? chars rest).map (.number, ·)
    | .openBracket :: rest =>
      (items? fuel (skipLines rest)).map fun (items, rest) => (.array items, rest)
    | .openBrace :: rest =>
      match skipBlank rest with
      | .closeBrace :: rest => some (.table [], rest)
      | rest => (inlineFields? fuel [] rest).map fun (fields, rest) => (.table fields, rest)
    | _ => none

/-- The items of an array up to its bracket, and what comes after it. -/
def items? : Nat → List Token → Option (List Value × List Token)
  | 0, _ => none
  | fuel + 1, tokens =>
    match tokens with
    | .closeBracket :: rest => some ([], rest)
    | tokens => do
      let (item, rest) ← value? fuel tokens
      match skipLines rest with
      | .comma :: rest =>
        let (items, rest) ← items? fuel (skipLines rest)
        return (item :: items, rest)
      | .closeBracket :: rest => return ([item], rest)
      | _ => none

/-- The fields of an inline table up to its brace, after those read so far,
and what comes after it. -/
def inlineFields? : Nat → List (String × Value) → List Token →
    Option (List (String × Value) × List Token)
  | 0, _, _ => none
  | fuel + 1, fields, tokens => do
    let (path, rest) ← path? tokens
    let rest ← afterEquals? rest
    let (value, rest) ← value? fuel rest
    let fields ← insert? path value fields
    match skipBlank rest with
    | .closeBrace :: rest => return (fields, rest)
    | .comma :: rest => inlineFields? fuel fields (skipBlank rest)
    | _ => none

end

/-! ## Lines -/

/-- What comes after the end of a line, with or without a comment. -/
def afterLine? (tokens : List Token) : Option (List Token) :=
  match skipBlank tokens with
  | .comment :: .newline :: rest => some rest
  | [.comment] => some []
  | .newline :: rest => some rest
  | [] => some []
  | _ => none

/-- The header after its first bracket, and what comes after its line. -/
def header? (tokens : List Token) : Option (Section × List Token) := do
  let (isArray, rest) := match tokens with
    | .openBracket :: rest => (true, rest)
    | rest => (false, rest)
  let (path, rest) ← path? (skipBlank rest)
  let rest ← match isArray, rest with
    | false, .closeBracket :: rest => some rest
    | true, .closeBracket :: .closeBracket :: rest => some rest
    | _, _ => none
  let rest ← afterLine? rest
  return (⟨path, isArray, []⟩, rest)

/-- A key with its value, and what comes after its line. -/
def entry? (tokens : List Token) : Option ((List String × Value) × List Token) := do
  let (path, rest) ← path? tokens
  let rest ← afterEquals? rest
  let (value, rest) ← value? (rest.length + 1) rest
  let rest ← afterLine? rest
  return ((path, value), rest)

/-- The sections from the one that is being read on. -/
def sectionsFrom? : Nat → Section → List Token → Option (List Section)
  | 0, _, _ => none
  | fuel + 1, current, tokens =>
    match skipLines tokens with
    | [] => some [current]
    | .openBracket :: rest => do
      let (next, rest) ← header? rest
      let sections ← sectionsFrom? fuel next rest
      return current :: sections
    | tokens => do
      let ((path, value), rest) ← entry? tokens
      let fields ← insert? path value current.fields
      sectionsFrom? fuel { current with fields := fields } rest

/-- The sections of a text; the first one is that of the fields in front of
any header. -/
def sections? (text : String) : Option (List Section) := do
  let tokens ← tokens? text.toList
  sectionsFrom? (tokens.length + 1) ⟨[], false, []⟩ tokens

end TypeGraph.Toml
