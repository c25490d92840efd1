/-!
# TypeGraph.Json.Basic

JSON values.  An object keeps its fields in order and may hold a key twice,
and a number keeps its spelling, so a value says all that its text says apart
from spacing and escapes.

A text literal may hold half of a surrogate pair on its own.  Such a literal
is well formed and denotes no text; it is `none` here.
-/

namespace TypeGraph

inductive Json where
  | null
  | bool (value : Bool)
  | number (literal : String)
  | text (value : Option String)
  | array (items : List Json)
  | object (fields : List (Option String × Json))

namespace Json

def ofString (s : String) : Json := .text (some s)

def ofNat (n : Nat) : Json := .number (toString n)

def ofStrings (items : List String) : Json := .array (items.map ofString)

/-- A text, or null in place of none. -/
def ofOption : Option String → Json
  | some s => ofString s
  | none => .null

def ofFields (fields : List (String × Json)) : Json :=
  .object (fields.map fun field => (some field.1, field.2))

end Json

end TypeGraph
