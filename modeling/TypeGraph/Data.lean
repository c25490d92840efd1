/-!
# TypeGraph.Data

What a declarations or configuration file says, whatever format it is
written in.  The formats differ in what may stand for what, and a `Data` value
keeps just enough to tell:

1. a text is a text, and an unquoted scalar is one as well, whatever it looks
   like; but where text is optional, an unquoted null or nothing is none;
2. a list is a list, and an unquoted scalar of no characters is the empty one;
3. a record is a table, or an unquoted scalar of no characters (a record
   without fields), or, in formats where a list may stand for a record, the
   fields in their order, the last ones left out.

A field may not be given twice, unless no record of this kind knows it.
-/

namespace TypeGraph

inductive Data where
  /-- A quoted text. -/
  | text (value : String)
  /-- An unquoted scalar that can stand for a text, or for nothing. -/
  | plain (value : String)
  | flag (value : Bool)
  | null
  /-- A list that can stand for a record. -/
  | array (items : List Data)
  /-- A list that is only a list. -/
  | sequence (items : List Data)
  /-- Fields in their order; a key that is no text is none. -/
  | table (fields : List (Option String × Data))
  /-- Anything that no declaration has a use for. -/
  | other

namespace Data

/-- Whether an unquoted scalar stands for nothing where text is optional. -/
def isNullWord (word : String) : Bool :=
  word == "" || word == "~" || word == "null" || word == "Null" || word == "NULL"

/-- The text that a value is. -/
def text? : Data → Option String
  | .text value => some value
  | .plain value => some value
  | _ => none

/-- The text that a value is, where it may be null instead. -/
def optionalText? : Data → Option (Option String)
  | .null => some none
  | .plain value => if isNullWord value then some none else some (some value)
  | data => data.text?.map some

def flag? : Data → Option Bool
  | .flag value => some value
  | _ => none

def items? : Data → Option (List Data)
  | .array items => some items
  | .sequence items => some items
  | .plain "" => some []
  | _ => none

/-- The list that a value is, item by item. -/
def list? {α : Type} (item? : Data → Option α) (data : Data) : Option (List α) := do
  (← data.items?).mapM item?

/-! ## Records -/

/-- The value of a field, if it is given exactly once; none if it is not
given.  Fails if it is given twice. -/
def field? (fields : List (Option String × Data)) (name : String) : Option (Option Data) :=
  match fields.filter (·.1 == some name) with
  | [] => some none
  | [field] => some (some field.2)
  | _ => none

/-- The values of the named fields of the record that a value is, in the
order of the names. -/
def fields? (names : List String) : Data → Option (List (Option Data))
  | .table fields =>
    if fields.all (·.1.isSome) then names.mapM (field? fields) else none
  | .array items =>
    if items.length ≤ names.length then
      some (items.map some ++ List.replicate (names.length - items.length) none)
    else none
  | .plain "" => some (names.map fun _ => none)
  | _ => none

/-- What a field is read as, or the default if it is not given. -/
def withDefault {α : Type} (default : α) (read? : Data → Option α) : Option Data → Option α
  | none => some default
  | some data => read? data

end Data

end TypeGraph
