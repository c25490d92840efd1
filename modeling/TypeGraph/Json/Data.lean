import TypeGraph.Data
import TypeGraph.Json.Reader

/-!
# TypeGraph.Json.Data

JSON values as values in a file.  An array may stand for a record, and text
that denotes nothing is of no use.
-/

namespace TypeGraph.Json

mutual

/-- What a JSON value says. -/
def toData : Json → Data
  | .null => .null
  | .bool value => .flag value
  | .number _ => .other
  | .text (some value) => .text value
  | .text none => .other
  | .array items => .array (itemsToData items)
  | .object fields => .table (fieldsToData fields)

def itemsToData : List Json → List Data
  | [] => []
  | item :: items => toData item :: itemsToData items

def fieldsToData : List (Option String × Json) → List (Option String × Data)
  | [] => []
  | (key, value) :: fields => (key, toData value) :: fieldsToData fields

end

/-- What a JSON text says. -/
def readData? (text : String) : Option Data := (parse? text).map toData

end TypeGraph.Json
