import TypeGraph.Data
import TypeGraph.Yaml.Node

/-!
# TypeGraph.Yaml.Data

YAML nodes as values in a file.  A list is only a list, a key has to be a
scalar, and a scalar without quotes may also stand for nothing.
-/

namespace TypeGraph.Yaml

namespace Node

/-- The key that a node is. -/
def keyText? : Node → Option String
  | .scalar text _ => some text
  | _ => none

mutual

def toData : Node → Data
  | .scalar text true => .plain text
  | .scalar text false => .text text
  | .sequence items => .sequence (itemsToData items)
  | .mapping entries => .table (entriesToData entries)

def itemsToData : List Node → List Data
  | [] => []
  | item :: items => item.toData :: itemsToData items

def entriesToData : List (Node × Node) → List (Option String × Data)
  | [] => []
  | (key, value) :: entries => (key.keyText?, value.toData) :: entriesToData entries

end

end Node

def readData? (text : String) : Option Data := (parse? text).map (·.toData)

end TypeGraph.Yaml
