import TypeGraph.Filter
import TypeGraph.Toml.Data

/-!
# TypeGraph.Config

The settings of an analysis, from a TOML text with the tables `filter` and
`model`.  A setting that is not given has its default, and a text that is
not valid in every part gives the defaults of all.
-/

namespace TypeGraph

/-- Which types the answers hide. -/
structure FilterConfig where
  /-- The patterns of the packages to hide. -/
  excludePackages : List String := []
  /-- Whether the pseudo packages for built-in types are hidden. -/
  excludeInternal : Bool := true
  /-- Whether types that are referred to and not declared are hidden. -/
  userDefinedOnly : Bool := false
  deriving DecidableEq, Repr

structure ModelConfig where
  /-- Whether types that are referred to and not declared are added. -/
  createPlaceholders : Bool := true
  deriving DecidableEq, Repr

/-- The settings of an analysis. -/
structure Config where
  filter : FilterConfig := {}
  model : ModelConfig := {}
  deriving DecidableEq, Repr

def FilterConfig.ofData? (data : Data) : Option FilterConfig := do
  let [packages, internal, userDefined] ← data.fields?
    ["exclude_packages", "exclude_internal", "user_defined_only"] | none
  return {
    excludePackages := ← Data.withDefault [] (Data.list? Data.text?) packages
    excludeInternal := ← Data.withDefault true Data.flag? internal
    userDefinedOnly := ← Data.withDefault false Data.flag? userDefined }

def ModelConfig.ofData? (data : Data) : Option ModelConfig := do
  let [placeholders] ← data.fields? ["create_placeholders"] | none
  return { createPlaceholders := ← Data.withDefault true Data.flag? placeholders }

namespace Config

/-- The settings that a value in a file describes. -/
def ofData? (data : Data) : Option Config := do
  let [filter, model] ← data.fields? ["filter", "model"] | none
  return {
    filter := ← Data.withDefault {} FilterConfig.ofData? filter
    model := ← Data.withDefault {} ModelConfig.ofData? model }

/-- The settings that a text describes; the defaults if it is not valid. -/
def ofText (text : String) : Config := ((Toml.readData? text).bind ofData?).getD {}

/-- The settings in a file, given its bytes; the defaults if there is no such
file or it holds no text. -/
def ofFile (bytes : Option ByteArray) : Config :=
  ((bytes.bind String.fromUTF8?).map ofText).getD {}

def filters (config : Config) : Filters :=
  let packages := config.filter.excludePackages
  .ofList ((if packages.isEmpty then [] else [.ofPatterns packages])
    ++ (if config.filter.excludeInternal then [.internal] else [])
    ++ (if config.filter.userDefinedOnly then [.userDefined] else []))

end Config

end TypeGraph
