import TypeGraph.Cycle

/-!
# TypeGraph.Report

What a model knows about a type, by name, and the same about all of its
types.
-/

namespace TypeGraph

/-- Everything that the walks find out about one type, by name. -/
structure TypeSummary where
  name : String
  kind : TypeKind
  package : Option String
  userDefined : Bool
  isAbstract : Bool
  parent : Option String
  interfaces : List String
  dependencies : List String
  children : List String
  /-- The length of the visible parent chain. -/
  depth : Nat
  deriving DecidableEq, Repr

/-- A summary of a whole model. -/
structure Report where
  stats : ModelStats
  types : List TypeSummary
  /-- The groups of types that depend on each other in a circle. -/
  cycles : List (List String)
  deriving DecidableEq, Repr

namespace Model

/-- The name of a type; a foreign one has none. -/
def typeName (model : Model) (ty : TypeId) : String := ((model.type? ty).map (·.name)).getD ""

/-- What is known about a type; nothing about a foreign one. -/
def summarize (model : Model) (ty : TypeId) : Option TypeSummary :=
  (model.type? ty).map fun node => {
    name := node.name
    kind := node.kind
    package := (node.package.bind model.package?).map (·.name)
    userDefined := node.userDefined
    isAbstract := node.isAbstract
    parent := (model.parentClass ty).map model.typeName
    interfaces := (model.interfaces ty).map model.typeName
    dependencies := (model.resolvedDependencies ty).map model.typeName
    children := (model.childClasses ty).map model.typeName
    depth := (model.ancestors ty).length }

/-- What is known about every type, in the order of creation. -/
def report (model : Model) : Report where
  stats := model.stats
  types := model.typeIds.filterMap model.summarize
  cycles := model.dependencyCycles.map (·.map model.typeName)

end Model

end TypeGraph
