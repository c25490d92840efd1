/-!
# TypeGraph.Handle

Handles of the four kinds of entity in a model.  A handle is the position at
which the model holds the entity; one that lies beyond the model's entities
is foreign to it and names nothing there.
-/

namespace TypeGraph

structure TypeId where
  index : Nat
  deriving DecidableEq, Hashable, Repr

structure MemberId where
  index : Nat
  deriving DecidableEq, Hashable, Repr

structure PackageId where
  index : Nat
  deriving DecidableEq, Hashable, Repr

/-- Handle of a function that belongs to a package or to none. -/
structure FunctionId where
  index : Nat
  deriving DecidableEq, Hashable, Repr

/-- A handle together with the kind of entity that it names. -/
inductive Handle where
  | type (id : TypeId)
  | member (id : MemberId)
  | package (id : PackageId)
  | function (id : FunctionId)
  deriving DecidableEq, Repr

/-- A handle as messages show it. -/
def Handle.text : Handle → String
  | .type id => "type#" ++ toString id.index
  | .member id => "member#" ++ toString id.index
  | .package id => "package#" ++ toString id.index
  | .function id => "function#" ++ toString id.index

end TypeGraph
