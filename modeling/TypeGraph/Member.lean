import TypeGraph.Handle
import TypeGraph.Modifiers

/-!
# TypeGraph.Member

Methods and constants.  A member is held by at most one type at a time.
-/

namespace TypeGraph

inductive MemberKind where
  | method
  | constant
  deriving DecidableEq, Repr

/-- The kind as messages show it. -/
def MemberKind.title : MemberKind → String
  | .method => "Method"
  | .constant => "Constant"

/-- A method or constant of a type, or of none yet. -/
structure Member where
  id : MemberId
  /-- The model that created the member; a copied model keeps it. -/
  origin : Nat
  name : String
  kind : MemberKind
  modifiers : Modifiers
  /-- The source text of a constant's value. -/
  value : Option String
  /-- The type whose list holds the member. -/
  owner : Option TypeId
  deriving DecidableEq, Repr

end TypeGraph
