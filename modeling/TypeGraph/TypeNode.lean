import TypeGraph.Member
import TypeGraph.Reference

/-!
# TypeGraph.TypeNode

Classes and interfaces, declared in the sources or only referred to.
-/

namespace TypeGraph

/-- A class or interface of a model. -/
structure TypeNode where
  id : TypeId
  /-- The model that created the type; a copied model keeps it. -/
  origin : Nat
  name : String
  kind : TypeKind
  /-- The modifiers as set, without those that the kind implies. -/
  ownModifiers : Modifiers
  /-- The parent class, which only a class has. -/
  parent : Option TypeReference
  /-- The interfaces that a class implements or an interface extends, in
  source order, repetitions included. -/
  interfaces : List TypeReference
  package : Option PackageId
  methods : List MemberId
  constants : List MemberId
  /-- Whether the sources declare the type. -/
  userDefined : Bool
  sourceFile : Option String
  deriving DecidableEq, Repr

namespace TypeNode

/-- A type about which only its name and kind are known. -/
def bare (id : TypeId) (origin : Nat) (name : String) (kind : TypeKind) : TypeNode where
  id := id
  origin := origin
  name := name
  kind := kind
  ownModifiers := .none
  parent := none
  interfaces := []
  package := none
  methods := []
  constants := []
  userDefined := false
  sourceFile := none

/-- Whether the type is abstract: an interface always is, a class if it
has the keyword. -/
def isAbstract (node : TypeNode) : Bool :=
  match node.kind with
  | .interfaceType => true
  | .classType => node.ownModifiers.contains .abstractBit

/-- The modifiers, with the one that being an interface implies. -/
def modifiers (node : TypeNode) : Modifiers :=
  match node.kind with
  | .interfaceType => node.ownModifiers.union .implicitAbstractBit
  | .classType => node.ownModifiers

def memberList (node : TypeNode) : MemberKind → List MemberId
  | .method => node.methods
  | .constant => node.constants

/-- The type with another list of members of a kind. -/
def withMemberList (node : TypeNode) (kind : MemberKind) (members : List MemberId) : TypeNode :=
  match kind with
  | .method => { node with methods := members }
  | .constant => { node with constants := members }

/-- What the type declares that it depends on: its interfaces in source
order, then its parent. -/
def references (node : TypeNode) : List TypeReference := node.interfaces ++ node.parent.toList

end TypeNode

end TypeGraph
