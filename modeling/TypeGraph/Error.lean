import TypeGraph.Member
import TypeGraph.Reference

/-!
# TypeGraph.Error

Why an operation on a model is refused.  A refused operation leaves the
model as it was.
-/

namespace TypeGraph

/-- The causes for which an operation on a model is refused. -/
inductive ModelError where
  /-- The handle names nothing in this model. -/
  | foreignHandle (handle : Handle)
  /-- A parent must be asked for as a class. -/
  | parentNotClass (ty : TypeId) (kind : TypeKind) (name : String)
  /-- An interface has no parent. -/
  | interfaceWithParent (name : String)
  /-- What a type implements must be asked for as an interface. -/
  | notAnInterface (ty : TypeId) (kind : TypeKind) (name : String)
  /-- A reference needs a name. -/
  | blankName (kind : TypeKind)
  /-- No modifier has this keyword. -/
  | unknownModifier (keyword : String)
  /-- The member is of the other kind. -/
  | wrongMemberKind (member : MemberId) (actual expected : MemberKind)
  /-- No type has this name. -/
  | unknownType (name : String)
  /-- No package has this name. -/
  | unknownPackage (name : String)
  deriving DecidableEq, Repr

namespace ModelError

/-- What is wrong, in words; without the class of the error. -/
def detail : ModelError → String
  | .foreignHandle handle => handle.text ++ " does not belong to this model"
  | .parentNotClass ty kind name =>
    "parent of " ++ (Handle.type ty).text ++ " must be a class reference, got "
      ++ kind.word ++ " " ++ name
  | .interfaceWithParent name => "interface " ++ name ++ " cannot have a parent class"
  | .notAnInterface ty kind name =>
    (Handle.type ty).text ++ " can only implement interface references, got "
      ++ kind.word ++ " " ++ name
  | .blankName kind => kind.word ++ " reference needs a non-empty type name"
  | .unknownModifier keyword => "unknown modifier `" ++ keyword ++ "`"
  | .wrongMemberKind member actual expected =>
    (Handle.member member).text ++ " is a " ++ actual.title ++ ", expected a " ++ expected.title
  | .unknownType name => name
  | .unknownPackage name => name

def message (error : ModelError) : String :=
  match error with
  | .unknownType _ => "Unknown type: " ++ error.detail
  | .unknownPackage _ => "Unknown package: " ++ error.detail
  | _ => "Invalid argument: " ++ error.detail

end ModelError

end TypeGraph
