import TypeGraph.Declaration
import TypeGraph.Model.Ownership
import TypeGraph.Model.Packaging
import TypeGraph.Model.Wiring

/-!
# TypeGraph.Model.Build

From declarations to a model, in three phases:

1. `declarePackage` adds every package, type, member and function that is
   declared;
2. `wire` attaches the parents and interfaces, when all types are there, so
   the order of the declarations does not matter;
3. `addPlaceholder`, if placeholders are asked for, adds a type for each name
   that is referred to and not declared.

The first declaration at fault is refused, and then there is no model.
-/

namespace TypeGraph

/-! ## Declared entities -/

/-- The modifiers that keywords stand for together. -/
def Modifiers.ofKeywords (keywords : List String) : Except ModelError Modifiers :=
  keywords.foldlM (fun modifiers keyword =>
    match Modifiers.ofKeyword? keyword with
    | some modifier => .ok (modifiers.union modifier)
    | .none => .error (.unknownModifier keyword)) .none

namespace Edit

/-- The modifiers that keywords stand for together; an unknown one is
refused. -/
def modifiersOf (keywords : List String) : Edit Modifiers :=
  match Modifiers.ofKeywords keywords with
  | .ok modifiers => pure modifiers
  | .error error => throw error

def declareMethod (ty : TypeId) (method : MethodDeclaration) : Edit Unit := do
  let modifiers ← modifiersOf method.modifiers
  let id ← modifyGet (·.newMethod method.name modifiers)
  let _ ← addMemberOfKind .method ty id

def declareConstant (ty : TypeId) (constant : ConstantDeclaration) : Edit Unit := do
  let id ← modifyGet (·.newConstant constant.name constant.value)
  let _ ← addMemberOfKind .constant ty id

/-- Adds a declared type with its members to a package; its references are
still to come. -/
def declareType (package : PackageId) (kind : TypeKind) (declaration : TypeDeclaration) :
    Edit (TypeId × TypeDeclaration) := do
  let ty ← modifyGet (·.addType kind declaration.name)
  setUserDefined ty
  setModifiers ty (← modifiersOf declaration.modifiers)
  if let some file := declaration.file then
    setSourceFile ty file
  let _ ← addTypeToPackage package ty
  declaration.methods.forM (declareMethod ty)
  declaration.constants.forM (declareConstant ty)
  return (ty, declaration)

def declareFunction (package : PackageId) (name : String) : Edit Unit := do
  let function ← modifyGet (·.addFunction name)
  let _ ← addFunctionToPackage package function

/-- Adds everything that is declared in one mention of a package, and lists
the types. -/
def declarePackage (declaration : PackageDeclaration) :
    Edit (List (TypeId × TypeDeclaration)) := do
  let package ← modifyGet (·.addPackage declaration.name)
  let classes ← declaration.classes.mapM (declareType package .classType)
  let interfaces ← declaration.interfaces.mapM (declareType package .interfaceType)
  declaration.functions.forM (declareFunction package)
  return classes ++ interfaces

/-! ## References -/

/-- A reference that nobody has followed yet; a blank name is refused. -/
def newReference (kind : TypeKind) (name : String) : Edit TypeReference :=
  match TypeReference.new? kind name with
  | some reference => pure reference
  | none => throw (.blankName kind)

/-- Attaches the declared parent and interfaces of a type. -/
def wire (declared : TypeId × TypeDeclaration) : Edit Unit := do
  let (ty, declaration) := declared
  if let some name := declaration.parent then
    setParent ty (← newReference .classType name)
  declaration.interfaces.forM fun name => do
    addInterface ty (← newReference .interfaceType name)

end Edit

/-! ## Placeholders -/

/-- A name that is referred to and not declared. -/
structure MissingType where
  /-- What the spellings of the name have in common. -/
  key : String
  /-- The name as it is spelt first. -/
  name : String
  /-- Whether the name is asked for as a class or, at least once, as an
  interface. -/
  kind : TypeKind
  deriving DecidableEq, Repr

namespace MissingType

/-- The missing types, with one more reference to one of them. -/
def note (missing : List MissingType) (reference : TypeReference) : List MissingType :=
  let key := symbolKey reference.name
  if missing.any (·.key == key) then
    if reference.kind = .interfaceType then
      missing.map fun m => if m.key = key then { m with kind := .interfaceType } else m
    else missing
  else missing ++ [⟨key, reference.name, reference.kind⟩]

end MissingType

/-- The types that are referred to and not declared, in the order of first
mention.  No reference is resolved for that. -/
def Model.missingTypes (model : Model) : List MissingType :=
  ((model.types.toList.flatMap (·.references)).filter
    fun reference => (model.lookup reference.name).isNone).foldl MissingType.note []

namespace Edit

/-- Adds a type of which only its name is known, in the package that the name
says. -/
def addPlaceholder (missing : MissingType) : Edit Unit := do
  let name := unrooted missing.name
  let ty ← modifyGet (·.addType missing.kind name)
  let package ← modifyGet (·.addPackage (namespaceOf name))
  let _ ← addTypeToPackage package ty

/-- Adds all that is declared, and placeholders if they are asked for. -/
def build (placeholders : Bool) (declarations : Declarations) : Edit Unit := do
  let declared ← declarations.packages.mapM declarePackage
  declared.flatten.forM wire
  if placeholders then
    (← get).missingTypes.forM addPlaceholder

end Edit

def Model.build (origin : Nat) (filters : Filters) (placeholders : Bool)
    (declarations : Declarations) : Except ModelError Model :=
  match Edit.build placeholders declarations (.empty origin filters) with
  | .ok _ model => .ok model
  | .error error _ => .error error

end TypeGraph
