import TypeGraph.Error
import TypeGraph.Filter

/-!
# TypeGraph.Model.Basic

The model of a body of source code: its types, members, packages and
functions, the symbol table that references resolve against, and the filters
that its answers honour.

Entities are only ever added, each at the end of its array, so a handle keeps
its meaning for the life of the model and of every copy of it.
-/

namespace TypeGraph

/-- The types, members, packages and functions of one analysis. -/
structure Model where
  /-- What tells entities created here from those that a copied model was
  born with. -/
  origin : Nat
  types : Array TypeNode
  members : Array Member
  packages : Array Package
  functions : Array FunctionNode
  /-- The type that each name resolves to. -/
  symbols : SymbolTable
  /-- The package that each name belongs to. -/
  packageIndex : Std.HashMap String PackageId
  filters : Filters

/-- How many entities of each sort a model holds. -/
structure ModelStats where
  packages : Nat
  classes : Nat
  interfaces : Nat
  userDefined : Nat
  methods : Nat
  constants : Nat
  functions : Nat
  deriving DecidableEq, Repr

namespace Model

def empty (origin : Nat) (filters : Filters) : Model where
  origin := origin
  types := #[]
  members := #[]
  packages := #[]
  functions := #[]
  symbols := ∅
  packageIndex := ∅
  filters := filters

/-- A copy of the model; what it creates from now on is its own. -/
def copy (model : Model) (origin : Nat) : Model := { model with origin := origin }

/-! ## Lookup -/

def type? (model : Model) (ty : TypeId) : Option TypeNode := model.types[ty.index]?

def member? (model : Model) (member : MemberId) : Option Member := model.members[member.index]?

def package? (model : Model) (package : PackageId) : Option Package :=
  model.packages[package.index]?

def function? (model : Model) (function : FunctionId) : Option FunctionNode :=
  model.functions[function.index]?

/-- The type that a name resolves to. -/
def lookup (model : Model) (name : String) : Option TypeId := model.symbols.lookup name

/-- The package of exactly this name. -/
def findPackage (model : Model) (name : String) : Option PackageId := model.packageIndex[name]?

/-- Like `lookup`; an unknown name is an error. -/
def requireType (model : Model) (name : String) : Except ModelError TypeId :=
  match model.lookup name with
  | some ty => .ok ty
  | none => .error (.unknownType name)

/-- Like `findPackage`; an unknown name is an error. -/
def requirePackage (model : Model) (name : String) : Except ModelError PackageId :=
  match model.findPackage name with
  | some package => .ok package
  | none => .error (.unknownPackage name)

def typeIds (model : Model) : List TypeId := model.types.toList.map (·.id)

/-- The package that a type points at. -/
def packageOf (model : Model) (ty : TypeId) : Option PackageId :=
  (model.type? ty).bind (·.package)

def isUserDefined (model : Model) (ty : TypeId) : Bool := (model.type? ty).any (·.userDefined)

def isAbstract (model : Model) (ty : TypeId) : Bool := (model.type? ty).any (·.isAbstract)

def modifiers (model : Model) (ty : TypeId) : Modifiers :=
  ((model.type? ty).map (·.modifiers)).getD .none

/-- The members of a kind that a type holds, in list order. -/
def membersOf (model : Model) (ty : TypeId) (kind : MemberKind) : List Member :=
  match model.type? ty with
  | none => []
  | some node => (node.memberList kind).filterMap model.member?

/-- The types listed in a package, in list order. -/
def packageTypes (model : Model) (package : PackageId) : List TypeNode :=
  match model.package? package with
  | none => []
  | some node => node.types.filterMap model.type?

/-- The functions listed in a package, in list order. -/
def packageFunctions (model : Model) (package : PackageId) : List FunctionNode :=
  match model.package? package with
  | none => []
  | some node => node.functions.filterMap model.function?

/-- How many entities of each sort the model holds. -/
def stats (model : Model) : ModelStats where
  packages := model.packages.size
  classes := model.types.countP (·.kind == .classType)
  interfaces := model.types.countP (·.kind == .interfaceType)
  userDefined := model.types.countP (·.userDefined)
  methods := model.members.countP (·.kind == .method)
  constants := model.members.countP (·.kind == .constant)
  functions := model.functions.size

/-! ## Visibility -/

/-- Whether the filters accept a type together with its package. -/
def accepts (model : Model) (node : TypeNode) : Bool :=
  model.filters.accepts node (node.package.bind model.package?)

/-- Whether a handle names a type that the filters accept. -/
def isVisible (model : Model) (ty : TypeId) : Bool := (model.type? ty).any model.accepts

/-! ## Creation -/

/-- Adds a type.  It becomes what its name resolves to unless an earlier type
has the same key. -/
def addType (model : Model) (kind : TypeKind) (name : String) : TypeId × Model :=
  let ty : TypeId := ⟨model.types.size⟩
  (ty, { model with
    types := model.types.push (.bare ty model.origin name kind)
    symbols := model.symbols.declare name ty })

/-- The package of this name, added if there is none yet. -/
def addPackage (model : Model) (name : String) : PackageId × Model :=
  match model.findPackage name with
  | some package => (package, model)
  | none =>
    let package : PackageId := ⟨model.packages.size⟩
    (package, { model with
      packages := model.packages.push ⟨package, model.origin, name, [], []⟩
      packageIndex := model.packageIndex.insert name package })

/-- Adds a member that no type holds. -/
def addUnowned (model : Model) (kind : MemberKind) (name : String) (modifiers : Modifiers)
    (value : Option String) : MemberId × Model :=
  let member : MemberId := ⟨model.members.size⟩
  (member, { model with
    members := model.members.push ⟨member, model.origin, name, kind, modifiers, value, none⟩ })

def newMethod (model : Model) (name : String) (modifiers : Modifiers) : MemberId × Model :=
  model.addUnowned .method name modifiers none

def newConstant (model : Model) (name : String) (value : Option String) : MemberId × Model :=
  model.addUnowned .constant name .none value

/-- Adds a function that belongs to no package. -/
def addFunction (model : Model) (name : String) : FunctionId × Model :=
  let function : FunctionId := ⟨model.functions.size⟩
  (function, { model with
    functions := model.functions.push ⟨function, model.origin, name, none⟩ })

/-! ## Changes to one entity

Each of these leaves the model alone if the handle is foreign. -/

/-- Changes the type with the handle. -/
def modifyType (model : Model) (ty : TypeId) (change : TypeNode → TypeNode) : Model :=
  { model with types := model.types.modify ty.index change }

def modifyMember (model : Model) (member : MemberId) (change : Member → Member) : Model :=
  { model with members := model.members.modify member.index change }

def modifyPackage (model : Model) (package : PackageId) (change : Package → Package) : Model :=
  { model with packages := model.packages.modify package.index change }

def modifyFunction (model : Model) (function : FunctionId)
    (change : FunctionNode → FunctionNode) : Model :=
  { model with functions := model.functions.modify function.index change }

end Model

/-! ## Operations that can be refused -/

/-- An operation on a model that gives a result or is refused. -/
abbrev Edit := EStateM ModelError Model

namespace Edit

/-- The type with the handle; a foreign handle is refused. -/
def type (ty : TypeId) : Edit TypeNode := do
  match (← get).type? ty with
  | some node => pure node
  | none => throw (.foreignHandle (.type ty))

def member (member : MemberId) : Edit Member := do
  match (← get).member? member with
  | some node => pure node
  | none => throw (.foreignHandle (.member member))

def package (package : PackageId) : Edit Package := do
  match (← get).package? package with
  | some node => pure node
  | none => throw (.foreignHandle (.package package))

def function (function : FunctionId) : Edit FunctionNode := do
  match (← get).function? function with
  | some node => pure node
  | none => throw (.foreignHandle (.function function))

end Edit

end TypeGraph
