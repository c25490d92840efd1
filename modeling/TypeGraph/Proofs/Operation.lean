import TypeGraph.Model.Ownership
import TypeGraph.Model.Packaging
import TypeGraph.Model.Wiring

/-!
# TypeGraph.Proofs.Operation

Everything that a caller can do to a model, as data.  `Operation.edit` carries
an operation out, and three functions of the model say what comes of it:

1. `Operation.refusal?` — whether it is refused, and for which cause;
2. `Operation.effect` — the model after it, if it is not;
3. `Operation.reply` — the handle that it gives back, if any.

`Operation.edit_eq` puts them together.  A refused operation leaves the model
as it was, so a property that every effect keeps is kept by every operation.
-/

namespace TypeGraph

/-- A change to a model that a caller can ask for. -/
inductive Operation where
  | addType (kind : TypeKind) (name : String)
  | addPackage (name : String)
  | newMethod (name : String) (modifiers : Modifiers)
  | newConstant (name : String) (value : Option String)
  | addFunction (name : String)
  | setParent (ty : TypeId) (reference : TypeReference)
  | addInterface (ty : TypeId) (reference : TypeReference)
  | setPackage (ty : TypeId) (target : Option PackageId)
  | setUserDefined (ty : TypeId)
  | setModifiers (ty : TypeId) (modifiers : Modifiers)
  | setSourceFile (ty : TypeId) (file : String)
  | addMember (owner : TypeId) (member : MemberId)
  | removeMember (owner : TypeId) (member : MemberId)
  | addMemberOfKind (kind : MemberKind) (owner : TypeId) (member : MemberId)
  | removeMemberOfKind (kind : MemberKind) (owner : TypeId) (member : MemberId)
  | addTypeToPackage (package : PackageId) (ty : TypeId)
  | removeTypeFromPackage (package : PackageId) (ty : TypeId)
  | addFunctionToPackage (package : PackageId) (function : FunctionId)
  | removeFunctionFromPackage (package : PackageId) (function : FunctionId)
  | rebuildIndex
  | setFilters (filters : Filters)

namespace Operation

/-- The operation that carries out an operation, and the handle it gives back. -/
def edit : Operation → Edit (Option Handle)
  | .addType kind name => do return some (.type (← modifyGet (·.addType kind name)))
  | .addPackage name => do return some (.package (← modifyGet (·.addPackage name)))
  | .newMethod name modifiers => do
    return some (.member (← modifyGet (·.newMethod name modifiers)))
  | .newConstant name value => do return some (.member (← modifyGet (·.newConstant name value)))
  | .addFunction name => do return some (.function (← modifyGet (·.addFunction name)))
  | .setParent ty reference => do Edit.setParent ty reference; return none
  | .addInterface ty reference => do Edit.addInterface ty reference; return none
  | .setPackage ty target => do Edit.setPackage ty target; return none
  | .setUserDefined ty => do Edit.setUserDefined ty; return none
  | .setModifiers ty modifiers => do Edit.setModifiers ty modifiers; return none
  | .setSourceFile ty file => do Edit.setSourceFile ty file; return none
  | .addMember owner member => do return some (.member (← Edit.addMember owner member))
  | .removeMember owner member => do Edit.removeMember owner member; return none
  | .addMemberOfKind kind owner member => do
    return some (.member (← Edit.addMemberOfKind kind owner member))
  | .removeMemberOfKind kind owner member => do
    Edit.removeMemberOfKind kind owner member; return none
  | .addTypeToPackage package ty => do
    return some (.type (← Edit.addTypeToPackage package ty))
  | .removeTypeFromPackage package ty => do Edit.removeTypeFromPackage package ty; return none
  | .addFunctionToPackage package function => do
    return some (.function (← Edit.addFunctionToPackage package function))
  | .removeFunctionFromPackage package function => do
    Edit.removeFunctionFromPackage package function; return none
  | .rebuildIndex => do modify (·.rebuildIndex); return none
  | .setFilters filters => do modify ({ · with filters }); return none

end Operation

/-! ## Refusals -/

namespace Model

/-- The refusal of a handle under which nothing is found. -/
def refuseForeign {α : Type} (found : Option α) (handle : Handle) : Option ModelError :=
  if found.isSome then none else some (.foreignHandle handle)

/-- A handle that is not refused is found. -/
theorem isSome_of_refuseForeign {α : Type} {found : Option α} {handle : Handle}
    (h : refuseForeign found handle = none) : found.isSome := by
  cases found with
  | none => contradiction
  | some a => rfl

/-- The refusal of a type handle that is foreign. -/
def refuseType (model : Model) (ty : TypeId) : Option ModelError :=
  refuseForeign (model.type? ty) (.type ty)

def refuseMember (model : Model) (member : MemberId) : Option ModelError :=
  refuseForeign (model.member? member) (.member member)

def refusePackage (model : Model) (package : PackageId) : Option ModelError :=
  refuseForeign (model.package? package) (.package package)

def refuseFunction (model : Model) (function : FunctionId) : Option ModelError :=
  refuseForeign (model.function? function) (.function function)

/-- The refusal of a parent for an interface. -/
def refuseParent (model : Model) (ty : TypeId) : Option ModelError :=
  (model.type? ty).bind fun node =>
    if node.kind ≠ .classType then some (.interfaceWithParent node.name) else none

def refuseKind (model : Model) (member : MemberId) (kind : MemberKind) : Option ModelError :=
  (model.member? member).bind fun node =>
    if node.kind ≠ kind then some (.wrongMemberKind member node.kind kind) else none

def packageOfFunction (model : Model) (function : FunctionId) : Option PackageId :=
  (model.function? function).bind (·.package)

end Model

namespace Operation

/-- Why an operation is refused, the first cause if there are several; nothing if
it is carried out. -/
def refusal? (model : Model) : Operation → Option ModelError
  | .setParent ty reference =>
    if reference.kind ≠ .classType then
      some (.parentNotClass ty reference.kind reference.name)
    else model.refuseType ty <|> model.refuseParent ty
  | .addInterface ty reference =>
    if reference.kind ≠ .interfaceType then
      some (.notAnInterface ty reference.kind reference.name)
    else model.refuseType ty
  | .setPackage ty target => target.bind model.refusePackage <|> model.refuseType ty
  | .setUserDefined ty | .setModifiers ty _ | .setSourceFile ty _ => model.refuseType ty
  | .addMember owner member => model.refuseType owner <|> model.refuseMember member
  | .removeMember owner member => model.refuseMember member <|> model.refuseType owner
  | .addMemberOfKind kind owner member | .removeMemberOfKind kind owner member =>
    model.refuseMember member <|> model.refuseKind member kind <|> model.refuseType owner
  | .addTypeToPackage package ty =>
    model.refusePackage package <|> model.refuseType ty
      <|> (model.packageOf ty).bind model.refusePackage
  | .removeTypeFromPackage package ty => model.refusePackage package <|> model.refuseType ty
  | .addFunctionToPackage package function =>
    model.refusePackage package <|> model.refuseFunction function
      <|> (model.packageOfFunction function).bind model.refusePackage
  | .removeFunctionFromPackage package function =>
    model.refusePackage package <|> model.refuseFunction function
  | .addType .. | .addPackage _ | .newMethod .. | .newConstant .. | .addFunction _
  | .rebuildIndex | .setFilters _ => none

end Operation

/-! ## Effects -/

namespace Model

/-- The model in which a type holds one occurrence more of a member, which no
other type holds any longer. -/
def giveMember (model : Model) (owner : TypeId) (member : MemberId) : Model :=
  match model.member? member with
  | none => model
  | some node => (model.release owner node.owner member).attach owner node.kind member

/-- The model in which a type holds one occurrence less of a member, if it
holds it at all. -/
def takeMember (model : Model) (owner : TypeId) (member : MemberId) : Model :=
  match model.member? member, model.type? owner with
  | some node, some holder =>
    let held := holder.memberList node.kind
    if held.contains member then
      let detached := model.detach owner node.kind member
      if (held.erase member).contains member then detached else detached.disown member
    else model
  | _, _ => model

/-- The model in which a type has moved from the package that it points at to
another one. -/
def moveType (model : Model) (package : PackageId) (ty : TypeId) : Model :=
  match model.packageOf ty with
  | none => model.listType package ty
  | some previous => (model.unlistType previous ty).listType package ty

/-- The model in which a function has moved from the package that it points at
to another one. -/
def moveFunction (model : Model) (package : PackageId) (function : FunctionId) : Model :=
  match model.packageOfFunction function with
  | none => model.listFunction package function
  | some previous => (model.unlistFunction previous function).listFunction package function

end Model

namespace Operation

/-- The model after an operation that is not refused. -/
def effect (model : Model) : Operation → Model
  | .addType kind name => (model.addType kind name).2
  | .addPackage name => (model.addPackage name).2
  | .newMethod name modifiers => (model.newMethod name modifiers).2
  | .newConstant name value => (model.newConstant name value).2
  | .addFunction name => (model.addFunction name).2
  | .setParent ty reference =>
    model.modifyType ty fun node => { node with parent := some reference }
  | .addInterface ty reference =>
    model.modifyType ty fun node => { node with interfaces := node.interfaces ++ [reference] }
  | .setPackage ty target => model.modifyType ty fun node => { node with package := target }
  | .setUserDefined ty => model.modifyType ty fun node => { node with userDefined := true }
  | .setModifiers ty modifiers =>
    model.modifyType ty fun node => { node with ownModifiers := modifiers }
  | .setSourceFile ty file =>
    model.modifyType ty fun node => { node with sourceFile := some file }
  | .addMember owner member | .addMemberOfKind _ owner member => model.giveMember owner member
  | .removeMember owner member | .removeMemberOfKind _ owner member =>
    model.takeMember owner member
  | .addTypeToPackage package ty => model.moveType package ty
  | .removeTypeFromPackage package ty => model.unlistType package ty
  | .addFunctionToPackage package function => model.moveFunction package function
  | .removeFunctionFromPackage package function => model.unlistFunction package function
  | .rebuildIndex => model.rebuildIndex
  | .setFilters filters => { model with filters }

/-- The handle that an operation gives back: that of what it creates, or of what
it puts somewhere. -/
def reply (model : Model) : Operation → Option Handle
  | .addType kind name => some (.type (model.addType kind name).1)
  | .addPackage name => some (.package (model.addPackage name).1)
  | .newMethod name modifiers => some (.member (model.newMethod name modifiers).1)
  | .newConstant name value => some (.member (model.newConstant name value).1)
  | .addFunction name => some (.function (model.addFunction name).1)
  | .addMember _ member | .addMemberOfKind _ _ member => some (.member member)
  | .addTypeToPackage _ ty => some (.type ty)
  | .addFunctionToPackage _ function => some (.function function)
  | _ => none

end Operation

/-! ## What an operation does -/

namespace Edit

variable {α β : Type} (model : Model)

/-- An edit goes on with the result of the first one, or stops with its error. -/
theorem bind_eq (edit : Edit α) (next : α → Edit β) :
    (edit >>= next) model = match edit model with
      | .ok a after => next a after
      | .error error after => .error error after := by
  show EStateM.bind edit next model = _
  rw [EStateM.bind]
  cases edit model <;> rfl

theorem get_eq : (get : Edit Model) model = .ok model model := rfl

theorem modify_eq (change : Model → Model) :
    (modify change : Edit Unit) model = .ok () (change model) := rfl

/-- What looking something up does: it is found, or the operation is refused. -/
def fetched (found : Option α) (handle : Handle) : EStateM.Result ModelError Model α :=
  match found with
  | some node => .ok node model
  | none => .error (.foreignHandle handle) model

/-- A type is fetched, or refused. -/
theorem type_eq (ty : TypeId) :
    type ty model = fetched model (model.type? ty) (.type ty) := by
  rw [type, bind_eq, get_eq]
  dsimp only
  cases model.type? ty <;> rfl

theorem member_eq (id : MemberId) :
    member id model = fetched model (model.member? id) (.member id) := by
  rw [member, bind_eq, get_eq]
  dsimp only
  cases model.member? id <;> rfl

theorem package_eq (id : PackageId) :
    package id model = fetched model (model.package? id) (.package id) := by
  rw [package, bind_eq, get_eq]
  dsimp only
  cases model.package? id <;> rfl

theorem function_eq (id : FunctionId) :
    function id model = fetched model (model.function? id) (.function id) := by
  rw [function, bind_eq, get_eq]
  dsimp only
  cases model.function? id <;> rfl

/-- What an operation does that is refused before it changes anything, or not
at all. -/
def guarded (refusal : Option ModelError) (a : α) (after : Model) :
    EStateM.Result ModelError Model α :=
  match refusal with
  | some error => .error error model
  | none => .ok a after

/-- A check in front of an operation is the first cause of refusal. -/
theorem guarded_orElse (first second : Option ModelError) (a : α) (after : Model) :
    guarded model (first <|> second) a after = match first with
      | some error => .error error model
      | none => guarded model second a after := by
  cases first <;> rfl

/-- A guard that never refuses may be left out. -/
theorem guarded_orElse_none (refusal : Option ModelError) (a : α) (after : Model) :
    guarded model (refusal <|> none) a after = guarded model refusal a after := by
  cases refusal <;> rfl

/-- Looking something up in front of an operation is a check. -/
theorem fetched_bind {look : Edit β} {found : Option β} {handle : Handle}
    (hlook : look model = fetched model found handle) (next : β → Edit α)
    (refusal : Option ModelError) (a : α) (after : Model)
    (h : ∀ b, found = some b → next b model = guarded model refusal a after) :
    (look >>= next) model =
      guarded model (Model.refuseForeign found handle <|> refusal) a after := by
  rw [bind_eq, hlook, guarded_orElse]
  cases hfound : found with
  | none => rfl
  | some b => exact h b hfound

/-- An edit that begins with fetching a type refuses a foreign one before anything
else. -/
theorem type_bind (ty : TypeId) (next : TypeNode → Edit α) (refusal : Option ModelError) (a : α)
    (after : Model)
    (h : ∀ node, model.type? ty = some node → next node model = guarded model refusal a after) :
    (type ty >>= next) model = guarded model (model.refuseType ty <|> refusal) a after :=
  fetched_bind model (type_eq model ty) next refusal a after h

theorem member_bind (id : MemberId) (next : Member → Edit α) (refusal : Option ModelError) (a : α)
    (after : Model)
    (h : ∀ node, model.member? id = some node → next node model = guarded model refusal a after) :
    (member id >>= next) model = guarded model (model.refuseMember id <|> refusal) a after :=
  fetched_bind model (member_eq model id) next refusal a after h

theorem package_bind (id : PackageId) (next : Package → Edit α) (refusal : Option ModelError)
    (a : α) (after : Model)
    (h : ∀ node, model.package? id = some node → next node model = guarded model refusal a after) :
    (package id >>= next) model = guarded model (model.refusePackage id <|> refusal) a after :=
  fetched_bind model (package_eq model id) next refusal a after h

theorem function_bind (id : FunctionId) (next : FunctionNode → Edit α)
    (refusal : Option ModelError) (a : α) (after : Model)
    (h : ∀ node, model.function? id = some node →
      next node model = guarded model refusal a after) :
    (function id >>= next) model = guarded model (model.refuseFunction id <|> refusal) a after :=
  fetched_bind model (function_eq model id) next refusal a after h

/-- Putting what an operation gives back into another form. -/
theorem return_eq {edit : Edit α} {refusal : Option ModelError} {a : α} {after : Model}
    (h : edit model = guarded model refusal a after) (form : α → β) :
    (do return form (← edit) : Edit β) model = guarded model refusal (form a) after := by
  rw [bind_eq, h]
  cases refusal <;> rfl

/-! ### References, packages and marks of a type -/

/-- A change to one type is refused if the handle is foreign. -/
theorem modifyType_eq (ty : TypeId) (change : TypeNode → TypeNode) :
    (do let _ ← type ty; modify (·.modifyType ty change) : Edit Unit) model =
      guarded model (model.refuseType ty) () (model.modifyType ty change) := by
  rw [← guarded_orElse_none]
  exact type_bind model ty _ _ _ _ fun _ _ => rfl

/-- Setting a parent is refused for the kind of the reference first, then for the
type, and writes the reference. -/
theorem setParent_eq (ty : TypeId) (reference : TypeReference) :
    setParent ty reference model =
      guarded model ((Operation.setParent ty reference).refusal? model) ()
        ((Operation.setParent ty reference).effect model) := by
  rw [setParent, Operation.refusal?]
  by_cases hkind : reference.kind ≠ .classType
  · rw [if_pos hkind, if_pos hkind]
    rfl
  · rw [if_neg hkind, if_neg hkind]
    refine type_bind model ty _ _ _ _ fun node hnode => ?_
    rw [Model.refuseParent, hnode, Option.bind_some]
    by_cases h : node.kind ≠ .classType
    · rw [if_pos h, if_pos h]
      rfl
    · rw [if_neg h, if_neg h]
      rfl

/-- Adding an interface is refused for the kind of the reference first, then for the
type, and appends the reference. -/
theorem addInterface_eq (ty : TypeId) (reference : TypeReference) :
    addInterface ty reference model =
      guarded model ((Operation.addInterface ty reference).refusal? model) ()
        ((Operation.addInterface ty reference).effect model) := by
  rw [addInterface, Operation.refusal?]
  by_cases hkind : reference.kind ≠ .interfaceType
  · rw [if_pos hkind, if_pos hkind]
    rfl
  · rw [if_neg hkind, if_neg hkind]
    exact modifyType_eq model ty _

/-- Writing a pointer is refused for the package first, then for the type. -/
theorem setPackage_eq (ty : TypeId) (target : Option PackageId) :
    setPackage ty target model =
      guarded model ((Operation.setPackage ty target).refusal? model) ()
        ((Operation.setPackage ty target).effect model) := by
  cases target with
  | none => exact modifyType_eq model ty _
  | some id => exact package_bind model id _ _ _ _ fun _ _ => modifyType_eq model ty _

/-! ### Members -/

/-- Adding a member is refused for the type first, then for the member. -/
theorem addMember_eq (owner : TypeId) (id : MemberId) :
    addMember owner id model =
      guarded model ((Operation.addMember owner id).refusal? model) id
        ((Operation.addMember owner id).effect model) := by
  refine type_bind model owner _ _ _ _ fun _ _ => ?_
  rw [← guarded_orElse_none]
  refine member_bind model id _ _ _ _ fun node hnode => ?_
  rw [Operation.effect, Model.giveMember, hnode]
  rfl

/-- Removing a member is refused for the member first, then for the type. -/
theorem removeMember_eq (owner : TypeId) (id : MemberId) :
    removeMember owner id model =
      guarded model ((Operation.removeMember owner id).refusal? model) ()
        ((Operation.removeMember owner id).effect model) := by
  refine member_bind model id _ _ _ _ fun node hnode => ?_
  rw [← guarded_orElse_none]
  refine type_bind model owner _ _ _ _ fun holder hholder => ?_
  rw [Operation.effect, Model.takeMember, hnode, hholder]
  dsimp only
  by_cases hheld : (holder.memberList node.kind).contains id = true
  · rw [if_pos hheld, if_pos hheld]
    by_cases hlast : ((holder.memberList node.kind).erase id).contains id = true
    · rw [if_pos hlast, bind_eq, modify_eq]
      dsimp only
      rw [if_pos hlast]
      rfl
    · rw [if_neg hlast, bind_eq, modify_eq]
      dsimp only
      rw [if_neg hlast]
      rfl
  · rw [if_neg hheld, if_neg hheld]
    rfl

/-- A member of the wrong kind is refused once it is known. -/
theorem expectKind_eq (id : MemberId) (kind : MemberKind) :
    expectKind id kind model =
      guarded model (model.refuseMember id <|> model.refuseKind id kind) () model := by
  refine member_bind model id _ _ _ _ fun node hnode => ?_
  rw [Model.refuseKind, hnode, Option.bind_some]
  by_cases hne : node.kind ≠ kind
  · rw [if_pos hne, if_pos hne]
    rfl
  · rw [if_neg hne, if_neg hne]
    rfl

/-- An operation for members of one kind is the one for all members, after a
look at the kind. -/
theorem expectKind_bind (id : MemberId) (kind : MemberKind) (edit : Edit α)
    {refusal : Option ModelError} {a : α} {after : Model}
    (h : model.refuseMember id = none → edit model = guarded model refusal a after) :
    (do expectKind id kind; edit : Edit α) model =
      guarded model (model.refuseMember id <|> model.refuseKind id kind <|> refusal) a after := by
  rw [bind_eq, expectKind_eq]
  cases hmember : model.refuseMember id with
  | some error => rfl
  | none =>
      cases model.refuseKind id kind with
      | some error => rfl
      | none => exact h hmember

/-- Adding a member by kind is refused for the member, for its kind, and then for the
type. -/
theorem addMemberOfKind_eq (kind : MemberKind) (owner : TypeId) (id : MemberId) :
    addMemberOfKind kind owner id model =
      guarded model ((Operation.addMemberOfKind kind owner id).refusal? model) id
        ((Operation.addMemberOfKind kind owner id).effect model) := by
  refine expectKind_bind model id kind (addMember owner id) fun hmember => ?_
  rw [addMember_eq, Operation.refusal?, hmember]
  cases model.refuseType owner <;> rfl

/-- Removing a member by kind likewise. -/
theorem removeMemberOfKind_eq (kind : MemberKind) (owner : TypeId) (id : MemberId) :
    removeMemberOfKind kind owner id model =
      guarded model ((Operation.removeMemberOfKind kind owner id).refusal? model) ()
        ((Operation.removeMemberOfKind kind owner id).effect model) := by
  refine expectKind_bind model id kind (removeMember owner id) fun hmember => ?_
  rw [removeMember_eq, Operation.refusal?, hmember]
  rfl

/-! ### Packages -/

/-- Taking a type out of a package is refused for the package first, then for the
type. -/
theorem removeTypeFromPackage_eq (id : PackageId) (ty : TypeId) :
    removeTypeFromPackage id ty model =
      guarded model ((Operation.removeTypeFromPackage id ty).refusal? model) ()
        ((Operation.removeTypeFromPackage id ty).effect model) := by
  refine package_bind model id _ _ _ _ fun _ _ => ?_
  rw [← guarded_orElse_none]
  exact type_bind model ty _ _ _ _ fun _ _ => rfl

/-- Moving a type into a package is refused for either, or for a package that its
pointer names and that is not there; the reply is the type. -/
theorem addTypeToPackage_eq (id : PackageId) (ty : TypeId) :
    addTypeToPackage id ty model =
      guarded model ((Operation.addTypeToPackage id ty).refusal? model) ty
        ((Operation.addTypeToPackage id ty).effect model) := by
  refine package_bind model id _ _ _ _ fun _ _ => ?_
  refine type_bind model ty _ _ _ _ fun node hnode => ?_
  have hpackage : model.packageOf ty = node.package := by rw [Model.packageOf, hnode]; rfl
  rw [hpackage, Operation.effect, Model.moveType, hpackage]
  cases node.package with
  | none => rfl
  | some previous =>
      dsimp only [Option.bind_some]
      rw [bind_eq, removeTypeFromPackage_eq]
      have htype : model.refuseType ty = none := by rw [Model.refuseType, hnode]; rfl
      rw [Operation.refusal?, htype]
      cases model.refusePackage previous <;> rfl

/-- Taking a function out of a package likewise. -/
theorem removeFunctionFromPackage_eq (id : PackageId) (target : FunctionId) :
    removeFunctionFromPackage id target model =
      guarded model ((Operation.removeFunctionFromPackage id target).refusal? model) ()
        ((Operation.removeFunctionFromPackage id target).effect model) := by
  refine package_bind model id _ _ _ _ fun _ _ => ?_
  rw [← guarded_orElse_none]
  exact function_bind model target _ _ _ _ fun _ _ => rfl

/-- Moving a function into a package likewise; the reply is the function. -/
theorem addFunctionToPackage_eq (id : PackageId) (target : FunctionId) :
    addFunctionToPackage id target model =
      guarded model ((Operation.addFunctionToPackage id target).refusal? model) target
        ((Operation.addFunctionToPackage id target).effect model) := by
  refine package_bind model id _ _ _ _ fun _ _ => ?_
  refine function_bind model target _ _ _ _ fun node hnode => ?_
  have hpackage : model.packageOfFunction target = node.package := by
    rw [Model.packageOfFunction, hnode]; rfl
  rw [hpackage, Operation.effect, Model.moveFunction, hpackage]
  cases node.package with
  | none => rfl
  | some previous =>
      dsimp only [Option.bind_some]
      rw [bind_eq, removeFunctionFromPackage_eq]
      have hfunction : model.refuseFunction target = none := by
        rw [Model.refuseFunction, hnode]; rfl
      rw [Operation.refusal?, hfunction]
      cases model.refusePackage previous <;> rfl

end Edit

/-- **Operations**: an operation that is refused leaves the model as it was, and
one that is not refused does what its effect says. -/
theorem Operation.edit_eq (model : Model) (operation : Operation) :
    operation.edit model =
      Edit.guarded model (operation.refusal? model) (operation.reply model)
        (operation.effect model) := by
  cases operation with
  | addType | addPackage | newMethod | newConstant | addFunction | rebuildIndex | setFilters => rfl
  | setParent ty reference => exact Edit.return_eq model (Edit.setParent_eq ..) _
  | addInterface ty reference => exact Edit.return_eq model (Edit.addInterface_eq ..) _
  | setPackage ty target => exact Edit.return_eq model (Edit.setPackage_eq ..) _
  | setUserDefined ty => exact Edit.return_eq model (Edit.modifyType_eq ..) _
  | setModifiers ty modifiers => exact Edit.return_eq model (Edit.modifyType_eq ..) _
  | setSourceFile ty file => exact Edit.return_eq model (Edit.modifyType_eq ..) _
  | addMember owner member => exact Edit.return_eq model (Edit.addMember_eq ..) _
  | removeMember owner member => exact Edit.return_eq model (Edit.removeMember_eq ..) _
  | addMemberOfKind kind owner member => exact Edit.return_eq model (Edit.addMemberOfKind_eq ..) _
  | removeMemberOfKind kind owner member =>
      exact Edit.return_eq model (Edit.removeMemberOfKind_eq ..) _
  | addTypeToPackage package ty => exact Edit.return_eq model (Edit.addTypeToPackage_eq ..) _
  | removeTypeFromPackage package ty =>
      exact Edit.return_eq model (Edit.removeTypeFromPackage_eq ..) _
  | addFunctionToPackage package function =>
      exact Edit.return_eq model (Edit.addFunctionToPackage_eq ..) _
  | removeFunctionFromPackage package function =>
      exact Edit.return_eq model (Edit.removeFunctionFromPackage_eq ..) _

end TypeGraph
