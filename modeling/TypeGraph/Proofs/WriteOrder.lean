import TypeGraph.Proofs.StoredHandles

/-!
# TypeGraph.Proofs.WriteOrder

Operations as they write, one entity after another.  Each write looks up the
entity that it is for, so it may be refused when others have been done already:
a type is taken off a list before it is looked up, and a member leaves its owner
before it is given to the next one.

1. `Edit.write` is one write, and `Operation.editInTurn` carries an operation out
   write by write;
2. `OwnHandles.editInTurn_eq` — in a model that stores only handles of its own
   no write is refused once one has been done;
3. `Reachable.refused_iff` — so an operation is refused for a foreign handle or
   a wrong kind and for nothing else, and then nothing has been written.
-/

namespace TypeGraph

namespace Edit

variable {α β : Type} {model : Model}

/-! ## One write after another -/

/-- Looks an entity up, and changes the model if it is found. -/
def write (look : Edit β) (change : Model → Model) : Edit Unit := do
  let _ ← look
  modify change

/-- Takes something out of the package that it points at, points it at another one
and lists it there. -/
def moveInTurn (look : Edit β) (pointer : β → Option PackageId) (leave : PackageId → Edit Unit)
    (point : Model → Model) (id : PackageId) (enlist : Package → Package) (a : α) : Edit α := do
  let _ ← package id
  let node ← look
  if let some previous := pointer node then
    leave previous
  write look point
  write (package id) (·.modifyPackage id enlist)
  pure a

/-- Takes a type off the list of a package, then the pointer from the type if it
names the package. -/
def removeTypeInTurn (id : PackageId) (ty : TypeId) : Edit Unit := do
  write (package id) (·.modifyPackage id fun p => { p with types := p.types.erase ty })
  write (type ty) (·.modifyType ty fun node =>
    if node.package = some id then { node with package := none } else node)

/-- Moves a type from the package that it points at to another one. -/
def addTypeInTurn (id : PackageId) (ty : TypeId) : Edit TypeId :=
  moveInTurn (type ty) (·.package) (removeTypeInTurn · ty)
    (·.modifyType ty fun node => { node with package := some id }) id
    (fun p => { p with types := p.types ++ [ty] }) ty

/-- Takes a function off the list of a package, then the pointer from the
function if it names the package. -/
def removeFunctionInTurn (id : PackageId) (target : FunctionId) : Edit Unit := do
  write (package id) (·.modifyPackage id fun p => { p with functions := p.functions.erase target })
  write (function target) (·.modifyFunction target fun node =>
    if node.package = some id then { node with package := none } else node)

/-- Moves a function from the package that it points at to another one. -/
def addFunctionInTurn (id : PackageId) (target : FunctionId) : Edit FunctionId :=
  moveInTurn (function target) (·.package) (removeFunctionInTurn · target)
    (·.modifyFunction target fun node => { node with package := some id }) id
    (fun p => { p with functions := p.functions ++ [target] }) target

/-- Takes a member from its owner if that is another type, then writes the owner
and the list of the owner. -/
def addMemberInTurn (owner : TypeId) (id : MemberId) : Edit MemberId := do
  let _ ← type owner
  let node ← member id
  if let some holder := node.owner then
    unless holder = owner do
      write (type holder) (·.modifyType holder (·.withoutMember id))
  write (member id) (·.modifyMember id fun m => { m with owner := some owner })
  write (type owner) (·.modifyType owner (·.pushMember node.kind id))
  pure id

/-- Takes one occurrence of a member from a type, then the owner from the member
if that was the last. -/
def removeMemberInTurn (owner : TypeId) (id : MemberId) : Edit Unit := do
  let node ← member id
  let holder ← type owner
  let held := holder.memberList node.kind
  if held.contains id then
    write (type owner) (·.modifyType owner (·.eraseMember node.kind id))
    unless (held.erase id).contains id do
      write (member id) (·.modifyMember id fun m => { m with owner := none })

/-- Like `addMemberInTurn`, for members of one kind only. -/
def addMemberOfKindInTurn (kind : MemberKind) (owner : TypeId) (id : MemberId) : Edit MemberId := do
  expectKind id kind
  addMemberInTurn owner id

/-- Like `removeMemberInTurn`, for members of one kind only. -/
def removeMemberOfKindInTurn (kind : MemberKind) (owner : TypeId) (id : MemberId) : Edit Unit := do
  expectKind id kind
  removeMemberInTurn owner id

/-! ## What a write does -/

section Writes

variable {look : Edit β} {found : Option β} {handle : Handle}

/-- A write to what is found happens. -/
theorem write_found (hlook : look model = fetched model found handle) (hfound : found.isSome)
    (change : Model → Model) : write look change model = .ok () (change model) := by
  obtain ⟨b, rfl⟩ := Option.isSome_iff_exists.1 hfound
  rw [write, bind_eq, hlook]
  rfl

/-- A write to what is not found is an error, and nothing has been written by it. -/
theorem write_foreign (hlook : look model = fetched model found handle) (hforeign : found = none)
    (change : Model → Model) : write look change model = .error (.foreignHandle handle) model := by
  subst hforeign
  rw [write, bind_eq, hlook]
  rfl

/-- A write after which another one may be refused: nothing is lost if the first
one has changed nothing in that case. -/
theorem write_write {look' : Edit α} {found' : Option α} {handle' : Handle}
    {change change' : Model → Model} (hlook : look model = fetched model found handle)
    (hlook' : look' (change model) = fetched (change model) found' handle')
    (hsame : found' = none → change model = model) :
    (do write look change; write look' change' : Edit Unit) model =
      guarded model (Model.refuseForeign found handle <|> Model.refuseForeign found' handle') ()
        (change' (change model)) := by
  rw [bind_eq]
  cases hfound : found with
  | none =>
      rw [write_foreign hlook hfound]
      rfl
  | some b =>
      rw [write_found hlook (Option.isSome_of_eq_some hfound)]
      cases hfound' : found' with
      | none =>
          dsimp only
          rw [write_foreign hlook' hfound', hsame hfound']
          rfl
      | some b' =>
          dsimp only
          rw [write_found hlook' (Option.isSome_of_eq_some hfound')]
          rfl

/-- Two writes that find what they look for. -/
theorem write_write_return {γ : Type} {look' : Edit α} {found' : Option α} {handle' : Handle}
    {change change' : Model → Model} (hlook : look model = fetched model found handle)
    (hfound : found.isSome)
    (hlook' : look' (change model) = fetched (change model) found' handle')
    (hfound' : found'.isSome) (result : γ) :
    (do write look change; write look' change'; pure result : Edit γ) model =
      .ok result (change' (change model)) := by
  rw [bind_eq, write_found hlook hfound]
  dsimp only
  rw [bind_eq, write_found hlook' hfound']
  rfl

end Writes

/-- Moving something is refused if it or the package is foreign, and for nothing
else, as long as the package that it points at lets it go. -/
theorem moveInTurn_eq {look : Edit β} {find : Model → Option β} {handle : Handle}
    (hlook : ∀ model, look model = fetched model (find model) handle)
    {pointer : β → Option PackageId} {leave : PackageId → Edit Unit} {point : Model → Model}
    {id : PackageId} (left : PackageId → Model)
    (hpoint : ∀ model, (point model).package? id = model.package? id)
    (hleave : (find model).isSome → ∀ previous, (find model).bind pointer = some previous →
      leave previous model = .ok () (left previous) ∧ (find (left previous)).isSome ∧
        ((left previous).package? id).isSome = (model.package? id).isSome)
    (enlist : Package → Package) (a : α) :
    moveInTurn look pointer leave point id enlist a model =
      guarded model (model.refusePackage id <|> Model.refuseForeign (find model) handle) a
        (Model.modifyPackage (point (((find model).bind pointer).elim model left)) id enlist) := by
  refine package_bind model id _ _ _ _ fun target htarget => ?_
  rw [← guarded_orElse_none]
  refine fetched_bind model (hlook model) _ _ _ _ fun node hnode => ?_
  have hid : (model.package? id).isSome := Option.isSome_of_eq_some htarget
  have hfound : (find model).isSome := Option.isSome_of_eq_some hnode
  have hlook' (model : Model) :
      package id (point model) = fetched (point model) (model.package? id) (.package id) := by
    rw [package_eq, hpoint]
  rw [hnode, Option.bind_some]
  cases hpointer : pointer node with
  | none => exact write_write_return (hlook model) hfound (hlook' model) hid a
  | some previous =>
      obtain ⟨hleft, hthere, hkept⟩ := hleave hfound previous (by rw [hnode]; exact hpointer)
      dsimp only
      rw [bind_eq, hleft]
      exact write_write_return (hlook _) hthere (hlook' _) (hkept.trans hid) a

end Edit

namespace Model

variable {model : Model}

/-- What is found is not refused. -/
theorem refuseForeign_of_isSome {α : Type} {found : Option α} (h : found.isSome)
    (handle : Handle) : refuseForeign found handle = none := if_pos h

/-! ## Writes that do nothing -/

/-- A change that does nothing to the package. -/
theorem modifyPackage_eq_self {package : PackageId} {change : Package → Package}
    (h : ∀ node, model.package? package = some node → change node = node) :
    model.modifyPackage package change = model := by
  rw [modifyPackage, modify_eq_self h]

/-- A package lists the types in its list. -/
theorem mem_typesIn {package : PackageId} {node : Package} {ty : TypeId}
    (hnode : model.package? package = some node) :
    ty ∈ model.typesIn package ↔ ty ∈ node.types := by
  rw [typesIn, hnode]

theorem mem_functionsIn {package : PackageId} {node : Package} {function : FunctionId}
    (hnode : model.package? package = some node) :
    function ∈ model.functionsIn package ↔ function ∈ node.functions := by
  rw [functionsIn, hnode]

namespace OwnHandles

/-- A foreign type is in no list, so it cannot be taken off one. -/
theorem erase_foreign_type (h : model.OwnHandles) (package : PackageId) {ty : TypeId}
    (hty : model.type? ty = none) :
    (model.modifyPackage package fun p => { p with types := p.types.erase ty }) = model := by
  refine modifyPackage_eq_self fun node hnode => ?_
  have hnotin : ty ∉ node.types := by
    intro hmem
    have hfound := h.typesIn package ty ((mem_typesIn hnode).2 hmem)
    simp [hty] at hfound
  rw [List.erase_of_not_mem hnotin]

/-- A foreign function is in no list, so it cannot be taken off one. -/
theorem erase_foreign_function (h : model.OwnHandles) (package : PackageId)
    {function : FunctionId} (hfunction : model.function? function = none) :
    (model.modifyPackage package fun p =>
      { p with functions := p.functions.erase function }) = model := by
  refine modifyPackage_eq_self fun node hnode => ?_
  have hnotin : function ∉ node.functions := by
    intro hmem
    have hfound := h.functionsIn package function ((mem_functionsIn hnode).2 hmem)
    simp [hfunction] at hfound
  rw [List.erase_of_not_mem hnotin]

/-- No operation is refused for a pointer that it finds stored. -/
theorem refuse_packageOf (h : model.OwnHandles) (ty : TypeId) :
    (model.packageOf ty).bind model.refusePackage = none := by
  cases hpointer : model.packageOf ty with
  | none => rfl
  | some package => exact refuseForeign_of_isSome (h.packageOf ty package hpointer) _

/-- A pointer of a function leads to a package that is there, so the list that it is
taken off is found. -/
theorem refuse_packageOfFunction (h : model.OwnHandles) (function : FunctionId) :
    (model.packageOfFunction function).bind model.refusePackage = none := by
  cases hpointer : model.packageOfFunction function with
  | none => rfl
  | some package => exact refuseForeign_of_isSome (h.packageOfFunction function package hpointer) _

/-! ## Operations write by write

Each of them does what the operation does, which looks everything up before it
writes anything. -/

open Edit

/-- Taking a type out in turn finds all that it needs, or nothing has been written. -/
theorem removeTypeInTurn_eq (h : model.OwnHandles) (id : PackageId) (ty : TypeId) :
    removeTypeInTurn id ty model = removeTypeFromPackage id ty model := by
  rw [removeTypeFromPackage_eq]
  exact write_write (package_eq model id) (type_eq _ ty) fun hty => h.erase_foreign_type id hty

/-- Moving a type in turn likewise. -/
theorem addTypeInTurn_eq (h : model.OwnHandles) (id : PackageId) (ty : TypeId) :
    addTypeInTurn id ty model = addTypeToPackage id ty model := by
  have hleave (hty : (model.type? ty).isSome) (previous : PackageId)
      (hpointer : model.packageOf ty = some previous) :
      removeTypeInTurn previous ty model = .ok () (model.unlistType previous ty) := by
    rw [h.removeTypeInTurn_eq, removeTypeFromPackage_eq, Operation.refusal?, refusePackage,
      refuseForeign_of_isSome (h.packageOf ty previous hpointer), refuseType,
      refuseForeign_of_isSome hty]
    rfl
  have hrefusal : (Operation.addTypeToPackage id ty).refusal? model =
      (model.refusePackage id <|> model.refuseType ty) := by
    simp [Operation.refusal?, h.refuse_packageOf]
  rw [addTypeToPackage_eq, hrefusal]
  refine (moveInTurn_eq (fun model => type_eq model ty) (model.unlistType · ty) ?_ ?_ _ ty).trans ?_
  · exact fun _ => rfl
  · intro hty previous hpointer
    refine ⟨hleave hty previous hpointer, ?_, isSome_package?_unlistType previous id ty⟩
    rwa [isSome_type?_unlistType]
  · rw [Operation.effect, moveType, Model.packageOf]
    cases (model.type? ty).bind (·.package) <;> rfl

/-- Taking a function out in turn likewise. -/
theorem removeFunctionInTurn_eq (h : model.OwnHandles) (id : PackageId) (target : FunctionId) :
    removeFunctionInTurn id target model = removeFunctionFromPackage id target model := by
  rw [removeFunctionFromPackage_eq]
  exact write_write (package_eq model id) (function_eq _ target) fun htarget =>
    h.erase_foreign_function id htarget

/-- Moving a function in turn likewise. -/
theorem addFunctionInTurn_eq (h : model.OwnHandles) (id : PackageId) (target : FunctionId) :
    addFunctionInTurn id target model = addFunctionToPackage id target model := by
  have hleave (htarget : (model.function? target).isSome) (previous : PackageId)
      (hpointer : model.packageOfFunction target = some previous) :
      removeFunctionInTurn previous target model =
        .ok () (model.unlistFunction previous target) := by
    rw [h.removeFunctionInTurn_eq, removeFunctionFromPackage_eq, Operation.refusal?,
      refusePackage, refuseForeign_of_isSome (h.packageOfFunction target previous hpointer),
      refuseFunction, refuseForeign_of_isSome htarget]
    rfl
  have hrefusal : (Operation.addFunctionToPackage id target).refusal? model =
      (model.refusePackage id <|> model.refuseFunction target) := by
    simp [Operation.refusal?, h.refuse_packageOfFunction]
  rw [addFunctionToPackage_eq, hrefusal]
  refine (moveInTurn_eq (fun model => function_eq model target) (model.unlistFunction · target) ?_
    ?_ _ target).trans ?_
  · exact fun _ => rfl
  · intro htarget previous hpointer
    refine ⟨hleave htarget previous hpointer, ?_, isSome_package?_modifyPackage previous id _⟩
    rwa [isSome_function?_unlistFunction]
  · rw [Operation.effect, moveFunction, Model.packageOfFunction]
    cases (model.function? target).bind (·.package) <;> rfl

/-- Adding a member in turn likewise: the owner that loses it is found. -/
theorem addMemberInTurn_eq (h : model.OwnHandles) (owner : TypeId) (id : MemberId) :
    addMemberInTurn owner id model = addMember owner id model := by
  rw [addMember_eq]
  refine type_bind model owner _ _ _ _ fun target htarget => ?_
  rw [← guarded_orElse_none]
  refine member_bind model id _ _ _ _ fun node hnode => ?_
  have howner : (model.type? owner).isSome := Option.isSome_of_eq_some htarget
  have hid : (model.member? id).isSome := Option.isSome_of_eq_some hnode
  rw [Operation.effect, giveMember, hnode]
  dsimp only
  cases hholder : node.owner with
  | none => exact write_write_return (member_eq model id) hid (type_eq _ owner) howner id
  | some holder =>
      dsimp only
      rw [release]
      by_cases hsame : holder = owner
      · rw [if_pos hsame, if_pos hsame]
        exact write_write_return (member_eq model id) hid (type_eq _ owner) howner id
      · have hfound : (model.type? holder).isSome := by
          refine h.ownerOf id holder ?_
          rw [Model.ownerOf, hnode]
          exact hholder
        rw [if_neg hsame, if_neg hsame, bind_eq, write_found (type_eq model holder) hfound]
        dsimp only
        refine write_write_return (member_eq (model.modifyType holder _) id) hid
          (type_eq _ owner) ?_ id
        exact (isSome_type?_modifyType holder owner _).trans howner

/-- The owner is written last, and the member has been found before. -/
theorem removeMemberInTurn_eq (model : Model) (owner : TypeId) (id : MemberId) :
    removeMemberInTurn owner id model = removeMember owner id model := by
  rw [removeMember_eq]
  refine member_bind model id _ _ _ _ fun node hnode => ?_
  rw [← guarded_orElse_none]
  refine type_bind model owner _ _ _ _ fun holder hholder => ?_
  have hid : (model.member? id).isSome := Option.isSome_of_eq_some hnode
  have howner : (model.type? owner).isSome := Option.isSome_of_eq_some hholder
  rw [Operation.effect, takeMember, hnode, hholder]
  dsimp only
  by_cases hheld : (holder.memberList node.kind).contains id = true
  · rw [if_pos hheld, if_pos hheld, bind_eq, write_found (type_eq model owner) howner]
    dsimp only
    by_cases hlast : ((holder.memberList node.kind).erase id).contains id = true
    · rw [if_pos hlast, if_pos hlast]
      rfl
    · rw [if_neg hlast, if_neg hlast]
      exact write_found (member_eq (model.detach owner node.kind id) id) hid _
  · rw [if_neg hheld, if_neg hheld]
    rfl

/-- What comes after a look at the kind finds the model as it was. -/
theorem expectKind_congr {α : Type} {edit edit' : Edit α} (h : edit model = edit' model)
    (id : MemberId) (kind : MemberKind) :
    (do expectKind id kind; edit : Edit α) model =
      (do expectKind id kind; edit' : Edit α) model := by
  rw [bind_eq, bind_eq, expectKind_eq]
  cases model.refuseMember id <|> model.refuseKind id kind with
  | some error => rfl
  | none => exact h

end OwnHandles

end Model

namespace Operation

/-- The operation write by write.  Those that write in one place only do so
anyhow. -/
def editInTurn : Operation → Edit (Option Handle)
  | .addMember owner member => do return some (.member (← Edit.addMemberInTurn owner member))
  | .removeMember owner member => do Edit.removeMemberInTurn owner member; return none
  | .addMemberOfKind kind owner member => do
    return some (.member (← Edit.addMemberOfKindInTurn kind owner member))
  | .removeMemberOfKind kind owner member => do
    Edit.removeMemberOfKindInTurn kind owner member; return none
  | .addTypeToPackage package ty => do return some (.type (← Edit.addTypeInTurn package ty))
  | .removeTypeFromPackage package ty => do Edit.removeTypeInTurn package ty; return none
  | .addFunctionToPackage package function => do
    return some (.function (← Edit.addFunctionInTurn package function))
  | .removeFunctionFromPackage package function => do
    Edit.removeFunctionInTurn package function; return none
  | operation => operation.edit

/-! ## What may be wrong with an operation -/

/-- The handles that an operation is handed. -/
def handles : Operation → List Handle
  | .setParent ty _ | .addInterface ty _ | .setUserDefined ty | .setModifiers ty _
  | .setSourceFile ty _ => [.type ty]
  | .setPackage ty target => .type ty :: (target.map .package).toList
  | .addMember owner member | .removeMember owner member | .addMemberOfKind _ owner member
  | .removeMemberOfKind _ owner member => [.type owner, .member member]
  | .addTypeToPackage package ty | .removeTypeFromPackage package ty => [.package package, .type ty]
  | .addFunctionToPackage package function | .removeFunctionFromPackage package function =>
    [.package package, .function function]
  | .addType .. | .addPackage _ | .newMethod .. | .newConstant .. | .addFunction _
  | .rebuildIndex | .setFilters _ => []

/-- The operation breaks a rule about kinds: a parent is a class and that of a
class, an interface is an interface, and an operation for members of one kind is
handed no other one. -/
def BreaksKinds (model : Model) : Operation → Prop
  | .setParent ty reference =>
    reference.kind ≠ .classType ∨ (model.type? ty).any (·.kind ≠ .classType)
  | .addInterface _ reference => reference.kind ≠ .interfaceType
  | .addMemberOfKind kind _ member | .removeMemberOfKind kind _ member =>
    (model.member? member).any (·.kind ≠ kind)
  | _ => False

end Operation

namespace Model

variable {model : Model}

/-- The handle names something in the model. -/
def Knows (model : Model) : Handle → Prop
  | .type ty => (model.type? ty).isSome
  | .member member => (model.member? member).isSome
  | .package package => (model.package? package).isSome
  | .function function => (model.function? function).isSome

/-! ## Causes of refusal -/

section Causes

/-- What is refused is what is not found. -/
theorem isSome_refuseForeign {α : Type} (found : Option α) (handle : Handle) :
    (refuseForeign found handle).isSome ↔ ¬ found.isSome := by
  cases found <;> simp [refuseForeign]

@[simp] theorem isSome_refuseType (ty : TypeId) :
    (model.refuseType ty).isSome ↔ ¬ model.Knows (.type ty) := isSome_refuseForeign _ _

@[simp] theorem isSome_refuseMember (member : MemberId) :
    (model.refuseMember member).isSome ↔ ¬ model.Knows (.member member) := isSome_refuseForeign _ _

@[simp] theorem isSome_refusePackage (package : PackageId) :
    (model.refusePackage package).isSome ↔ ¬ model.Knows (.package package) :=
  isSome_refuseForeign _ _

@[simp] theorem isSome_refuseFunction (function : FunctionId) :
    (model.refuseFunction function).isSome ↔ ¬ model.Knows (.function function) :=
  isSome_refuseForeign _ _

@[simp] theorem isSome_refuseKind (member : MemberId) (kind : MemberKind) :
    (model.refuseKind member kind).isSome ↔ (model.member? member).any (·.kind ≠ kind) := by
  unfold refuseKind
  cases model.member? member with
  | none => simp
  | some node => by_cases hkind : node.kind = kind <;> simp [hkind]

@[simp] theorem isSome_refuseParent (ty : TypeId) :
    (model.refuseParent ty).isSome ↔ (model.type? ty).any (·.kind ≠ .classType) := by
  unfold refuseParent
  cases model.type? ty with
  | none => simp
  | some node => by_cases hkind : node.kind = .classType <;> simp [hkind]

end Causes

/-! ## Refusals -/

namespace OwnHandles

/-- As long as all stored handles are found, an operation that writes in turn is one
that writes at once. -/
theorem editInTurn_eq (h : model.OwnHandles) (operation : Operation) :
    operation.editInTurn model = operation.edit model := by
  have hreturn {α β : Type} {edit edit' : Edit α} (heq : edit model = edit' model) (form : α → β) :
      (do return form (← edit) : Edit β) model = (do return form (← edit') : Edit β) model := by
    rw [Edit.bind_eq, Edit.bind_eq, heq]
  cases operation with
  | addMember owner member => exact hreturn (h.addMemberInTurn_eq owner member) _
  | removeMember owner member => exact hreturn (removeMemberInTurn_eq model owner member) _
  | addMemberOfKind kind owner member =>
      exact hreturn (expectKind_congr (h.addMemberInTurn_eq owner member) member kind) _
  | removeMemberOfKind kind owner member =>
      exact hreturn (expectKind_congr (removeMemberInTurn_eq model owner member) member kind) _
  | addTypeToPackage package ty => exact hreturn (h.addTypeInTurn_eq package ty) _
  | removeTypeFromPackage package ty => exact hreturn (h.removeTypeInTurn_eq package ty) _
  | addFunctionToPackage package function =>
      exact hreturn (h.addFunctionInTurn_eq package function) _
  | removeFunctionFromPackage package function =>
      exact hreturn (h.removeFunctionInTurn_eq package function) _
  | _ => rfl

/-- An operation is refused for what it is handed, and for nothing else. -/
theorem isSome_refusal?_iff (h : model.OwnHandles) (operation : Operation) :
    (operation.refusal? model).isSome ↔
      (∃ handle ∈ operation.handles, ¬ model.Knows handle) ∨ operation.BreaksKinds model := by
  cases operation with
  | setParent ty reference =>
      by_cases hkind : reference.kind = .classType
      · simp [Operation.refusal?, Operation.handles, Operation.BreaksKinds, hkind]
      · simp [Operation.refusal?, Operation.BreaksKinds, hkind]
  | addInterface ty reference =>
      by_cases hkind : reference.kind = .interfaceType
      · simp [Operation.refusal?, Operation.handles, Operation.BreaksKinds, hkind]
      · simp [Operation.refusal?, Operation.BreaksKinds, hkind]
  | setPackage ty target =>
      cases target with
      | none => simp [Operation.refusal?, Operation.handles, Operation.BreaksKinds]
      | some package =>
          simp [Operation.refusal?, Operation.handles, Operation.BreaksKinds, or_comm]
  | addMember owner member | removeMember owner member =>
      simp [Operation.refusal?, Operation.handles, Operation.BreaksKinds, or_comm]
  | addMemberOfKind kind owner member | removeMemberOfKind kind owner member =>
      simp only [Operation.refusal?, Operation.handles, Operation.BreaksKinds,
        Option.orElse_eq_orElse, Option.orElse_eq_or, Option.isSome_or, Bool.or_eq_true,
        isSome_refuseMember, isSome_refuseKind, isSome_refuseType, List.mem_cons, List.not_mem_nil,
        or_false, exists_eq_or_imp, exists_eq_left]
      tauto
  | addTypeToPackage package ty =>
      simp [Operation.refusal?, Operation.handles, Operation.BreaksKinds, h.refuse_packageOf]
  | addFunctionToPackage package function =>
      simp [Operation.refusal?, Operation.handles, Operation.BreaksKinds,
        h.refuse_packageOfFunction]
  | _ => simp [Operation.refusal?, Operation.handles, Operation.BreaksKinds]

end OwnHandles

/-- **Refusals**: in a reachable model, an operation that is carried out write by
write does what the operation does that checks everything first.  It is refused
if and only if it is handed a handle that names nothing in the model or breaks a
rule about kinds, and then the model is exactly as it was before. -/
theorem Reachable.refused_iff (h : model.Reachable) (operation : Operation) :
    operation.editInTurn model = operation.edit model ∧
      ((∃ error after, operation.editInTurn model = .error error after) ↔
        (∃ handle ∈ operation.handles, ¬ model.Knows handle) ∨ operation.BreaksKinds model) ∧
      ∀ error after, operation.editInTurn model = .error error after → after = model := by
  have hinTurn := h.ownHandles.editInTurn_eq operation
  have hiff := h.ownHandles.isSome_refusal?_iff operation
  refine ⟨hinTurn, ?_, ?_⟩
  · rw [← hiff, hinTurn, operation.edit_eq]
    cases operation.refusal? model <;> simp [Edit.guarded]
  · intro error after hrefused
    rw [hinTurn, operation.edit_eq] at hrefused
    cases hrefusal : operation.refusal? model with
    | none => simp [hrefusal, Edit.guarded] at hrefused
    | some cause =>
        rw [hrefusal] at hrefused
        exact (EStateM.Result.error.inj hrefused).2.symm

/-- A type that is not there is taken off a list that is there. -/
theorem refused_of_unlisting_foreign :
    let model := (Model.empty 0 .empty).run [.addPackage "Core"]
    let operation := Operation.removeTypeFromPackage ⟨0⟩ ⟨0⟩
    model.Reachable ∧ ¬ model.Knows (.type ⟨0⟩) ∧
      (∃ error, operation.editInTurn model = .error error model) := by
  intro model operation
  have hreachable : model.Reachable := .run _ (.empty 0 .empty)
  have hforeign : ¬ model.Knows (.type ⟨0⟩) := by
    simp [model, Knows, type?, run, Operation.after_eq, Operation.refusal?, Operation.effect,
      addPackage, findPackage, Model.empty]
  obtain ⟨-, hiff, hsame⟩ := hreachable.refused_iff operation
  obtain ⟨error, after, herror⟩ :=
    hiff.2 (.inl ⟨.type ⟨0⟩, by simp [operation, Operation.handles], hforeign⟩)
  exact ⟨hreachable, hforeign, error, hsame error after herror ▸ herror⟩

end Model

end TypeGraph
