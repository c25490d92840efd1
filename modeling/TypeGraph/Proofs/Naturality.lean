import TypeGraph.Proofs.Settled

/-!
# TypeGraph.Proofs.Naturality

Operations pass references on without looking at what they remember.  So
whatever is put in place of the references, before an operation or after it,
the outcome is the same (`Operation.effect_mapReferences`); and what is put in
their place does not change whether the operation is refused, if it keeps
their kinds and names (`Operation.refusal?_mapReferences`).
-/

namespace TypeGraph

/-- The operation with another reference in place of the one it attaches. -/
def Operation.mapReferences (change : TypeReference → TypeReference) : Operation → Operation
  | .setParent ty reference => .setParent ty (change reference)
  | .addInterface ty reference => .addInterface ty (change reference)
  | operation => operation

namespace TypeNode

variable (change : TypeReference → TypeReference) (node : TypeNode)

theorem mapReferences_withMemberList (kind : MemberKind) (members : List MemberId) :
    (node.withMemberList kind members).mapReferences change =
      (node.mapReferences change).withMemberList kind members := by
  cases kind <;> rfl

theorem memberList_mapReferences (kind : MemberKind) :
    (node.mapReferences change).memberList kind = node.memberList kind := by
  cases kind <;> rfl

end TypeNode

namespace Model

variable {model : Model} {change : TypeReference → TypeReference}

/-! ## Effects -/

/-- A change to the references commutes with a change to a type, if it does so for the
type alone. -/
theorem mapReferences_modifyType {ty : TypeId} {edit edit' : TypeNode → TypeNode}
    (h : ∀ node, (edit node).mapReferences change = edit' (node.mapReferences change)) :
    (model.modifyType ty edit).mapReferences change =
      (model.mapReferences change).modifyType ty edit' := by
  have htypes : (model.types.modify ty.index edit).map (·.mapReferences change) =
      (model.types.map (·.mapReferences change)).modify ty.index edit' := by
    refine Array.ext_getElem? fun i => ?_
    rw [Array.getElem?_map, Array.getElem?_modify, Array.getElem?_modify, Array.getElem?_map]
    split
    · rw [Option.map_map, Option.map_map]
      exact congrArg (Option.map · model.types[i]?) (funext h)
    · rfl
  rw [modifyType, modifyType, mapReferences, mapReferences, htypes]

/-- A new type has no references. -/
theorem mapReferences_addType (kind : TypeKind) (name : String) :
    (model.addType kind name).2.mapReferences change =
      ((model.mapReferences change).addType kind name).2 := by
  simp [addType, mapReferences, TypeNode.mapReferences, TypeNode.bare]

/-- Packages have none. -/
theorem mapReferences_addPackage (name : String) :
    (model.addPackage name).2.mapReferences change =
      ((model.mapReferences change).addPackage name).2 := by
  have hfind : (model.mapReferences change).findPackage name = model.findPackage name := rfl
  rw [addPackage, addPackage, hfind]
  cases model.findPackage name <;> rfl

theorem mapReferences_release (owner : TypeId) (previous : Option TypeId) (member : MemberId) :
    (model.release owner previous member).mapReferences change =
      (model.mapReferences change).release owner previous member := by
  cases previous with
  | none => rfl
  | some holder =>
      rw [release, release]
      split
      · rfl
      · exact mapReferences_modifyType fun _ => rfl

theorem mapReferences_attach (owner : TypeId) (kind : MemberKind) (member : MemberId) :
    (model.attach owner kind member).mapReferences change =
      (model.mapReferences change).attach owner kind member := by
  refine mapReferences_modifyType fun node => ?_
  rw [TypeNode.pushMember, TypeNode.mapReferences_withMemberList, TypeNode.pushMember,
    TypeNode.memberList_mapReferences]

theorem mapReferences_detach (owner : TypeId) (kind : MemberKind) (member : MemberId) :
    (model.detach owner kind member).mapReferences change =
      (model.mapReferences change).detach owner kind member := by
  refine mapReferences_modifyType fun node => ?_
  rw [TypeNode.eraseMember, TypeNode.mapReferences_withMemberList, TypeNode.eraseMember,
    TypeNode.memberList_mapReferences]

/-- Giving a member to a type does not look at references. -/
theorem mapReferences_giveMember (owner : TypeId) (member : MemberId) :
    (model.giveMember owner member).mapReferences change =
      (model.mapReferences change).giveMember owner member := by
  have hmember : (model.mapReferences change).member? member = model.member? member := rfl
  rw [giveMember, giveMember, hmember]
  cases model.member? member with
  | none => rfl
  | some node =>
      dsimp only
      rw [mapReferences_attach, mapReferences_release]

theorem mapReferences_takeMember (owner : TypeId) (member : MemberId) :
    (model.takeMember owner member).mapReferences change =
      (model.mapReferences change).takeMember owner member := by
  have hmember : (model.mapReferences change).member? member = model.member? member := rfl
  have hdisown (model : Model) :
      (model.disown member).mapReferences change = (model.mapReferences change).disown member := rfl
  rw [takeMember, takeMember, hmember, type?_mapReferences]
  cases model.member? member with
  | none => rfl
  | some node =>
      cases model.type? owner with
      | none => rfl
      | some holder =>
          dsimp only [Option.map_some]
          rw [TypeNode.memberList_mapReferences]
          split
          · split
            · exact mapReferences_detach owner node.kind member
            · rw [hdisown, mapReferences_detach]
          · rfl

theorem mapReferences_unlistType (package : PackageId) (ty : TypeId) :
    (model.unlistType package ty).mapReferences change =
      (model.mapReferences change).unlistType package ty := by
  refine mapReferences_modifyType fun node => ?_
  by_cases h : node.package = some package
  · rw [if_pos h, if_pos (show (node.mapReferences change).package = some package from h)]
    rfl
  · rw [if_neg h, if_neg (show ¬ (node.mapReferences change).package = some package from h)]

theorem mapReferences_listType (package : PackageId) (ty : TypeId) :
    (model.listType package ty).mapReferences change =
      (model.mapReferences change).listType package ty := by
  have hpointer : (model.modifyType ty fun node =>
      { node with package := some package }).mapReferences change =
        (model.mapReferences change).modifyType ty fun node =>
          { node with package := some package } :=
    mapReferences_modifyType fun _ => rfl
  rw [listType, listType, ← hpointer]
  rfl

theorem packageOf_mapReferences (ty : TypeId) :
    (model.mapReferences change).packageOf ty = model.packageOf ty := by
  rw [packageOf, packageOf, type?_mapReferences, Option.bind_map]
  rfl

theorem mapReferences_moveType (package : PackageId) (ty : TypeId) :
    (model.moveType package ty).mapReferences change =
      (model.mapReferences change).moveType package ty := by
  rw [moveType, moveType, packageOf_mapReferences]
  cases model.packageOf ty with
  | none => exact mapReferences_listType package ty
  | some previous =>
      dsimp only
      rw [mapReferences_listType, mapReferences_unlistType]

theorem mapReferences_moveFunction (package : PackageId) (function : FunctionId) :
    (model.moveFunction package function).mapReferences change =
      (model.mapReferences change).moveFunction package function := by
  have hpackage : (model.mapReferences change).packageOfFunction function =
      model.packageOfFunction function := rfl
  rw [moveFunction, moveFunction, hpackage]
  cases model.packageOfFunction function <;> rfl

theorem mapReferences_rebuildIndex :
    model.rebuildIndex.mapReferences change = (model.mapReferences change).rebuildIndex := by
  have hpackages : (model.mapReferences change).rebuildIndex.packages =
      model.rebuildIndex.packages := by
    simp only [rebuildIndex, mapReferences, Array.toList_map, List.filterMap_map,
      Function.comp_def, TypeNode.mapReferences]
  exact congrArg (fun packages => { model.mapReferences change with packages }) hpackages.symm

end Model

/-- **Effects**: an operation does the same to a model with other references. -/
theorem Operation.effect_mapReferences (model : Model) (change : TypeReference → TypeReference)
    (operation : Operation) :
    (operation.mapReferences change).effect (model.mapReferences change) =
      (operation.effect model).mapReferences change := by
  symm
  cases operation with
  | addType kind name => exact Model.mapReferences_addType kind name
  | addPackage name => exact Model.mapReferences_addPackage name
  | newMethod | newConstant | addFunction | setFilters => rfl
  | setParent ty reference => exact Model.mapReferences_modifyType fun _ => rfl
  | addInterface ty reference =>
      refine Model.mapReferences_modifyType fun node => ?_
      rw [TypeNode.mapReferences, List.map_append]
      rfl
  | setPackage | setUserDefined | setModifiers | setSourceFile =>
      exact Model.mapReferences_modifyType fun _ => rfl
  | addMember owner member | addMemberOfKind kind owner member =>
      exact Model.mapReferences_giveMember owner member
  | removeMember owner member | removeMemberOfKind kind owner member =>
      exact Model.mapReferences_takeMember owner member
  | addTypeToPackage package ty => exact Model.mapReferences_moveType package ty
  | removeTypeFromPackage package ty => exact Model.mapReferences_unlistType package ty
  | addFunctionToPackage package function => exact Model.mapReferences_moveFunction package function
  | removeFunctionFromPackage => rfl
  | rebuildIndex => exact Model.mapReferences_rebuildIndex

/-! ## Refusals and replies -/

namespace Model

variable {model : Model} {change : TypeReference → TypeReference}

/-- Whether a type is refused does not depend on references. -/
theorem refuseType_mapReferences (ty : TypeId) :
    (model.mapReferences change).refuseType ty = model.refuseType ty := by
  rw [refuseType, refuseType, refuseForeign, refuseForeign, type?_mapReferences, Option.isSome_map]

/-- Whether a parent is refused depends on the kind of the type only. -/
theorem refuseParent_mapReferences (ty : TypeId) :
    (model.mapReferences change).refuseParent ty = model.refuseParent ty := by
  rw [refuseParent, refuseParent, type?_mapReferences, Option.bind_map]
  rfl

theorem refuseMember_mapReferences :
    (model.mapReferences change).refuseMember = model.refuseMember := rfl

theorem refuseKind_mapReferences :
    (model.mapReferences change).refuseKind = model.refuseKind := rfl

theorem refusePackage_mapReferences :
    (model.mapReferences change).refusePackage = model.refusePackage := rfl

end Model

/-- **Refusals**: an operation is refused for the same cause by a model with
other references. -/
theorem Operation.refusal?_mapReferences (model : Model) (change : TypeReference → TypeReference)
    (hkind : ∀ reference, (change reference).kind = reference.kind)
    (hname : ∀ reference, (change reference).name = reference.name) (operation : Operation) :
    (operation.mapReferences change).refusal? (model.mapReferences change) =
      operation.refusal? model := by
  cases operation with
  | setParent ty reference =>
      rw [mapReferences, refusal?, refusal?, hkind, hname, Model.refuseType_mapReferences,
        Model.refuseParent_mapReferences]
  | addInterface ty reference =>
      rw [mapReferences, refusal?, refusal?, hkind, hname, Model.refuseType_mapReferences]
  | setPackage | setUserDefined | setModifiers | setSourceFile | addMember | removeMember
  | addMemberOfKind | removeMemberOfKind | addTypeToPackage | removeTypeFromPackage =>
      simp only [mapReferences, refusal?, Model.refuseType_mapReferences,
        Model.refuseMember_mapReferences, Model.refuseKind_mapReferences,
        Model.refusePackage_mapReferences, Model.packageOf_mapReferences]
  | addType | addPackage | newMethod | newConstant | addFunction | addFunctionToPackage
  | removeFunctionFromPackage | rebuildIndex | setFilters => rfl

/-- What an operation replies does not depend on references. -/
theorem Operation.reply_mapReferences (model : Model) (change : TypeReference → TypeReference)
    (operation : Operation) :
    (operation.mapReferences change).reply (model.mapReferences change) =
      operation.reply model := by
  cases operation with
  | addType kind name => simp [mapReferences, reply, Model.addType, Model.mapReferences]
  | addPackage name =>
      have hfind : (model.mapReferences change).findPackage name = model.findPackage name := rfl
      simp only [mapReferences, reply, Model.addPackage, hfind]
      cases model.findPackage name <;> rfl
  | _ => rfl

end TypeGraph
