import TypeGraph.Proofs.Ownership
import TypeGraph.Proofs.PackageIndex

/-!
# TypeGraph.Proofs.StoredHandles

The handles that a model stores: where types and functions point, who owns
members, and what is in the lists of packages and types.

A caller may hand in any handle, also one of another model, and the model checks
those that it is handed.

1. `Operation.package_cases`, `Operation.member_cases` — no operation takes an
   entity away, and of a package none writes more than its lists, of a member
   none writes more than its owner;
2. `Operation.ownerOf_cases`, `Operation.listed_cases` — what is stored after an
   operation has been stored before, or it has been looked up;
3. `Model.Reachable.ownHandles` — so the handles that a reachable model stores
   are its own, and looking them up never fails.
-/

namespace TypeGraph

/-! ## Types stay -/

/-- What leaves the skeletons alone adds no type. -/
theorem Model.KeepsSkeletons.isSome_type? {before after : Model} (h : before.KeepsSkeletons after)
    (x : TypeId) : (after.type? x).isSome = (before.type? x).isSome := by
  have hskeleton := congrArg Option.isSome (h.type? x)
  rwa [Option.isSome_map, Option.isSome_map] at hskeleton

/-- No operation takes a type away. -/
theorem Operation.isSome_type?_effect (model : Model) (operation : Operation) {x : TypeId}
    (h : (model.type? x).isSome) : ((operation.effect model).type? x).isSome := by
  obtain ⟨kind, name, rfl⟩ | ⟨ty, reference, rfl⟩ |
    ⟨ty, reference, rfl⟩ | ⟨-, hkeeps⟩ := operation.effect_cases model
  · rw [effect, Model.type?_addType]
    split
    · rfl
    · exact h
  · rwa [effect, Model.isSome_type?_modifyType]
  · rwa [effect, Model.isSome_type?_modifyType]
  · rwa [hkeeps.isSome_type?]

/-! ## Packages stay -/

namespace Model

/-- The change adds no package, and of those that there are it writes the lists
alone. -/
structure KeepsPackages (before after : Model) : Prop where
  packageIndex : after.packageIndex = before.packageIndex
  package? : ∀ x, (after.package? x).map Package.emptied = (before.package? x).map Package.emptied

namespace KeepsPackages

variable {before middle after : Model}

theorem trans (h : KeepsPackages before middle) (h' : KeepsPackages middle after) :
    KeepsPackages before after where
  packageIndex := h'.packageIndex.trans h.packageIndex
  package? x := (h'.package? x).trans (h.package? x)

theorem of_packages_eq (hindex : after.packageIndex = before.packageIndex)
    (hpackages : after.packages = before.packages) : KeepsPackages before after where
  packageIndex := hindex
  package? x := by rw [Model.package?, Model.package?, hpackages]

theorem modifyPackage (model : Model) (package : PackageId) {change : Package → Package}
    (hchange : ∀ node, (change node).emptied = node.emptied) :
    KeepsPackages model (model.modifyPackage package change) where
  packageIndex := rfl
  package? x := by
    rw [package?_modifyPackage]
    split
    · rw [Option.map_map]
      exact congrArg (model.package? x).map (funext hchange)
    · rfl

theorem unlistType (model : Model) (package : PackageId) (ty : TypeId) :
    KeepsPackages model (model.unlistType package ty) := by
  have hlist : KeepsPackages model
      (model.modifyPackage package fun p => { p with types := p.types.erase ty }) :=
    modifyPackage model package fun _ => rfl
  exact hlist.trans (of_packages_eq rfl rfl)

/-- Moving a type changes two lists at most, and drops no package. -/
theorem moveType (model : Model) (package : PackageId) (ty : TypeId) :
    KeepsPackages model (model.moveType package ty) := by
  have hlist (model : Model) : KeepsPackages model (model.listType package ty) := by
    have hpointer : KeepsPackages model
        (model.modifyType ty fun node => { node with package := some package }) :=
      of_packages_eq rfl rfl
    exact hpointer.trans (modifyPackage _ package fun _ => rfl)
  unfold Model.moveType
  cases model.packageOf ty with
  | none => exact hlist model
  | some previous => exact (unlistType model previous ty).trans (hlist _)

theorem unlistFunction (model : Model) (package : PackageId) (function : FunctionId) :
    KeepsPackages model (model.unlistFunction package function) := by
  have hlist : KeepsPackages model (model.modifyPackage package fun p =>
      { p with functions := p.functions.erase function }) :=
    modifyPackage model package fun _ => rfl
  exact hlist.trans (of_packages_eq rfl rfl)

theorem moveFunction (model : Model) (package : PackageId) (function : FunctionId) :
    KeepsPackages model (model.moveFunction package function) := by
  have hlist (model : Model) : KeepsPackages model (model.listFunction package function) := by
    have hpointer : KeepsPackages model
        (model.modifyFunction function fun node => { node with package := some package }) :=
      of_packages_eq rfl rfl
    exact hpointer.trans (modifyPackage _ package fun _ => rfl)
  unfold Model.moveFunction
  cases model.packageOfFunction function with
  | none => exact hlist model
  | some previous => exact (unlistFunction model previous function).trans (hlist _)

theorem rebuildIndex (model : Model) : KeepsPackages model model.rebuildIndex where
  packageIndex := rfl
  package? x := by
    rw [package?_rebuildIndex, Option.map_map]
    rfl

/-- The same packages are there. -/
theorem isSome_package? (h : KeepsPackages before after) (x : PackageId) :
    (after.package? x).isSome = (before.package? x).isSome := by
  have hemptied := congrArg Option.isSome (h.package? x)
  rwa [Option.isSome_map, Option.isSome_map] at hemptied

end KeepsPackages

end Model

namespace Operation

variable {model : Model}

/-- What an operation does to packages: it adds one, or it writes lists. -/
theorem package_cases (model : Model) (operation : Operation) :
    (∃ name, operation = .addPackage name) ∨ model.KeepsPackages (operation.effect model) := by
  cases operation with
  | addPackage name => exact .inl ⟨name, rfl⟩
  | addTypeToPackage package ty => exact .inr (.moveType model package ty)
  | removeTypeFromPackage package ty => exact .inr (.unlistType model package ty)
  | addFunctionToPackage package function => exact .inr (.moveFunction model package function)
  | removeFunctionFromPackage package function =>
      exact .inr (.unlistFunction model package function)
  | rebuildIndex => exact .inr (.rebuildIndex model)
  | addMember owner member | addMemberOfKind kind owner member =>
      refine .inr (.of_packages_eq ?_ ?_) <;> rw [effect, Model.giveMember_rest]
  | removeMember owner member | removeMemberOfKind kind owner member =>
      refine .inr (.of_packages_eq ?_ ?_) <;> rw [effect, Model.takeMember_rest]
  | addType | newMethod | newConstant | addFunction | setParent | addInterface | setPackage
  | setUserDefined | setModifiers | setSourceFile | setFilters =>
      exact .inr (.of_packages_eq rfl rfl)

/-- No operation takes a package away. -/
theorem isSome_package?_effect (model : Model) (operation : Operation) {x : PackageId}
    (h : (model.package? x).isSome) : ((operation.effect model).package? x).isSome := by
  obtain ⟨name, rfl⟩ | hkeeps := operation.package_cases model
  · exact (Model.KeepsFiling.addPackage model name).package? x h
  · rwa [hkeeps.isSome_package?]

/-! ## Functions stay -/

/-- No operation takes a function away. -/
theorem isSome_function?_effect (model : Model) (operation : Operation) {x : FunctionId}
    (h : (model.function? x).isSome) : ((operation.effect model).function? x).isSome := by
  have hmodify (model : Model) (function : FunctionId) (change : FunctionNode → FunctionNode)
      (h : (model.function? x).isSome) :
      ((model.modifyFunction function change).function? x).isSome :=
    (Model.isSome_getElem?_modify model.functions function.index x.index change).trans h
  obtain ⟨name, rfl⟩ | ⟨package, function, rfl⟩ | ⟨package, function, rfl⟩ | rfl | hkeeps :=
    operation.function_cases model
  · show ((model.functions.push _)[x.index]?).isSome
    rw [Array.getElem?_push]
    split
    · rfl
    · exact h
  · rw [effect, Model.moveFunction]
    cases model.packageOfFunction function with
    | none => exact hmodify model function _ h
    | some previous => exact hmodify _ function _ (hmodify model function _ h)
  · exact hmodify model function _ h
  · exact h
  · rwa [Model.function?, hkeeps.functions]

/-! ## Members stay -/

end Operation

/-- The member without its owner. -/
def Member.unowned (member : Member) : Member := { member with owner := none }

namespace Model

variable {model : Model}

/-- A member that is given away changes its owner and nothing else. -/
theorem unowned_giveMember (model : Model) (owner : TypeId) (member x : MemberId) :
    ((model.giveMember owner member).member? x).map Member.unowned =
      (model.member? x).map Member.unowned := by
  cases hnode : model.member? member with
  | none => rw [giveMember, hnode]
  | some node =>
      rw [member?_giveMember hnode]
      split
      · next hx =>
          rw [← hx, hnode]
          rfl
      · rfl

theorem unowned_takeMember (model : Model) (owner : TypeId) (member x : MemberId) :
    ((model.takeMember owner member).member? x).map Member.unowned =
      (model.member? x).map Member.unowned := by
  cases hnode : model.member? member with
  | none =>
      have hsame : model.takeMember owner member = model := by rw [takeMember, hnode]
      rw [hsame]
  | some node =>
      rw [member?_takeMember hnode]
      split
      · next hx =>
          rw [← hx.1, hnode]
          rfl
      · rfl

/-- What has a kind is a member. -/
theorem isSome_member?_of_kindOf {x : MemberId} {kind : MemberKind}
    (h : model.kindOf x = some kind) : (model.member? x).isSome := by
  obtain ⟨node, hnode, -⟩ := Option.map_eq_some_iff.1 h
  exact Option.isSome_of_eq_some hnode

end Model

namespace Operation

variable {model : Model} {operation : Operation}

/-- What an operation does to members: it adds one that nobody holds, or it writes
owners. -/
theorem member_cases (model : Model) (operation : Operation) :
    (∃ kind name modifiers value,
      operation.effect model = (model.addUnowned kind name modifiers value).2) ∨
    ∀ x, ((operation.effect model).member? x).map Member.unowned =
      (model.member? x).map Member.unowned := by
  obtain ⟨kind, name, modifiers, value, -, heffect⟩ | ⟨owner, member, -, heffect⟩ |
    ⟨owner, member, -, heffect⟩ | ⟨-, hkeeps⟩ := operation.holding_cases model
  · exact .inl ⟨kind, name, modifiers, value, heffect⟩
  · rw [heffect]
    exact .inr (model.unowned_giveMember owner member)
  · rw [heffect]
    exact .inr (model.unowned_takeMember owner member)
  · exact .inr fun x => by rw [hkeeps.member?]

theorem kindOf_effect (model : Model) (operation : Operation) {x : MemberId} {kind : MemberKind}
    (h : model.kindOf x = some kind) : (operation.effect model).kindOf x = some kind := by
  obtain ⟨newKind, name, modifiers, value, heffect⟩ | hkeeps := operation.member_cases model
  · have hold : x.index ≠ model.members.size := fun hnew => by
      have hforeign : model.member? x = none := Array.getElem?_eq_none (Nat.le_of_eq hnew.symm)
      rw [Model.kindOf, hforeign] at h
      contradiction
    rwa [heffect, Model.kindOf, Model.member?_addUnowned, if_neg hold]
  · have hkind := congrArg (Option.map Member.kind) (hkeeps x)
    rw [Option.map_map, Option.map_map] at hkind
    exact hkind.trans h

/-- No operation takes a member away. -/
theorem isSome_member?_effect (model : Model) (operation : Operation) {x : MemberId}
    (h : (model.member? x).isSome) : ((operation.effect model).member? x).isSome := by
  obtain ⟨node, hnode⟩ := Option.isSome_iff_exists.1 h
  have hkind : model.kindOf x = some node.kind := by rw [Model.kindOf, hnode, Option.map_some]
  exact Model.isSome_member?_of_kindOf (operation.kindOf_effect model hkind)

/-! ## Members that operations store -/

/-- An owner that is stored after an operation was stored before, or the operation
has looked it up. -/
theorem ownerOf_cases (hrefusal : operation.refusal? model = none) {member : MemberId}
    {ty : TypeId} (h : (operation.effect model).ownerOf member = some ty) :
    model.ownerOf member = some ty ∨ (model.type? ty).isSome := by
  obtain ⟨kind, name, modifiers, value, -, heffect⟩ |
    ⟨owner, given, node, -, hnode, howner, heffect⟩ | ⟨owner, taken, node, -, hnode, heffect⟩ |
    ⟨-, hkeeps⟩ := carried_cases hrefusal
  · rw [heffect, Model.ownerOf, Model.member?_addUnowned] at h
    split at h
    · contradiction
    · exact .inl h
  · rw [heffect, Model.ownerOf, Model.member?_giveMember hnode] at h
    split at h
    · rw [Option.bind_some, Option.some_inj] at h
      exact .inr (h ▸ howner)
    · exact .inl h
  · rw [heffect, Model.ownerOf, Model.member?_takeMember hnode] at h
    split at h
    · contradiction
    · exact .inl h
  · rw [Model.ownerOf, hkeeps.member?] at h
    exact .inl h

/-- A member that a type lists after an operation was listed before, or the
operation has looked it up and put it into the list of its kind. -/
theorem listed_cases (hrefusal : operation.refusal? model = none) {member : MemberId}
    {ty : TypeId} {kind : MemberKind} (h : member ∈ (operation.effect model).listed ty kind) :
    member ∈ model.listed ty kind ∨ model.kindOf member = some kind := by
  obtain ⟨newKind, name, modifiers, value, -, heffect⟩ |
    ⟨owner, given, node, -, hnode, howner, heffect⟩ | ⟨owner, taken, node, -, hnode, heffect⟩ |
    ⟨-, hkeeps⟩ := carried_cases hrefusal
  · rw [heffect] at h
    exact .inl h
  · rw [heffect, Model.listed_giveMember hnode howner, List.mem_append] at h
    obtain hold | hnew := h
    · split at hold
      · exact .inl (List.mem_filter.1 hold).1
      · exact .inl hold
    · split at hnew
      · next hlist =>
          rw [List.mem_singleton.1 hnew, ← hlist.2]
          exact .inr (congrArg (Option.map Member.kind) hnode)
      · exact absurd hnew List.not_mem_nil
  · rw [heffect, Model.listed_takeMember hnode] at h
    split at h
    · exact .inl (List.mem_of_mem_erase h)
    · exact .inl h
  · rw [hkeeps.listed] at h
    exact .inl h

end Operation

namespace Model

variable {model : Model}

/-! ## Types and functions that operations store -/

/-- Types point at packages of the model, and packages list types of it. -/
def TypesInside (model : Model) : Prop :=
  model.typeShelving.Within (fun package => (model.package? package).isSome)
    fun ty => (model.type? ty).isSome

/-- Functions point at packages of the model, and packages list functions of it. -/
def FunctionsInside (model : Model) : Prop :=
  model.functionShelving.Within (fun package => (model.package? package).isSome)
    fun function => (model.function? function).isSome

/-- An operation lists types that it has looked up, or that were listed before. -/
theorem TypesInside.effect (h : model.TypesInside) (hnumbered : model.Numbered)
    {operation : Operation} (hrefusal : operation.refusal? model = none) :
    (operation.effect model).TypesInside := by
  -- nothing is taken away, so what has been stored before leads somewhere still
  have hstill : model.typeShelving.Within
      (fun package => ((operation.effect model).package? package).isSome)
      fun ty => ((operation.effect model).type? ty).isSome :=
    h.mono (fun _ => operation.isSome_package?_effect model)
      fun _ => operation.isSome_type?_effect model
  obtain ⟨x, target, rfl⟩ | ⟨target, x, rfl⟩ | ⟨target, x, rfl⟩ | rfl | hkeeps :=
    operation.filing_cases model
  · exact ⟨PointsInside.effect h.pointer hrefusal, hstill.list⟩
  · obtain ⟨htarget, hx⟩ := found_of_addTypeToPackage hrefusal
    have hmoved := hstill.move (Operation.isSome_package?_effect model _ htarget)
      (Operation.isSome_type?_effect model _ hx)
    rwa [← typeShelving_moveType htarget hx] at hmoved
  · have hunlisted := hstill.unlist target x
    rwa [← typeShelving_unlistType] at hunlisted
  · refine ⟨hstill.pointer, fun package ty hty => ?_⟩
    replace hty : ty ∈ model.rebuildIndex.typesIn package := hty
    rw [typesIn_rebuildIndex] at hty
    split at hty
    · exact hnumbered.inPlace.isSome_of_mem (fun _ => rfl) hty
    · exact absurd hty List.not_mem_nil
  · rwa [← hkeeps.typeShelving_eq] at hstill

theorem FunctionsInside.effect (h : model.FunctionsInside)
    (hplaced : InPlace FunctionId.index FunctionNode.id model.functions)
    {operation : Operation} (hrefusal : operation.refusal? model = none) :
    (operation.effect model).FunctionsInside := by
  have hstill : model.functionShelving.Within
      (fun package => ((operation.effect model).package? package).isSome)
      fun function => ((operation.effect model).function? function).isSome :=
    h.mono (fun _ => operation.isSome_package?_effect model)
      fun _ => operation.isSome_function?_effect model
  obtain ⟨name, rfl⟩ | ⟨target, x, rfl⟩ | ⟨target, x, rfl⟩ | rfl | hkeeps :=
    operation.function_cases model
  · rwa [← functionShelving_addFunction name] at hstill
  · obtain ⟨htarget, hx⟩ := found_of_addFunctionToPackage hrefusal
    have hmoved := hstill.move (Operation.isSome_package?_effect model _ htarget)
      (Operation.isSome_function?_effect model _ hx)
    rwa [← functionShelving_moveFunction htarget hx] at hmoved
  · have hunlisted := hstill.unlist target x
    rwa [← functionShelving_unlistFunction] at hunlisted
  · refine ⟨hstill.pointer, fun package function hfunction => ?_⟩
    replace hfunction : function ∈ model.rebuildIndex.functionsIn package := hfunction
    rw [functionsIn_rebuildIndex] at hfunction
    split at hfunction
    · exact hplaced.isSome_of_mem (fun _ => rfl) hfunction
    · exact absurd hfunction List.not_mem_nil
  · rwa [← hkeeps.functionShelving_eq] at hstill

/-! ## All stored handles -/

/-- Every handle that the model stores names something in it. -/
structure OwnHandles (model : Model) : Prop where
  packageOf : ∀ ty package, model.packageOf ty = some package → (model.package? package).isSome
  packageOfFunction : ∀ function package, model.packageOfFunction function = some package →
    (model.package? package).isSome
  ownerOf : ∀ member ty, model.ownerOf member = some ty → (model.type? ty).isSome
  typesIn : ∀ package, ∀ ty ∈ model.typesIn package, (model.type? ty).isSome
  functionsIn : ∀ package, ∀ function ∈ model.functionsIn package,
    (model.function? function).isSome
  listed : ∀ ty kind, ∀ member ∈ model.listed ty kind, (model.member? member).isSome

namespace OwnHandles

theorem empty (origin : Nat) (filters : Filters) : (Model.empty origin filters).OwnHandles := by
  constructor <;>
    simp [Model.empty, Model.packageOf, Model.packageOfFunction, Model.ownerOf, Model.typesIn,
      Model.functionsIn, Model.listed, type?, function?, member?, package?]

/-- What an operation stores it has looked up, or it has found it stored. -/
theorem effect (h : model.OwnHandles) (hnumbered : model.Numbered)
    (hplaced : InPlace FunctionId.index FunctionNode.id model.functions)
    {operation : Operation} (hrefusal : operation.refusal? model = none) :
    (operation.effect model).OwnHandles := by
  have htypes : (operation.effect model).TypesInside :=
    TypesInside.effect ⟨h.packageOf, h.typesIn⟩ hnumbered hrefusal
  have hfunctions : (operation.effect model).FunctionsInside :=
    FunctionsInside.effect ⟨h.packageOfFunction, h.functionsIn⟩ hplaced hrefusal
  refine ⟨htypes.pointer, hfunctions.pointer, ?_, htypes.list, hfunctions.list, ?_⟩
  · intro member ty howner
    apply operation.isSome_type?_effect model
    obtain hold | hfound := Operation.ownerOf_cases hrefusal howner
    · exact h.ownerOf member ty hold
    · exact hfound
  · intro ty kind member hmember
    apply operation.isSome_member?_effect model
    obtain hold | hkind := Operation.listed_cases hrefusal hmember
    · exact h.listed ty kind member hold
    · exact isSome_member?_of_kindOf hkind

/-- Following a reference stores no handle but in the reference. -/
theorem settleIn (h : model.OwnHandles) (table : SymbolTable) (site : Site) :
    (model.settleIn table site).OwnHandles := by
  have hty (ty : TypeId) :
      ((model.settleIn table site).type? ty).isSome = (model.type? ty).isSome := by
    have hview : KeepsView (fun _ => ()) model (model.settleIn table site) :=
      .settleIn (fun _ _ _ => rfl) model table site
    rw [← Option.isSome_map, hview, Option.isSome_map]
  have hfiling := KeepsFiling.settleIn model table site
  have hholdings := KeepsHoldings.settleIn model table site
  have hrest := settleIn_rest model table site
  constructor
  · intro ty package hpointer
    rw [hfiling.packageOf] at hpointer
    exact hfiling.package? package (h.packageOf ty package hpointer)
  · intro function package hpointer
    rw [hrest] at hpointer ⊢
    exact h.packageOfFunction function package hpointer
  · intro member ty howner
    rw [Model.ownerOf, hholdings.member?] at howner
    rw [hty]
    exact h.ownerOf member ty howner
  · intro package ty hmem
    rw [hfiling.typesIn] at hmem
    rw [hty]
    exact h.typesIn package ty hmem
  · intro package function hmem
    rw [hrest] at hmem ⊢
    exact h.functionsIn package function hmem
  · intro ty kind member hmem
    rw [hholdings.listed] at hmem
    rw [hholdings.member?]
    exact h.listed ty kind member hmem

theorem copy (h : model.OwnHandles) (origin : Nat) : (model.copy origin).OwnHandles :=
  ⟨h.packageOf, h.packageOfFunction, h.ownerOf, h.typesIn, h.functionsIn, h.listed⟩

end OwnHandles

/-- **Stored handles**: whatever handles a caller has handed in, those that a
reachable model has stored are its own. -/
theorem Reachable.ownHandles (h : model.Reachable) : model.OwnHandles := by
  induction h with
  | empty origin filters => exact .empty origin filters
  | event event _ hbefore ih =>
      cases event with
      | operate operation =>
          rw [Event.after, Operation.after_eq]
          cases hrefusal : operation.refusal? _ with
          | some error => exact ih
          | none =>
              have hreachable := hbefore.reachable
              exact ih.effect hreachable.numbered hreachable.functionsFiled.numbered hrefusal
      | ask query => exact settle_of_settleIn OwnHandles.settleIn ih _
      | copy origin => exact ih.copy origin
      | resolve table site => exact ih.settleIn table site

end Model

end TypeGraph
