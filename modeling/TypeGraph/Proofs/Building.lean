import TypeGraph.Model.Build
import TypeGraph.Proofs.Run

/-!
# TypeGraph.Proofs.Building

A model that is built from declarations is one that a caller could have made
by hand: the builder does nothing but operations, and the references that it
attaches are fresh (`Edit.composed_build`).  What holds of every reachable
model therefore holds of every model that is built (`Model.build_reachable`).
-/

namespace TypeGraph

/-- The operation attaches no reference that remembers anything, and leaves
the filters alone. -/
def Operation.Fresh : Operation → Prop
  | .setParent _ reference | .addInterface _ reference => reference.memo = none
  | .setFilters _ => False
  | _ => True

/-- The operation is fresh, and it writes no pointer without the list that goes
with it. -/
def Operation.Builds (operation : Operation) : Prop :=
  operation.Fresh ∧ ∀ ty target, operation ≠ .setPackage ty target

namespace Edit

variable {α β : Type}

/-- The edit does what some operations do in turn that building is made of. -/
def Composed (edit : Edit α) : Prop :=
  ∀ model, ∃ operations : List Operation,
    (∀ operation ∈ operations, operation.Builds) ∧ edit.after model = model.run operations

/-! ## Combinations -/

theorem composed_pure (a : α) : (pure a : Edit α).Composed :=
  fun _ => ⟨[], fun _ h => absurd h List.not_mem_nil, rfl⟩

theorem composed_throw (error : ModelError) : (throw error : Edit α).Composed :=
  fun _ => ⟨[], fun _ h => absurd h List.not_mem_nil, rfl⟩

theorem composed_of_guarded {edit : Edit α} (operation : Operation) (hbuilds : operation.Builds)
    (a : α) (h : ∀ model, edit model =
      guarded model (operation.refusal? model) a (operation.effect model)) : edit.Composed := by
  intro model
  refine ⟨[operation], fun _ hmem => List.mem_singleton.1 hmem ▸ hbuilds, ?_⟩
  rw [after, h, Model.run, List.foldl_cons, List.foldl_nil, operation.after_eq]
  cases operation.refusal? model <;> rfl

theorem composed_modifyGet (operation : Operation) (hbuilds : operation.Builds)
    {create : Model → α × Model} (h : ∀ model, operation.after model = (create model).2) :
    (modifyGet create : Edit α).Composed := by
  intro model
  refine ⟨[operation], fun _ hmem => List.mem_singleton.1 hmem ▸ hbuilds, ?_⟩
  exact (h model).symm

/-- One after another. -/
theorem Composed.bind {edit : Edit α} {next : α → Edit β} (h : edit.Composed)
    (hnext : ∀ a, (next a).Composed) : (edit >>= next).Composed := by
  intro model
  obtain ⟨first, hfirst, hafter⟩ := h model
  rw [after] at hafter
  cases hedit : edit model with
  | ok a middle =>
      rw [hedit] at hafter
      obtain ⟨second, hsecond, hafter'⟩ := hnext a middle
      refine ⟨first ++ second, fun operation hmem => ?_, ?_⟩
      · exact (List.mem_append.1 hmem).elim (hfirst operation) (hsecond operation)
      · rw [Model.run_append, ← hafter, ← hafter', after, bind_eq, hedit]
        rfl
  | error error middle =>
      rw [hedit] at hafter
      refine ⟨first, hfirst, ?_⟩
      rw [← hafter, after, bind_eq, hedit]

/-- One for each element of a list. -/
theorem Composed.forM {edit : α → Edit PUnit} (h : ∀ a, (edit a).Composed) (list : List α) :
    (list.forM edit).Composed := by
  induction list with
  | nil => exact composed_pure PUnit.unit
  | cons a list ih => exact (h a).bind fun _ => ih

/-- One for each element of a list, with the results. -/
theorem Composed.mapM {edit : α → Edit β} (h : ∀ a, (edit a).Composed) (list : List α) :
    (list.mapM edit).Composed := by
  induction list with
  | nil => exact composed_pure []
  | cons a list ih =>
      rw [List.mapM_cons]
      exact (h a).bind fun b => ih.bind fun bs => composed_pure (b :: bs)

/-! ## The phases of building -/

/-- Reading modifiers touches no model. -/
theorem composed_modifiersOf (keywords : List String) : (modifiersOf keywords).Composed := by
  rw [modifiersOf]
  cases Modifiers.ofKeywords keywords with
  | ok modifiers => exact composed_pure modifiers
  | error error => exact composed_throw error

/-- Adding a member by kind is an operation. -/
theorem composed_addMemberOfKind (kind : MemberKind) (owner : TypeId) (member : MemberId) :
    (addMemberOfKind kind owner member).Composed :=
  composed_of_guarded (.addMemberOfKind kind owner member) ⟨trivial, nofun⟩ member fun model =>
    addMemberOfKind_eq model kind owner member

/-- Moving a type into a package is one. -/
theorem composed_addTypeToPackage (package : PackageId) (ty : TypeId) :
    (addTypeToPackage package ty).Composed :=
  composed_of_guarded (.addTypeToPackage package ty) ⟨trivial, nofun⟩ ty fun model =>
    addTypeToPackage_eq model package ty

theorem composed_addType (kind : TypeKind) (name : String) :
    (modifyGet (·.addType kind name) : Edit TypeId).Composed :=
  composed_modifyGet (.addType kind name) ⟨trivial, nofun⟩ fun _ => rfl

theorem composed_addPackage (name : String) :
    (modifyGet (·.addPackage name) : Edit PackageId).Composed :=
  composed_modifyGet (.addPackage name) ⟨trivial, nofun⟩ fun _ => rfl

/-- A method is added, and then given to its type. -/
theorem composed_declareMethod (ty : TypeId) (method : MethodDeclaration) :
    (declareMethod ty method).Composed := by
  refine (composed_modifiersOf method.modifiers).bind fun modifiers => ?_
  refine (composed_modifyGet (.newMethod method.name modifiers) ⟨trivial, nofun⟩ fun _ => rfl).bind
    fun member => ?_
  exact (composed_addMemberOfKind .method ty member).bind fun _ => composed_pure ()

theorem composed_declareConstant (ty : TypeId) (constant : ConstantDeclaration) :
    (declareConstant ty constant).Composed := by
  refine (composed_modifyGet (.newConstant constant.name constant.value) ⟨trivial, nofun⟩
    fun _ => rfl).bind fun member => ?_
  exact (composed_addMemberOfKind .constant ty member).bind fun _ => composed_pure ()

/-- A function is added, and then filed. -/
theorem composed_declareFunction (package : PackageId) (name : String) :
    (declareFunction package name).Composed := by
  refine (composed_modifyGet (.addFunction name) ⟨trivial, nofun⟩ fun _ => rfl).bind
    fun function => ?_
  refine Composed.bind ?_ fun _ => composed_pure ()
  exact composed_of_guarded (.addFunctionToPackage package function) ⟨trivial, nofun⟩ function
    fun model => addFunctionToPackage_eq model package function

/-- A type is added and filed, and then gets its marks and members. -/
theorem composed_declareType (package : PackageId) (kind : TypeKind)
    (declaration : TypeDeclaration) : (declareType package kind declaration).Composed := by
  have hmark (ty : TypeId) : (setUserDefined ty).Composed :=
    composed_of_guarded (.setUserDefined ty) ⟨trivial, nofun⟩ () fun model =>
      modifyType_eq model ty _
  have hmodifiers (ty : TypeId) (modifiers : Modifiers) : (setModifiers ty modifiers).Composed :=
    composed_of_guarded (.setModifiers ty modifiers) ⟨trivial, nofun⟩ () fun model =>
      modifyType_eq model ty _
  have hfile (ty : TypeId) (file : String) : (setSourceFile ty file).Composed :=
    composed_of_guarded (.setSourceFile ty file) ⟨trivial, nofun⟩ () fun model =>
      modifyType_eq model ty _
  have hrest (ty : TypeId) : (do
      let _ ← addTypeToPackage package ty
      declaration.methods.forM (declareMethod ty)
      declaration.constants.forM (declareConstant ty)
      return (ty, declaration) : Edit (TypeId × TypeDeclaration)).Composed := by
    refine (composed_addTypeToPackage package ty).bind fun _ => ?_
    refine (Composed.forM (composed_declareMethod ty) declaration.methods).bind fun _ => ?_
    refine (Composed.forM (composed_declareConstant ty) declaration.constants).bind fun _ => ?_
    exact composed_pure (ty, declaration)
  refine (composed_addType kind declaration.name).bind fun ty => ?_
  refine (hmark ty).bind fun _ => ?_
  refine (composed_modifiersOf declaration.modifiers).bind fun modifiers => ?_
  refine (hmodifiers ty modifiers).bind fun _ => ?_
  cases declaration.file with
  | none => exact hrest ty
  | some file => exact (hfile ty file).bind fun _ => hrest ty

/-- A package is added, and then everything that it declares. -/
theorem composed_declarePackage (declaration : PackageDeclaration) :
    (declarePackage declaration).Composed := by
  refine (composed_addPackage declaration.name).bind fun package => ?_
  refine (Composed.mapM (composed_declareType package .classType) declaration.classes).bind
    fun classes => ?_
  refine (Composed.mapM (composed_declareType package .interfaceType) declaration.interfaces).bind
    fun interfaces => ?_
  refine (Composed.forM (composed_declareFunction package) declaration.functions).bind fun _ => ?_
  exact composed_pure (classes ++ interfaces)

/-- A new reference is fresh. -/
theorem composed_newReference_bind (kind : TypeKind) (name : String)
    {next : TypeReference → Edit α}
    (hnext : ∀ reference, reference.memo = none → (next reference).Composed) :
    (newReference kind name >>= next).Composed := by
  rw [newReference, TypeReference.new?]
  by_cases hblank : isBlankName name = true
  · rw [if_pos hblank]
    exact composed_throw (.blankName kind)
  · rw [if_neg hblank]
    exact hnext ⟨kind, name, none⟩ rfl

/-- Wiring attaches references that are fresh. -/
theorem composed_wire (declared : TypeId × TypeDeclaration) : (wire declared).Composed := by
  obtain ⟨ty, declaration⟩ := declared
  have hinterfaces : (declaration.interfaces.forM fun name => do
      addInterface ty (← newReference .interfaceType name) : Edit Unit).Composed := by
    refine Composed.forM (fun name => ?_) declaration.interfaces
    refine composed_newReference_bind .interfaceType name fun reference hfresh => ?_
    exact composed_of_guarded (.addInterface ty reference) ⟨hfresh, nofun⟩ () fun model =>
      addInterface_eq model ty reference
  have hparent (reference : TypeReference) (hfresh : reference.memo = none) :
      (setParent ty reference).Composed :=
    composed_of_guarded (.setParent ty reference) ⟨hfresh, nofun⟩ () fun model =>
      setParent_eq model ty reference
  rw [wire]
  cases declaration.parent with
  | none => exact hinterfaces
  | some name =>
      refine composed_newReference_bind .classType name fun reference hfresh => ?_
      exact (hparent reference hfresh).bind fun _ => hinterfaces

/-- A placeholder is a type, and its package if that is new. -/
theorem composed_addPlaceholder (missing : MissingType) : (addPlaceholder missing).Composed := by
  refine (composed_addType missing.kind (unrooted missing.name)).bind fun ty => ?_
  refine (composed_addPackage (namespaceOf (unrooted missing.name))).bind fun package => ?_
  exact (composed_addTypeToPackage package ty).bind fun _ => composed_pure ()

/-- **Building** is nothing but operations with fresh references. -/
theorem composed_build (placeholders : Bool) (declarations : Declarations) :
    (build placeholders declarations).Composed := by
  refine (Composed.mapM composed_declarePackage declarations.packages).bind fun declared => ?_
  refine (Composed.forM composed_wire declared.flatten).bind fun _ => ?_
  cases placeholders with
  | false => exact composed_pure ()
  | true =>
      have hget : (get : Edit Model).Composed :=
        fun _ => ⟨[], fun _ h => absurd h List.not_mem_nil, rfl⟩
      exact hget.bind fun model => Composed.forM composed_addPlaceholder model.missingTypes

end Edit

/-- A model that is built is a run of operations that building is made of. -/
theorem Model.build_eq_run {origin : Nat} {filters : Filters} {placeholders : Bool}
    {declarations : Declarations} {model : Model}
    (h : Model.build origin filters placeholders declarations = .ok model) :
    ∃ operations : List Operation, (∀ operation ∈ operations, operation.Builds) ∧
      model = (Model.empty origin filters).run operations := by
  obtain ⟨operations, hbuilds, hafter⟩ :=
    Edit.composed_build placeholders declarations (.empty origin filters)
  refine ⟨operations, hbuilds, ?_⟩
  rw [← hafter, Edit.after]
  rw [Model.build] at h
  cases hbuild : Edit.build placeholders declarations (.empty origin filters) with
  | ok _ built =>
      rw [hbuild] at h
      exact (Except.ok.inj h).symm
  | error error _ =>
      rw [hbuild] at h
      contradiction

/-- **Built models** are reachable. -/
theorem Model.build_reachable {origin : Nat} {filters : Filters} {placeholders : Bool}
    {declarations : Declarations} {model : Model}
    (h : Model.build origin filters placeholders declarations = .ok model) : model.Reachable := by
  obtain ⟨operations, -, rfl⟩ := Model.build_eq_run h
  exact .run operations (.empty origin filters)

/-- Building keeps to every rule that its operations keep to. -/
theorem Model.build_reachableBy {origin : Nat} {filters : Filters} {placeholders : Bool}
    {declarations : Declarations} {model : Model} {rule : Model → Event → Prop}
    (h : Model.build origin filters placeholders declarations = .ok model)
    (hrule : ∀ model, ∀ operation : Operation, operation.Builds → rule model (.operate operation)) :
    model.ReachableBy rule := by
  obtain ⟨operations, hbuilds, rfl⟩ := Model.build_eq_run h
  exact (ReachableBy.empty origin filters).run fun model operation hmem =>
    hrule model operation (hbuilds operation hmem)

end TypeGraph
