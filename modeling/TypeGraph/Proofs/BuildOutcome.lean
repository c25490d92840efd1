import Mathlib.Data.List.Induction
import TypeGraph.Proofs.Blueprint

/-!
# TypeGraph.Proofs.BuildOutcome

What comes of building: the first fault of the declarations, or the model that
the blueprint describes (`Model.build_eq`).

* `Declarations.fault?` reads the first fault off the declarations: all keywords
  come before all references;
* `Edit.Does` says that an edit is refused with a certain fault, if there is one,
  and what holds after it otherwise; there is one lemma for each part of the
  builder.

No other check of the builder ever fails, and the placeholders never do.
-/

namespace TypeGraph

/-! ## Faults -/

/-- The first keyword that stands for no modifier. -/
def keywordFault? (keywords : List String) : Option ModelError :=
  (keywords.find? fun keyword => (Modifiers.ofKeyword? keyword).isNone).map .unknownModifier

/-- A name that names nothing. -/
def blankFault? (kind : TypeKind) (name : String) : Option ModelError :=
  if isBlankName name then some (.blankName kind) else none

/-- The first fault in the keywords of a type and its methods. -/
def TypeDeclaration.keywordFault? (declaration : TypeDeclaration) : Option ModelError :=
  (TypeGraph.keywordFault? declaration.modifiers).or
    (declaration.methods.findSome? (TypeGraph.keywordFault? ·.modifiers))

namespace Entry

/-- The fault of the parent of a declared type. -/
def parentFault? (entry : Entry) : Option ModelError :=
  entry.declaration.parent.bind fun name =>
    (blankFault? .classType name).or
      (if entry.kind ≠ .classType then some (.interfaceWithParent entry.declaration.name) else none)

/-- The first fault in the references of a declared type. -/
def referenceFault? (entry : Entry) : Option ModelError :=
  entry.parentFault?.or (entry.declaration.interfaces.findSome? (blankFault? .interfaceType))

end Entry

/-- The first fault of the declarations. -/
def Declarations.fault? (declarations : Declarations) : Option ModelError :=
  (declarations.entries.findSome? (·.declaration.keywordFault?)).or
    (declarations.entries.findSome? (·.referenceFault?))

/-- There is no fault if no type has one. -/
theorem Declarations.fault?_eq_none_iff (declarations : Declarations) :
    declarations.fault? = none ↔ ∀ entry ∈ declarations.entries,
      entry.declaration.keywordFault? = none ∧ entry.referenceFault? = none := by
  rw [Declarations.fault?, Option.or_eq_none_iff, List.findSome?_eq_none_iff,
    List.findSome?_eq_none_iff]
  exact forall₂_and.symm

/-- The first hit in a list is the one of its head, or else the first one of its tail. -/
theorem findSome?_cons_eq_or {α β : Type} (f : α → Option β) (a : α) (list : List α) :
    (a :: list).findSome? f = (f a).or (list.findSome? f) := by
  rw [List.findSome?_cons]
  cases f a <;> rfl

/-- A keyword list is at fault where its first unknown keyword is. -/
theorem keywordFault?_cons (keyword : String) (keywords : List String) :
    keywordFault? (keyword :: keywords) =
      match Modifiers.ofKeyword? keyword with
      | some _ => keywordFault? keywords
      | none => some (.unknownModifier keyword) := by
  rw [keywordFault?, List.find?_cons]
  cases Modifiers.ofKeyword? keyword <;> rfl

/-- Keywords are read as a whole, or the first unknown one is refused. -/
theorem ofKeywords_eq (keywords : List String) :
    Modifiers.ofKeywords keywords = match keywordFault? keywords with
      | some error => .error error
      | none => .ok (.known keywords) := by
  suffices hfrom : ∀ start : Modifiers, keywords.foldlM (fun modifiers keyword =>
      match Modifiers.ofKeyword? keyword with
      | some modifier => Except.ok (modifiers.union modifier)
      | none => .error (ModelError.unknownModifier keyword)) start =
        match keywordFault? keywords with
        | some error => .error error
        | none => .ok ((keywords.filterMap Modifiers.ofKeyword?).foldl Modifiers.union start) from
    hfrom .none
  induction keywords with
  | nil => exact fun _ => rfl
  | cons keyword keywords ih =>
      intro start
      rw [List.foldlM_cons, keywordFault?_cons, List.filterMap_cons]
      cases Modifiers.ofKeyword? keyword with
      | none => rfl
      | some modifier => exact ih (start.union modifier)

/-! ## Edits that have one fault -/

namespace Edit

variable {α β : Type} {model : Model} {fault : Option ModelError}

/-- The edit is refused with the fault, if there is one, and establishes the
condition otherwise. -/
def Does (edit : Edit α) (model : Model) (fault : Option ModelError)
    (post : α → Model → Prop) : Prop :=
  match edit model with
  | .ok a after => fault = none ∧ post a after
  | .error error _ => fault = some error

/-- An edit that is guarded by a fault does what it does if there is none. -/
theorem does_of_guarded {edit : Edit α} {a : α} {after : Model} {post : α → Model → Prop}
    (h : edit model = guarded model fault a after) (hpost : post a after) :
    edit.Does model fault post := by
  rw [Does, h]
  cases fault with
  | none => exact ⟨rfl, hpost⟩
  | some error => rfl

/-- An edit that is never refused. -/
theorem does_of_ok {edit : Edit α} {a : α} {after : Model} {post : α → Model → Prop}
    (h : edit model = .ok a after) (hpost : post a after) : edit.Does model none post := by
  rw [Does, h]
  exact ⟨rfl, hpost⟩

/-- What holds after an edit may be weakened. -/
theorem Does.mono {edit : Edit α} {post post' : α → Model → Prop} (h : edit.Does model fault post)
    (hpost : ∀ a after, post a after → post' a after) : edit.Does model fault post' := by
  rw [Does] at h ⊢
  cases hedit : edit model with
  | ok a after =>
      rw [hedit] at h
      exact ⟨h.1, hpost a after h.2⟩
  | error error after =>
      rw [hedit] at h
      exact h

/-- One edit after another one: the faults of the first come first. -/
theorem Does.bind {edit : Edit α} {next : α → Edit β} {fault' : Option ModelError}
    {middle : α → Model → Prop} {post : β → Model → Prop} (h : edit.Does model fault middle)
    (hnext : ∀ a after, middle a after → (next a).Does after fault' post) :
    (edit >>= next).Does model (fault.or fault') post := by
  rw [Does] at h ⊢
  rw [bind_eq]
  cases hedit : edit model with
  | ok a after =>
      rw [hedit] at h
      obtain ⟨rfl, hmiddle⟩ := h
      exact hnext a after hmiddle
  | error error after =>
      rw [hedit] at h
      rw [h]
      rfl

/-- One edit after another one that is carried out anyhow. -/
theorem does_bind_of_ok {edit : Edit α} {next : α → Edit β} {a : α} {after : Model}
    {post : β → Model → Prop} (h : edit model = .ok a after)
    (hnext : (next a).Does after fault post) : (edit >>= next).Does model fault post := by
  rw [Does, bind_eq, h]
  exact hnext

/-- An edit in front of one that is carried out anyhow. -/
theorem Does.bind_ok {edit : Edit α} {next : α → Edit β} {middle : α → Model → Prop}
    {post : β → Model → Prop} (h : edit.Does model fault middle)
    (hnext : ∀ a after, middle a after → (next a).Does after none post) :
    (edit >>= next).Does model fault post := by
  rw [← Option.or_none (o := fault)]
  exact h.bind hnext

/-- Edits in turn that are all carried out, as long as an invariant holds. -/
theorem does_forM_of_ok {edit : α → Edit PUnit} {step : Model → α → Model}
    {invariant : Model → Prop} (list : List α) (h : invariant model)
    (hstep : ∀ model a, invariant model →
      edit a model = .ok ⟨⟩ (step model a) ∧ invariant (step model a)) :
    (list.forM edit).Does model none fun _ after => after = list.foldl step model := by
  induction list generalizing model with
  | nil => exact does_of_ok rfl rfl
  | cons a list ih =>
      obtain ⟨hok, hnext⟩ := hstep model a h
      exact does_bind_of_ok hok (ih hnext)

end Edit

/-! ## Members -/

namespace Model

/-- The model with one more type and some members. -/
def grown (model : Model) (node : TypeNode) (members : List Member) : Model :=
  { model with
    types := model.types.push node
    members := model.members ++ members.toArray }

variable {model : Model} {node : TypeNode} {members : List Member}

/-- The last slot may be changed before it is pushed. -/
theorem modify_push_size {α : Type} (slots : Array α) (a : α) (change : α → α) :
    (slots.push a).modify slots.size change = slots.push (change a) := by
  apply Array.ext_getElem?
  intro i
  rw [Array.getElem?_modify, Array.getElem?_push, Array.getElem?_push]
  by_cases hlast : i = slots.size <;> simp [hlast, eq_comm]

/-- A model that has grown by a type has it under the next handle. -/
theorem type?_grown : (model.grown node members).type? ⟨model.types.size⟩ = some node := by
  simp [grown, type?]

theorem grown_nil (model : Model) (node : TypeNode) :
    model.grown node [] = { model with types := model.types.push node } := by
  simp [grown]

theorem modifyType_grown (change : TypeNode → TypeNode) :
    (model.grown node members).modifyType ⟨model.types.size⟩ change =
      model.grown (change node) members := by
  rw [modifyType, grown, grown, modify_push_size]

/-- The last new member is under the last handle. -/
theorem member?_grown (member : Member) :
    (model.grown node (members ++ [member])).member? ⟨model.members.size + members.length⟩ =
      some member := by
  simp [grown, member?]

/-- A change to the last new member leaves the others alone. -/
theorem modifyMember_grown (member : Member) (change : Member → Member) :
    (model.grown node (members ++ [member])).modifyMember
        ⟨model.members.size + members.length⟩ change =
      model.grown node (members ++ [change member]) := by
  have hpush (last : Member) : model.members ++ (members ++ [last]).toArray =
      (model.members ++ members.toArray).push last := by simp
  have hsize : model.members.size + members.length =
      (model.members ++ members.toArray).size := by simp
  rw [modifyMember, grown, grown, hpush, hpush, hsize, modify_push_size]

/-- A member without an owner is one more new member. -/
theorem addUnowned_grown (kind : MemberKind) (name : String) (modifiers : Modifiers)
    (value : Option String) :
    (model.grown node members).addUnowned kind name modifiers value =
      (⟨model.members.size + members.length⟩, model.grown node (members ++
        [⟨⟨model.members.size + members.length⟩, model.origin, name, kind, modifiers, value,
          none⟩])) := by
  simp [addUnowned, grown]

end Model

namespace Edit

variable {model : Model} {node : TypeNode} {members : List Member}

/-- A new member goes to the type that has been added last. -/
theorem newMember_grown (kind : MemberKind) (name : String) (modifiers : Modifiers)
    (value : Option String) :
    (do
      let id ← modifyGet (·.addUnowned kind name modifiers value)
      let _ ← addMemberOfKind kind ⟨model.types.size⟩ id : Edit Unit) (model.grown node members) =
        .ok () (model.grown
          (node.pushMember kind ⟨model.members.size + members.length⟩) (members ++
            [⟨⟨model.members.size + members.length⟩, model.origin, name, kind, modifiers, value,
              some ⟨model.types.size⟩⟩])) := by
  let id : MemberId := ⟨model.members.size + members.length⟩
  let member : Member := ⟨id, model.origin, name, kind, modifiers, value, none⟩
  let grown := model.grown node (members ++ [member])
  have hmember : grown.member? id = some member := Model.member?_grown member
  have htype : grown.type? ⟨model.types.size⟩ = some node := Model.type?_grown
  have hadd : addMemberOfKind kind ⟨model.types.size⟩ id grown =
      .ok id (model.grown (node.pushMember kind id)
        (members ++ [{ member with owner := some ⟨model.types.size⟩ }])) := by
    have hfound : grown.refuseMember id = none := by rw [Model.refuseMember, hmember]; rfl
    have hright : grown.refuseKind id kind = none := by
      rw [Model.refuseKind, hmember]
      simp [member]
    have hheld : grown.refuseType ⟨model.types.size⟩ = none := by rw [Model.refuseType, htype]; rfl
    rw [addMemberOfKind_eq, Operation.refusal?, hfound, hright, hheld, Operation.effect,
      Model.giveMember, hmember]
    dsimp only
    rw [Model.release, Model.attach, Model.modifyMember_grown, Model.modifyType_grown]
    rfl
  have hnew : (modifyGet (·.addUnowned kind name modifiers value) : Edit MemberId)
      (model.grown node members) = .ok id grown := by
    exact congrArg (fun added => EStateM.Result.ok added.1 added.2)
      (Model.addUnowned_grown kind name modifiers value)
  rw [bind_eq, hnew]
  dsimp only
  rw [bind_eq, hadd]
  rfl

/-- Reading modifiers is refused at the first unknown keyword, and changes nothing. -/
theorem does_modifiersOf (keywords : List String) :
    (modifiersOf keywords).Does model (keywordFault? keywords) fun modifiers after =>
      modifiers = .known keywords ∧ after = model := by
  have heq : modifiersOf keywords model =
      guarded model (keywordFault? keywords) (.known keywords) model := by
    rw [modifiersOf, ofKeywords_eq]
    cases keywordFault? keywords <;> rfl
  exact does_of_guarded heq ⟨rfl, rfl⟩

/-- A declared method is a new member that the new type lists and owns, unless one of
its keywords is unknown. -/
theorem does_declareMethod (method : MethodDeclaration) :
    (declareMethod ⟨model.types.size⟩ method).Does (model.grown node members)
      (keywordFault? method.modifiers) fun _ after =>
        let number := model.members.size + members.length
        after = model.grown (node.pushMember .method ⟨number⟩)
          (members ++
            [MethodDeclaration.draft ⟨model.types.size⟩ model.origin (method, number)]) := by
  refine (does_modifiersOf method.modifiers).bind_ok ?_
  rintro _ _ ⟨rfl, rfl⟩
  exact does_of_ok (newMember_grown .method method.name _ none) rfl

/-- Declared methods are members with handles in a row, up to the first unknown
keyword. -/
theorem does_forM_declareMethod (methods : List MethodDeclaration) :
    (methods.forM (declareMethod ⟨model.types.size⟩)).Does (model.grown node members)
      (methods.findSome? (keywordFault? ·.modifiers)) fun _ after =>
        let numbered := methods.zipIdx (model.members.size + members.length)
        after = model.grown
          { node with methods := node.methods ++ numbered.map fun (_, number) => ⟨number⟩ }
          (members ++ numbered.map (MethodDeclaration.draft ⟨model.types.size⟩ model.origin)) := by
  induction methods generalizing node members with
  | nil => exact does_of_ok rfl (by simp)
  | cons method methods ih =>
      rw [findSome?_cons_eq_or]
      refine (does_declareMethod method).bind fun _ after hafter => ?_
      rw [hafter]
      refine ih.mono fun _ last hlast => ?_
      rw [hlast]
      simp [List.zipIdx_cons, TypeNode.pushMember, TypeNode.withMemberList, TypeNode.memberList,
        Nat.add_assoc]

/-- Declared constants likewise; none of them is refused. -/
theorem does_forM_declareConstant (constants : List ConstantDeclaration) :
    (constants.forM (declareConstant ⟨model.types.size⟩)).Does (model.grown node members) none
      fun _ after =>
        let numbered := constants.zipIdx (model.members.size + members.length)
        after = model.grown
          { node with constants := node.constants ++ numbered.map fun (_, number) => ⟨number⟩ }
          (members ++
            numbered.map (ConstantDeclaration.draft ⟨model.types.size⟩ model.origin)) := by
  induction constants generalizing node members with
  | nil => exact does_of_ok rfl (by simp)
  | cons constant constants ih =>
      refine does_bind_of_ok (newMember_grown .constant constant.name .none constant.value) ?_
      refine ih.mono fun _ last hlast => ?_
      rw [hlast]
      simp [List.zipIdx_cons, TypeNode.pushMember, TypeNode.withMemberList, TypeNode.memberList,
        ConstantDeclaration.draft, Nat.add_assoc]

/-- The members of a declaration: the methods first, then the constants. -/
theorem does_declareMembers (model : Model) (node : TypeNode) (declaration : TypeDeclaration) :
    (do
      declaration.methods.forM (declareMethod ⟨model.types.size⟩)
      declaration.constants.forM (declareConstant ⟨model.types.size⟩)
      return (⟨model.types.size⟩, declaration) : Edit (TypeId × TypeDeclaration)).Does
        (model.grown node []) (declaration.methods.findSome? (keywordFault? ·.modifiers))
        fun declared after =>
          let first := model.members.size
          declared = (⟨model.types.size⟩, declaration) ∧ after = model.grown
            { node with
              methods := node.methods ++
                (declaration.methods.zipIdx first).map fun (_, number) => ⟨number⟩
              constants := node.constants ++
                (declaration.constants.zipIdx (first + declaration.methods.length)).map
                  fun (_, number) => ⟨number⟩ }
            (declaration.draftMembers ⟨model.types.size⟩ model.origin first) := by
  refine (does_forM_declareMethod declaration.methods).bind_ok fun _ middle hmiddle => ?_
  rw [hmiddle]
  refine (does_forM_declareConstant declaration.constants).bind_ok fun _ after hafter => ?_
  rw [hafter]
  refine does_of_ok rfl ⟨rfl, ?_⟩
  simp [TypeDeclaration.draftMembers]

/-! ## Types -/

/-- A change to the type that has been added last is carried out. -/
theorem modifyLast_eq (change : TypeNode → TypeNode) :
    (do let _ ← type ⟨model.types.size⟩; modify (·.modifyType ⟨model.types.size⟩ change) :
      Edit Unit) (model.grown node members) = .ok () (model.grown (change node) members) := by
  have hfound : (model.grown node members).refuseType ⟨model.types.size⟩ = none := by
    rw [Model.refuseType, Model.type?_grown]
    rfl
  rw [modifyType_eq, hfound, Model.modifyType_grown]
  rfl

/-- A new type goes into a package before its members are there or after, with the
same effect. -/
theorem addTypeToPackage_grown {package : PackageId} (hpackage : (model.package? package).isSome)
    (hfresh : node.package = none) :
    addTypeToPackage package ⟨model.types.size⟩ (model.grown node members) =
      .ok ⟨model.types.size⟩
        ((model.modifyPackage package (·.pushType ⟨model.types.size⟩)).grown
          { node with package := some package } members) := by
  have hnone : (model.grown node members).packageOf ⟨model.types.size⟩ = none := by
    rw [Model.packageOf, Model.type?_grown]
    exact hfresh
  have hfound : (model.grown node members).refuseType ⟨model.types.size⟩ = none := by
    rw [Model.refuseType, Model.type?_grown]
    rfl
  have hlisting : (model.grown node members).refusePackage package = none := by
    obtain ⟨found, hfound⟩ := Option.isSome_iff_exists.1 hpackage
    have hsame : (model.grown node members).package? package = some found := hfound
    rw [Model.refusePackage, hsame]
    rfl
  rw [addTypeToPackage_eq, Operation.refusal?, hlisting, hfound, hnone, Operation.effect,
    Model.moveType, hnone]
  dsimp only
  rw [Model.listType, Model.modifyType_grown]
  rfl

/-- A declared type is the draft of its declaration, unless one of its keywords is
unknown. -/
theorem does_declareType {package : PackageId} (hpackage : (model.package? package).isSome)
    (kind : TypeKind) (declaration : TypeDeclaration) :
    (declareType package kind declaration).Does model declaration.keywordFault?
      fun declared after =>
        declared = (⟨model.types.size⟩, declaration) ∧
          after = model.draftType package kind declaration := by
  let ty : TypeId := ⟨model.types.size⟩
  let named : Model := { model with symbols := model.symbols.declare declaration.name ty }
  let bare : TypeNode := .bare ty model.origin declaration.name kind
  let marked : TypeNode :=
    { bare with userDefined := true, ownModifiers := .known declaration.modifiers }
  have hadd : (modifyGet (·.addType kind declaration.name) : Edit TypeId) model =
      .ok ty (named.grown bare []) := by
    rw [Model.grown_nil]
    rfl
  have hrest : (do
      let _ ← addTypeToPackage package ty
      declaration.methods.forM (declareMethod ty)
      declaration.constants.forM (declareConstant ty)
      return (ty, declaration) : Edit (TypeId × TypeDeclaration)).Does
        (named.grown { marked with sourceFile := declaration.file } [])
        (declaration.methods.findSome? (TypeGraph.keywordFault? ·.modifiers))
        fun declared after =>
          declared = (ty, declaration) ∧ after = model.draftType package kind declaration := by
    refine does_bind_of_ok (addTypeToPackage_grown hpackage rfl) ?_
    let filed := named.modifyPackage package (·.pushType ty)
    let node := { marked with sourceFile := declaration.file, package := some package }
    have hmembers := does_declareMembers filed node declaration
    exact hmembers.mono fun _ _ hdeclared => hdeclared
  rw [declareType]
  refine does_bind_of_ok hadd (does_bind_of_ok (modifyLast_eq _) ?_)
  refine (does_modifiersOf declaration.modifiers).bind ?_
  rintro _ _ ⟨rfl, rfl⟩
  refine does_bind_of_ok (modifyLast_eq _) ?_
  cases hfile : declaration.file with
  | none =>
      rw [hfile] at hrest
      exact hrest
  | some file =>
      rw [hfile] at hrest
      exact does_bind_of_ok (modifyLast_eq _) hrest

/-- Declared types with the handles that they get, from `first` on. -/
def handed (first : Nat) (declarations : List TypeDeclaration) : List (TypeId × TypeDeclaration) :=
  (declarations.zipIdx first).map fun (declaration, number) => (⟨number⟩, declaration)

/-- Declarations are handed on under handles in a row. -/
theorem handed_append (first : Nat) (declarations others : List TypeDeclaration) :
    handed first (declarations ++ others) =
      handed first declarations ++ handed (first + declarations.length) others := by
  rw [handed, List.zipIdx_append, List.map_append, handed, handed]

/-- Drafting a type keeps the packages. -/
theorem isSome_package?_draftType {package : PackageId} (kind : TypeKind)
    (declaration : TypeDeclaration) (other : PackageId) :
    ((model.draftType package kind declaration).package? other).isSome =
      (model.package? other).isSome :=
  Model.isSome_package?_modifyPackage package other _

/-- Types of one kind are declared one after another, up to the first unknown keyword. -/
theorem does_mapM_declareType {package : PackageId} (hpackage : (model.package? package).isSome)
    (kind : TypeKind) (declarations : List TypeDeclaration) :
    (declarations.mapM (declareType package kind)).Does model
      (declarations.findSome? (·.keywordFault?)) fun declared after =>
        declared = handed model.types.size declarations ∧
          after = declarations.foldl (Model.draftType · package kind ·) model ∧
          after.types.size = model.types.size + declarations.length ∧
          (after.package? package).isSome := by
  induction declarations generalizing model with
  | nil => exact does_of_ok rfl ⟨rfl, rfl, rfl, hpackage⟩
  | cons declaration declarations ih =>
      rw [List.mapM_cons, findSome?_cons_eq_or]
      refine (does_declareType hpackage kind declaration).bind ?_
      rintro _ _ ⟨rfl, rfl⟩
      have hsize : (model.draftType package kind declaration).types.size =
          model.types.size + 1 := Array.size_push _
      rw [← isSome_package?_draftType kind declaration] at hpackage
      refine (ih hpackage).bind_ok ?_
      rintro _ after ⟨rfl, hafter, hcount, hkept⟩
      refine does_of_ok rfl ⟨?_, hafter, ?_, hkept⟩
      · simp [handed, hsize, List.zipIdx_cons]
      · rw [hcount, hsize, List.length_cons]
        omega

/-! ## Packages -/

/-- Declaring a function is never refused, since the package has been looked up
before. -/
theorem declareFunction_eq {package : PackageId} (hpackage : (model.package? package).isSome)
    (name : String) :
    declareFunction package name model = .ok () (model.draftFunction package name) := by
  let function : FunctionId := ⟨model.functions.size⟩
  let bare : FunctionNode := ⟨function, model.origin, name, none⟩
  let grown : Model := { model with functions := model.functions.push bare }
  have hfunction : grown.function? function = some bare := by
    simp [grown, Model.function?, function]
  have hnone : grown.packageOfFunction function = none := by
    rw [Model.packageOfFunction, hfunction]
    rfl
  have hfound : grown.refuseFunction function = none := by
    rw [Model.refuseFunction, hfunction]
    rfl
  have hlisting : grown.refusePackage package = none := by
    obtain ⟨found, hsome⟩ := Option.isSome_iff_exists.1 hpackage
    have hsame : grown.package? package = some found := hsome
    rw [Model.refusePackage, hsame]
    rfl
  have hadd : (addFunctionToPackage package function) grown =
      .ok function (model.draftFunction package name) := by
    rw [addFunctionToPackage_eq, Operation.refusal?, hlisting, hfound, hnone, Operation.effect,
      Model.moveFunction, hnone]
    dsimp only
    rw [Model.listFunction, Model.modifyFunction, Model.modify_push_size]
    rfl
  have hnew : (modifyGet (·.addFunction name) : Edit FunctionId) model = .ok function grown := rfl
  rw [declareFunction, bind_eq, hnew]
  dsimp only
  rw [bind_eq, hadd]
  rfl

/-- Declared functions, one after another. -/
theorem does_forM_declareFunction {package : PackageId}
    (hpackage : (model.package? package).isSome) (names : List String) :
    (names.forM (declareFunction package)).Does model none fun _ after =>
      after = names.foldl (Model.draftFunction · package ·) model := by
  refine does_forM_of_ok names hpackage fun model name h => ⟨declareFunction_eq h name, ?_⟩
  have hsame : ((model.draftFunction package name).package? package).isSome =
      (model.package? package).isSome := Model.isSome_package?_modifyPackage package package _
  rwa [hsame]

/-- A declared package: its classes, its interfaces and its functions, up to the first
unknown keyword among them. -/
theorem does_declarePackage {outlines : List Outline} (h : model.Depicts outlines)
    (declaration : PackageDeclaration) :
    (declarePackage declaration).Does model
      (declaration.entries.findSome? (·.declaration.keywordFault?)) fun declared after =>
        declared = handed outlines.length (declaration.entries.map (·.declaration)) ∧
          after = model.draftPackage declaration := by
  have hdeclarations : declaration.entries.map (·.declaration) =
      declaration.classes ++ declaration.interfaces := by
    simp [PackageDeclaration.entries, Function.comp_def]
  have hfault : declaration.entries.findSome? (·.declaration.keywordFault?) =
      (declaration.classes.findSome? (·.keywordFault?)).or
        (declaration.interfaces.findSome? (·.keywordFault?)) := by
    simp [PackageDeclaration.entries, List.findSome?_append, List.findSome?_map, Function.comp_def]
  have hpackage := h.named.isSome_package?_addPackage declaration.name
  have hnew : (modifyGet (·.addPackage declaration.name) : Edit PackageId) model =
      .ok (model.addPackage declaration.name).1 (model.addPackage declaration.name).2 := rfl
  rw [hfault, declarePackage]
  refine does_bind_of_ok hnew ?_
  refine (does_mapM_declareType hpackage .classType declaration.classes).bind ?_
  rintro _ _ ⟨rfl, rfl, hcount, hkept⟩
  refine (does_mapM_declareType hkept .interfaceType declaration.interfaces).bind_ok ?_
  rintro _ _ ⟨rfl, rfl, -, hkept'⟩
  refine (does_forM_declareFunction hkept' declaration.functions).bind_ok ?_
  rintro _ _ rfl
  refine does_of_ok rfl ⟨?_, rfl⟩
  rw [hdeclarations, handed_append, hcount, (h.addPackage declaration.name).size_eq]

/-- All packages, one after another, up to the first unknown keyword of all. -/
theorem does_mapM_declarePackage {outlines : List Outline} (h : model.Depicts outlines)
    (packages : List PackageDeclaration) :
    (packages.mapM declarePackage).Does model
      ((packages.flatMap (·.entries)).findSome? (·.declaration.keywordFault?)) fun declared after =>
        declared.flatten =
            handed outlines.length ((packages.flatMap (·.entries)).map (·.declaration)) ∧
          after = packages.foldl Model.draftPackage model := by
  induction packages generalizing model outlines with
  | nil => exact does_of_ok rfl ⟨rfl, rfl⟩
  | cons declaration packages ih =>
      rw [List.mapM_cons, List.flatMap_cons, List.findSome?_append]
      refine (does_declarePackage h declaration).bind ?_
      rintro _ _ ⟨rfl, rfl⟩
      refine (ih (h.draftPackage declaration).1).bind_ok ?_
      rintro declared _ ⟨hdeclared, rfl⟩
      refine does_of_ok rfl ⟨?_, rfl⟩
      rw [List.flatten_cons, hdeclared, List.map_append, handed_append]
      simp

end Edit

/-! ## References -/

namespace Model

variable {model : Model}

/-- Two changes to a type are one. -/
theorem modifyType_modifyType (ty : TypeId) (change change' : TypeNode → TypeNode) :
    (model.modifyType ty change).modifyType ty change' =
      model.modifyType ty fun node => change' (change node) := by
  have htypes : (model.types.modify ty.index change).modify ty.index change' =
      model.types.modify ty.index fun node => change' (change node) := by
    apply Array.ext_getElem?
    intro i
    rw [Array.getElem?_modify, Array.getElem?_modify, Array.getElem?_modify]
    by_cases hi : ty.index = i <;> simp [hi, Function.comp_def]
  rw [modifyType, modifyType, modifyType, htypes]

theorem modifyType_self (ty : TypeId) : (model.modifyType ty fun node => node) = model := by
  rw [modifyType, modify_eq_self fun _ _ => rfl]

end Model

namespace Edit

variable {model : Model} {ty : TypeId}

/-- A new reference is refused if its name is blank, and changes nothing. -/
theorem does_newReference (kind : TypeKind) (name : String) :
    (newReference kind name).Does model (blankFault? kind name) fun reference after =>
      reference = .fresh kind name ∧ after = model := by
  have heq : newReference kind name model =
      guarded model (blankFault? kind name) (.fresh kind name) model := by
    rw [newReference, TypeReference.new?, blankFault?]
    cases isBlankName name <;> rfl
  exact does_of_guarded heq ⟨rfl, rfl⟩

/-- The interfaces of a type, as they are attached in turn. -/
theorem does_forM_addInterface (hty : (model.type? ty).isSome) (names : List String) :
    (names.forM fun name => do addInterface ty (← newReference .interfaceType name)).Does model
      (names.findSome? (blankFault? .interfaceType)) fun _ after =>
        after = model.modifyType ty fun node => { node with
          interfaces := node.interfaces ++ names.map (TypeReference.fresh .interfaceType) } := by
  induction names generalizing model with
  | nil =>
      refine does_of_ok rfl ?_
      simpa using (Model.modifyType_self ty).symm
  | cons name names ih =>
      let push (node : TypeNode) : TypeNode :=
        { node with interfaces := node.interfaces ++ [.fresh .interfaceType name] }
      have hadd : addInterface ty (.fresh .interfaceType name) model =
          .ok () (model.modifyType ty push) := by
        have hfound : model.refuseType ty = none := by
          simp [Model.refuseType, Model.refuseForeign, hty]
        rw [addInterface_eq, Operation.refusal?, hfound]
        rfl
      have hfirst : (do addInterface ty (← newReference .interfaceType name) : Edit Unit).Does model
          (blankFault? .interfaceType name) fun _ after => after = model.modifyType ty push := by
        refine (does_newReference .interfaceType name).bind_ok ?_
        rintro _ _ ⟨rfl, rfl⟩
        exact does_of_ok hadd rfl
      rw [findSome?_cons_eq_or]
      refine hfirst.bind ?_
      rintro _ _ rfl
      refine (ih (by rwa [Model.isSome_type?_modifyType])).mono fun _ after hafter => ?_
      rw [hafter, Model.modifyType_modifyType]
      simp [push]

/-- The references of a declared type, if it is in the model as declared. -/
theorem does_wire {entry : Entry} {node : TypeNode} (hnode : model.type? ty = some node)
    (hkind : node.kind = entry.kind) (hname : node.name = entry.declaration.name) :
    (wire (ty, entry.declaration)).Does model entry.referenceFault? fun _ after =>
      after = model.modifyType ty entry.declaration.wire := by
  have hty : (model.type? ty).isSome := Option.isSome_of_eq_some hnode
  rw [wire, Entry.referenceFault?, Entry.parentFault?]
  dsimp only
  cases hparent : entry.declaration.parent with
  | none =>
      refine (does_forM_addInterface hty entry.declaration.interfaces).mono fun _ after hafter => ?_
      rw [hafter]
      congr 1
      funext node
      simp [TypeDeclaration.wire, hparent]
  | some name =>
      let set (node : TypeNode) : TypeNode := { node with parent := some (.fresh .classType name) }
      let kindFault : Option ModelError :=
        if entry.kind ≠ .classType then some (.interfaceWithParent entry.declaration.name) else none
      have hset : (setParent ty (.fresh .classType name)).Does model kindFault fun _ after =>
          after = model.modifyType ty set := by
        have hfound : model.refuseType ty = none := by
          simp [Model.refuseType, Model.refuseForeign, hty]
        have hparent : model.refuseParent ty = kindFault := by
          rw [Model.refuseParent, hnode, Option.bind_some, hkind, hname]
        have heq : setParent ty (.fresh .classType name) model =
            guarded model kindFault () (model.modifyType ty set) := by
          rw [setParent_eq, Operation.refusal?, hfound, hparent]
          rfl
        exact does_of_guarded heq rfl
      rw [Option.bind_some, Option.or_assoc]
      refine (does_newReference .classType name).bind ?_
      rintro _ _ ⟨rfl, rfl⟩
      refine hset.bind ?_
      rintro _ _ rfl
      rw [← Model.isSome_type?_modifyType ty ty set] at hty
      refine (does_forM_addInterface hty entry.declaration.interfaces).mono fun _ after hafter => ?_
      rw [hafter, Model.modifyType_modifyType]
      congr 1
      funext node
      simp [TypeDeclaration.wire, hparent, set]

/-- Wiring follows the declarations, and is refused at the first reference that is at
fault. -/
theorem does_forM_wire {done : List Outline} {entries : List Entry}
    (h : model.Depicts (done ++ entries.map Entry.draft)) :
    ((handed done.length (entries.map (·.declaration))).forM wire).Does model
      (entries.findSome? (·.referenceFault?)) fun _ after =>
        after = model.wireTypes done.length entries := by
  induction entries generalizing model done with
  | nil => exact does_of_ok rfl rfl
  | cons entry entries ih =>
      have hface := h.face ⟨done.length⟩
      rw [List.map_cons, List.getElem?_append_right (Nat.le_refl _), Nat.sub_self,
        List.getElem?_cons_zero, Option.map_some, Option.map_eq_some_iff] at hface
      obtain ⟨node, hnode, hface⟩ := hface
      have hkind : node.kind = entry.kind := congrArg TypeNode.kind hface
      have hname : node.name = entry.declaration.name := congrArg TypeNode.name hface
      have hrest := ih h.wire
      rw [List.length_append] at hrest
      rw [findSome?_cons_eq_or]
      refine (does_wire hnode hkind hname).bind ?_
      rintro _ _ rfl
      exact hrest

/-! ## Placeholders -/

/-- A type for a missing name is never refused. -/
theorem addPlaceholder_eq (h : model.PackagesNamed) (missing : MissingType) :
    addPlaceholder missing model = .ok () (model.addMissing missing) := by
  let name := unrooted missing.name
  let package := (model.addPackage (namespaceOf name)).1
  let filed := (model.addPackage (namespaceOf name)).2
  let ty : TypeId := ⟨filed.types.size⟩
  let bare : TypeNode := .bare ty filed.origin name missing.kind
  let table := filed.symbols.declare name ty
  have htypes : filed.types = model.types := Model.types_addPackage _
  have horigin : filed.origin = model.origin := Model.origin_addPackage _
  have hsymbols : filed.symbols = model.symbols := Model.symbols_addPackage _
  have hnew : (modifyGet (·.addType missing.kind name) : Edit TypeId) model =
      .ok ty (Model.grown { model with symbols := table } bare []) := by
    rw [Model.grown_nil]
    simp only [ty, bare, table, htypes, horigin, hsymbols]
    rfl
  have hadd : (modifyGet (·.addPackage (namespaceOf name)) : Edit PackageId)
      (Model.grown { model with symbols := table } bare []) =
        .ok package (Model.grown { filed with symbols := table } bare []) := by
    have hwith := model.addPackage_with (model.types.push bare) table (namespaceOf name)
    rw [← htypes] at hwith
    rw [Model.grown_nil, Model.grown_nil, ← htypes]
    exact congrArg (fun added => EStateM.Result.ok added.1 added.2) hwith
  have hpackage : (filed.package? package).isSome := h.isSome_package?_addPackage _
  have hfile : addTypeToPackage package ty (Model.grown { filed with symbols := table } bare []) =
      .ok ty (model.addMissing missing) := by
    have hlist : addTypeToPackage package ty
        (Model.grown { filed with symbols := table } bare []) = _ :=
      addTypeToPackage_grown hpackage rfl
    rw [hlist, Model.grown_nil]
    rfl
  rw [addPlaceholder, bind_eq, hnew]
  dsimp only
  rw [bind_eq, hadd]
  dsimp only
  rw [bind_eq, hfile]
  rfl

/-- Nor are types for all missing names. -/
theorem does_forM_addPlaceholder {outlines : List Outline} (h : model.Depicts outlines)
    (missing : List MissingType) :
    (missing.forM addPlaceholder).Does model none fun _ after =>
      after = missing.foldl Model.addMissing model := by
  let invariant (model : Model) : Prop := ∃ outlines, model.Depicts outlines
  have hinvariant : invariant model := ⟨outlines, h⟩
  refine does_forM_of_ok missing hinvariant ?_
  rintro model first ⟨outlines, h⟩
  exact ⟨addPlaceholder_eq h.named first, outlines ++ [first.outline], h.addMissing first⟩

end Edit

/-! ## Building -/

namespace Model

/-- The model of the declarations, without references. -/
def drafted (origin : Nat) (filters : Filters) (declarations : Declarations) : Model :=
  declarations.packages.foldl draftPackage (.empty origin filters)

/-- The model of the declarations, without placeholders. -/
def wired (origin : Nat) (filters : Filters) (declarations : Declarations) : Model :=
  (drafted origin filters declarations).wireTypes 0 declarations.entries

/-- The model of the declarations, with placeholders. -/
def completed (origin : Nat) (filters : Filters) (declarations : Declarations) : Model :=
  let wired := wired origin filters declarations
  wired.missingTypes.foldl addMissing wired

variable (origin : Nat) (filters : Filters) (declarations : Declarations)

/-- The drafts of a model depict what has been declared, before any reference is
there. -/
theorem depicts_drafted : (drafted origin filters declarations).Depicts
    (declarations.entries.map Entry.draft) :=
  (Depicts.empty origin filters).foldl_draftPackage declarations.packages

/-- The packages are those that are mentioned, by first mention. -/
theorem packageNames_drafted : (drafted origin filters declarations).packageNames =
    (declarations.packages.map (·.name)).eraseDups := by
  rw [drafted]
  induction declarations.packages using List.reverseRecOn with
  | nil => rfl
  | append_singleton packages declaration ih =>
      have hbefore := (Depicts.empty origin filters).foldl_draftPackage packages
      obtain ⟨-, hnames⟩ := hbefore.draftPackage declaration
      rw [List.foldl_append, List.foldl_cons, List.foldl_nil, hnames,
        hbefore.named.packageNames_addPackage, ih, List.map_append, List.map_singleton,
        eraseDups_concat]
      simp only [List.mem_eraseDups]

/-- The wired model depicts the outlines of what has been declared. -/
theorem depicts_wired : (wired origin filters declarations).Depicts
    (declarations.entries.map Entry.outline) := by
  have hdrafted : (drafted origin filters declarations).Depicts
      ([] ++ declarations.entries.map Entry.draft) := depicts_drafted origin filters declarations
  exact hdrafted.wireTypes

/-- It has the packages that are declared, each name once. -/
theorem packageNames_wired : (wired origin filters declarations).packageNames =
    (declarations.packages.map (·.name)).eraseDups := by
  rw [wired, packageNames_wireTypes, packageNames_drafted]

/-- The completed model depicts, in addition, one outline for each missing name. -/
theorem depicts_completed :
    (completed origin filters declarations).Depicts
        (declarations.entries.map Entry.outline ++
          (wired origin filters declarations).missingTypes.map MissingType.outline) ∧
      (wired origin filters declarations).packageNames <+:
        (completed origin filters declarations).packageNames :=
  (depicts_wired origin filters declarations).foldl_addMissing _

/-- **Building** gives the first fault of the declarations, or the model that the
blueprint describes. -/
theorem build_eq (placeholders : Bool) :
    Model.build origin filters placeholders declarations =
      match declarations.fault? with
      | some error => .error error
      | none => .ok (if placeholders then completed origin filters declarations
          else wired origin filters declarations) := by
  have hempty := Depicts.empty origin filters
  have hdoes : (Edit.build placeholders declarations).Does (.empty origin filters)
      declarations.fault? fun _ after =>
        after = if placeholders then completed origin filters declarations
          else wired origin filters declarations := by
    refine (Edit.does_mapM_declarePackage hempty declarations.packages).bind ?_
    rintro declared _ ⟨hdeclared, rfl⟩
    rw [hdeclared]
    have hdrafted : (drafted origin filters declarations).Depicts
        ([] ++ declarations.entries.map Entry.draft) := depicts_drafted origin filters declarations
    refine (Edit.does_forM_wire hdrafted).bind_ok ?_
    rintro _ _ rfl
    cases placeholders with
    | false => exact Edit.does_of_ok rfl rfl
    | true =>
        exact Edit.does_bind_of_ok (Edit.get_eq _)
          (Edit.does_forM_addPlaceholder (depicts_wired origin filters declarations) _)
  rw [Edit.Does] at hdoes
  rw [Model.build]
  cases hbuild : Edit.build placeholders declarations (.empty origin filters) with
  | ok _ model =>
      rw [hbuild] at hdoes
      rw [hdoes.1, hdoes.2]
  | error error _ =>
      rw [hbuild] at hdoes
      rw [hdoes]

/-- What is built without placeholders, and when. -/
theorem build_eq_wired_iff {model : Model} :
    Model.build origin filters false declarations = .ok model ↔
      declarations.fault? = none ∧ model = wired origin filters declarations := by
  rw [build_eq]
  cases declarations.fault? with
  | some error => simp
  | none => simp [eq_comm]

/-- What is built with placeholders, and when. -/
theorem build_eq_completed_iff {model : Model} :
    Model.build origin filters true declarations = .ok model ↔
      declarations.fault? = none ∧ model = completed origin filters declarations := by
  rw [build_eq]
  cases declarations.fault? with
  | some error => simp
  | none => simp [eq_comm]

end Model

end TypeGraph
