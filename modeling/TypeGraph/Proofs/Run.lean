import TypeGraph.Proofs.Operation
import TypeGraph.Query

/-!
# TypeGraph.Proofs.Run

The models that a caller can arrive at: those that operations, questions and
copies make of an empty one, in any order and with any references, also ones
that remember a handle of another model, or that another model has been made to
follow where they are attached (`Event.resolve`).

1. `Reachable.invariant` — a property that the empty model has and that no
   effect, no followed reference and no copy takes away holds of all of them;
2. `ReachableBy` — the models that arise as long as everybody keeps to a rule;
3. `Reachable.numbered` — every type is where its handle says.
-/

namespace TypeGraph

/-- The model after an edit, carried out or refused. -/
def Edit.after {α : Type} (edit : Edit α) (model : Model) : Model :=
  match edit model with
  | .ok _ after => after
  | .error _ after => after

/-- The model after an operation, carried out or refused. -/
def Operation.after (model : Model) (operation : Operation) : Model := operation.edit.after model

/-- A refused operation leaves the model as it was, and any other has its effect. -/
theorem Operation.after_eq (model : Model) (operation : Operation) :
    operation.after model =
      if (operation.refusal? model).isSome then model else operation.effect model := by
  rw [after, Edit.after, edit_eq]
  cases operation.refusal? model <;> rfl

/-! ## Events -/

/-- Something that happens to a model. -/
inductive Event where
  | operate (operation : Operation)
  | ask (query : Query)
  | copy (origin : Nat)
  /-- Somebody else follows an attached reference: another model, or a table of
  their own.  What it remembers then is a handle of theirs. -/
  | resolve (table : SymbolTable) (site : Site)

/-- The model after an event.  An operation may have been refused. -/
def Event.after (model : Model) : Event → Model
  | .operate operation => operation.after model
  | .ask query => model.after query
  | .copy origin => model.copy origin
  | .resolve table site => model.settleIn table site

/-- The operation is not the one that writes the pointer of a type alone. -/
def Operation.Paired (operation : Operation) : Prop :=
  ∀ ty target, operation ≠ .setPackage ty target

/-- An operation keeps to the rule, and what is no operation always does. -/
def Event.Obeys (rule : Operation → Prop) (_ : Model) : Event → Prop
  | .operate operation => rule operation
  | _ => True

namespace Model

variable {model : Model}

/-- The model after some events in turn. -/
def replay (model : Model) (events : List Event) : Model :=
  events.foldl (fun model event => event.after model) model

theorem replay_append (first second : List Event) :
    model.replay (first ++ second) = (model.replay first).replay second :=
  List.foldl_append

/-- The model after some operations in turn. -/
def run (model : Model) (operations : List Operation) : Model :=
  operations.foldl (fun model operation => operation.after model) model

theorem run_append (first second : List Operation) :
    model.run (first ++ second) = (model.run first).run second :=
  List.foldl_append

/-- What following one reference, with whichever table, does not take away, no
question takes away. -/
theorem settle_of_settleIn {property : Model → Prop}
    (settleIn : ∀ {model}, property model → ∀ table site, property (model.settleIn table site))
    (h : property model) (sites : List Site) : property (model.settle sites) := by
  induction sites generalizing model with
  | nil => exact h
  | cons site sites ih => exact ih (settleIn h model.symbols site)

/-! ## Reachable models

Some properties hold as long as everybody keeps to a rule, which says what may
happen to which model.  Others hold whatever happens. -/

/-- The models that arise from an empty one by events that keep to a rule. -/
inductive ReachableBy (rule : Model → Event → Prop) : Model → Prop where
  | empty (origin : Nat) (filters : Filters) : ReachableBy rule (.empty origin filters)
  | event {model : Model} (event : Event) (hrule : rule model event) (h : ReachableBy rule model) :
      ReachableBy rule (event.after model)

/-- The models that arise from an empty one, whatever happens. -/
def Reachable : Model → Prop := ReachableBy fun _ _ => True

/-- Who keeps to a rule keeps to a weaker one. -/
theorem ReachableBy.mono {rule weaker : Model → Event → Prop} (h : model.ReachableBy rule)
    (hweaker : ∀ {model event}, rule model event → weaker model event) :
    model.ReachableBy weaker := by
  induction h with
  | empty origin filters => exact .empty origin filters
  | event event hrule _ ih => exact ih.event event (hweaker hrule)

/-- What arises under a rule can be arrived at. -/
theorem ReachableBy.reachable {rule : Model → Event → Prop} (h : model.ReachableBy rule) :
    model.Reachable :=
  h.mono fun _ => trivial

/-- A run whose operations keep to the rule leads on to models that arise
under it. -/
theorem ReachableBy.run {rule : Model → Event → Prop} (h : model.ReachableBy rule)
    {operations : List Operation}
    (hrule : ∀ model, ∀ operation ∈ operations, rule model (.operate operation)) :
    (model.run operations).ReachableBy rule := by
  induction operations generalizing model with
  | nil => exact h
  | cons operation operations ih =>
      have hfirst := hrule model operation List.mem_cons_self
      exact ih (h.event (.operate operation) hfirst) fun model later hlater =>
        hrule model later (List.mem_cons_of_mem operation hlater)

namespace Reachable

theorem empty (origin : Nat) (filters : Filters) : (Model.empty origin filters).Reachable :=
  ReachableBy.empty origin filters

/-- Whatever happens to a model leads to one that can be arrived at. -/
theorem event (h : model.Reachable) (event : Event) : (event.after model).Reachable :=
  ReachableBy.event event trivial h

theorem run (operations : List Operation) (h : model.Reachable) :
    (model.run operations).Reachable :=
  ReachableBy.run h fun _ _ _ => trivial

/-- What holds of an empty model, and what no effect, no followed reference and
no copy takes away, holds of every model that can be arrived at. -/
theorem invariant {property : Model → Prop} (h : model.Reachable)
    (empty : ∀ origin filters, property (.empty origin filters))
    (effect : ∀ {model}, property model → ∀ {operation : Operation},
      operation.refusal? model = none → property (operation.effect model))
    (settleIn : ∀ {model}, property model → ∀ table site, property (model.settleIn table site))
    (copy : ∀ {model}, property model → ∀ origin, property (model.copy origin)) :
    property model := by
  induction h with
  | empty origin filters => exact empty origin filters
  | event event _ _ ih =>
      cases event with
      | operate operation =>
          rw [Event.after, Operation.after_eq]
          cases hrefusal : operation.refusal? _ with
          | some error => exact ih
          | none => exact effect ih hrefusal
      | ask query => exact settle_of_settleIn settleIn ih _
      | copy origin => exact copy ih origin
      | resolve table site => exact settleIn ih table site

end Reachable

/-! ## One type after a change -/

/-- What is found under a handle after the entity of some handle has changed. -/
theorem getElem?_modify_index {ι α : Type} [DecidableEq ι] {index : ι → Nat}
    (hindex : ∀ {i j}, index i = index j → i = j) (entities : Array α) (i j : ι) (change : α → α) :
    (entities.modify (index i) change)[index j]? =
      if i = j then entities[index j]?.map change else entities[index j]? := by
  rw [Array.getElem?_modify]
  by_cases h : i = j
  · rw [if_pos h, if_pos (congrArg index h)]
  · rw [if_neg h, if_neg fun hsame => h (hindex hsame)]

theorem isSome_getElem?_modify {α : Type} (entities : Array α) (i j : Nat) (change : α → α) :
    ((entities.modify i change)[j]?).isSome = (entities[j]?).isSome := by
  rw [Array.getElem?_modify]
  split <;> simp

/-- What two changes do to other entities than the one that they are for does not
matter. -/
theorem modify_congr {α : Type} {entities : Array α} {i : Nat} {change change' : α → α}
    (h : ∀ a, entities[i]? = some a → change a = change' a) :
    entities.modify i change = entities.modify i change' := by
  apply Array.ext_getElem?
  intro j
  rw [Array.getElem?_modify, Array.getElem?_modify]
  by_cases hi : i = j
  · subst hi
    rw [if_pos rfl, if_pos rfl]
    exact Option.map_congr fun a ha => h a ha
  · rw [if_neg hi, if_neg hi]

/-- A change that does nothing to the entity that it is for does nothing. -/
theorem modify_eq_self {α : Type} {entities : Array α} {i : Nat} {change : α → α}
    (h : ∀ a, entities[i]? = some a → change a = a) : entities.modify i change = entities := by
  have hid : (entities.modify i fun a => a) = entities := by
    apply Array.ext_getElem?
    intro j
    rw [Array.getElem?_modify]
    split <;> simp
  rw [modify_congr h, hid]

/-- Another type is the same after the type of some handle has changed. -/
theorem type?_modifyType (ty x : TypeId) (change : TypeNode → TypeNode) :
    (model.modifyType ty change).type? x =
      if ty = x then (model.type? x).map change else model.type? x :=
  getElem?_modify_index (congrArg TypeId.mk) model.types ty x change

theorem isSome_type?_modifyType (ty x : TypeId) (change : TypeNode → TypeNode) :
    ((model.modifyType ty change).type? x).isSome = (model.type? x).isSome :=
  isSome_getElem?_modify model.types ty.index x.index change

/-- The new type is bare, and is found under the next free handle; nothing else has
changed. -/
theorem type?_addType (kind : TypeKind) (name : String) (x : TypeId) :
    (model.addType kind name).2.type? x =
      if x.index = model.types.size then
        some (.bare ⟨model.types.size⟩ model.origin name kind)
      else model.type? x := by
  rw [type?, type?, addType, Array.getElem?_push]

/-! ## Views

A view shows a part of a type.  An operation that writes other parts keeps what
the view shows, and so do operations that are made of such ones. -/

/-- The view shows the same of every type before and after. -/
def KeepsView {α : Type} (view : TypeNode → α) (before after : Model) : Prop :=
  ∀ x, (after.type? x).map view = (before.type? x).map view

namespace KeepsView

variable {α : Type} {view : TypeNode → α} {before middle after : Model}

theorem trans (h : KeepsView view before middle) (h' : KeepsView view middle after) :
    KeepsView view before after :=
  fun x => (h' x).trans (h x)

theorem of_types_eq (h : after.types = before.types) : KeepsView view before after := by
  intro x
  rw [type?, type?, h]

/-- A change of one type keeps the views that do not show what is written. -/
theorem modifyType (model : Model) (ty : TypeId) {change : TypeNode → TypeNode}
    (h : ∀ node, view (change node) = view node) :
    KeepsView view model (model.modifyType ty change) := by
  intro x
  rw [type?_modifyType]
  by_cases hx : ty = x
  · rw [if_pos hx, Option.map_map]
    exact congrArg (model.type? x).map (funext h)
  · rw [if_neg hx]

/-- The view shows the same types in the same order. -/
theorem map_eq (h : KeepsView view before after) :
    after.types.toList.map view = before.types.toList.map view := by
  apply List.ext_getElem?
  intro i
  rw [List.getElem?_map, List.getElem?_map, Array.getElem?_toList, Array.getElem?_toList]
  exact h ⟨i⟩

section Members

variable (h : ∀ node kind members, view (TypeNode.withMemberList node kind members) = view node)

include h

/-- Taking a member from its previous owner writes member lists only. -/
theorem release (model : Model) (owner : TypeId) (previous : Option TypeId) (member : MemberId) :
    KeepsView view model (model.release owner previous member) := by
  unfold Model.release
  cases previous with
  | none => exact of_types_eq rfl
  | some holder =>
      dsimp only
      split
      · exact of_types_eq rfl
      · exact modifyType model holder fun node =>
          (h (node.withMemberList .method (node.methods.filter (· != member))) .constant
            (node.constants.filter (· != member))).trans (h node .method _)

/-- Listing a member with an owner writes member lists only. -/
theorem attach (model : Model) (owner : TypeId) (kind : MemberKind) (member : MemberId) :
    KeepsView view model (model.attach owner kind member) := by
  have hmember : KeepsView view model
      (model.modifyMember member fun m => { m with owner := some owner }) := of_types_eq rfl
  exact hmember.trans (modifyType _ owner fun node => h node kind _)

/-- Adding a member writes member lists only, at both owners. -/
theorem giveMember (model : Model) (owner : TypeId) (member : MemberId) :
    KeepsView view model (model.giveMember owner member) := by
  unfold Model.giveMember
  cases model.member? member with
  | none => exact of_types_eq rfl
  | some node => exact (release h model owner node.owner member).trans (attach h _ owner _ member)

theorem takeMember (model : Model) (owner : TypeId) (member : MemberId) :
    KeepsView view model (model.takeMember owner member) := by
  have hdetach (kind : MemberKind) : KeepsView view model (model.detach owner kind member) :=
    modifyType model owner fun node => h node kind _
  unfold Model.takeMember
  split
  · dsimp only
    split
    · split
      · exact hdetach _
      · exact (hdetach _).trans (of_types_eq rfl)
    · exact of_types_eq rfl
  · exact of_types_eq rfl

end Members

section Packages

variable (h : ∀ (node : TypeNode) package, view { node with package := package } = view node)

include h

theorem unlistType (model : Model) (package : PackageId) (ty : TypeId) :
    KeepsView view model (model.unlistType package ty) := by
  have hlist : KeepsView view model
      (model.modifyPackage package fun p => { p with types := p.types.erase ty }) := of_types_eq rfl
  refine hlist.trans (modifyType _ ty fun node => ?_)
  split
  · exact h node none
  · rfl

/-- Entering a package writes the pointer of a type only. -/
theorem listType (model : Model) (package : PackageId) (ty : TypeId) :
    KeepsView view model (model.listType package ty) := by
  have hpointer : KeepsView view model
      (model.modifyType ty fun node => { node with package := some package }) :=
    modifyType model ty fun node => h node (some package)
  exact hpointer.trans (of_types_eq rfl)

/-- A type that moves to another package keeps what shows no pointer. -/
theorem moveType (model : Model) (package : PackageId) (ty : TypeId) :
    KeepsView view model (model.moveType package ty) := by
  unfold Model.moveType
  cases model.packageOf ty with
  | none => exact listType h model package ty
  | some previous => exact (unlistType h model previous ty).trans (listType h _ package ty)

end Packages

/-- Following a reference writes nothing but references. -/
theorem settleIn (h : ∀ (node : TypeNode) parent interfaces,
      view { node with parent := parent, interfaces := interfaces } = view node)
    (model : Model) (table : SymbolTable) (site : Site) :
    KeepsView view model (model.settleIn table site) := by
  cases site with
  | parent ty => exact modifyType model ty fun node => h node _ node.interfaces
  | interface ty position => exact modifyType model ty fun node => h node node.parent _

theorem settle (h : ∀ (node : TypeNode) parent interfaces,
      view { node with parent := parent, interfaces := interfaces } = view node)
    (model : Model) (sites : List Site) : KeepsView view model (model.settle sites) :=
  settle_of_settleIn (fun hbefore table site => hbefore.trans (settleIn h _ table site))
    (of_types_eq rfl) sites

end KeepsView

/-- A type that gets a copy of a member: only types and members are written. -/
theorem giveMember_rest (model : Model) (owner : TypeId) (member : MemberId) :
    model.giveMember owner member = { model with
      types := (model.giveMember owner member).types
      members := (model.giveMember owner member).members } := by
  unfold giveMember
  cases model.member? member with
  | none => rfl
  | some node =>
      have hrelease : model.release owner node.owner member =
          { model with types := (model.release owner node.owner member).types } := by
        unfold release
        split
        · rfl
        · split <;> rfl
      dsimp only
      rw [hrelease]
      rfl

/-- A type that gives back a copy of a member: only types and members are
written. -/
theorem takeMember_rest (model : Model) (owner : TypeId) (member : MemberId) :
    model.takeMember owner member = { model with
      types := (model.takeMember owner member).types
      members := (model.takeMember owner member).members } := by
  unfold takeMember
  split
  · dsimp only
    split
    · split <;> rfl
    · rfl
  · rfl

/-- A reference that is followed: only types are written. -/
theorem settleIn_rest (model : Model) (table : SymbolTable) (site : Site) :
    model.settleIn table site = { model with types := (model.settleIn table site).types } := by
  cases site <;> rfl

/-- A question: only types are written. -/
theorem settle_rest (model : Model) (sites : List Site) :
    model.settle sites = { model with types := (model.settle sites).types } := by
  induction sites generalizing model with
  | nil => rfl
  | cons site sites ih =>
      refine (ih (model.settleAt site)).trans ?_
      cases site <;> rfl

/-! ## Skeletons -/

end Model

/-- What no operation changes about a type unless it attaches a reference: all
but its package, its members and its marks. -/
def TypeNode.skeleton (node : TypeNode) : TypeNode :=
  { TypeNode.bare node.id node.origin node.name node.kind with
    parent := node.parent
    interfaces := node.interfaces }

@[simp] theorem TypeNode.skeleton_withMemberList (node : TypeNode) (kind : MemberKind)
    (members : List MemberId) : (node.withMemberList kind members).skeleton = node.skeleton := by
  cases kind <;> rfl

namespace Model

/-- The model after a change that leaves the symbol table and the skeletons of
the types alone, and adds no type. -/
structure KeepsSkeletons (before after : Model) : Prop where
  symbols : after.symbols = before.symbols
  type? : ∀ x, (after.type? x).map (·.skeleton) = (before.type? x).map (·.skeleton)

namespace KeepsSkeletons

variable {before after : Model}

/-- What leaves the types and their keys alone keeps the skeletons. -/
theorem of_types_eq (hsymbols : after.symbols = before.symbols)
    (htypes : after.types = before.types) : KeepsSkeletons before after where
  symbols := hsymbols
  type? x := by rw [Model.type?, Model.type?, htypes]

/-- A change of one type that leaves its skeleton alone keeps all of them. -/
theorem modifyType (model : Model) (ty : TypeId) {change : TypeNode → TypeNode}
    (h : ∀ node, (change node).skeleton = node.skeleton) :
    KeepsSkeletons model (model.modifyType ty change) where
  symbols := rfl
  type? := KeepsView.modifyType model ty h

/-- Adding a member keeps the skeletons: member lists are no part of them. -/
theorem giveMember (model : Model) (owner : TypeId) (member : MemberId) :
    KeepsSkeletons model (model.giveMember owner member) where
  symbols := by rw [giveMember_rest]
  type? := KeepsView.giveMember TypeNode.skeleton_withMemberList model owner member

theorem takeMember (model : Model) (owner : TypeId) (member : MemberId) :
    KeepsSkeletons model (model.takeMember owner member) where
  symbols := by rw [takeMember_rest]
  type? := KeepsView.takeMember TypeNode.skeleton_withMemberList model owner member

/-- A type that leaves a package keeps its skeleton: the pointer is no part of it. -/
theorem unlistType (model : Model) (package : PackageId) (ty : TypeId) :
    KeepsSkeletons model (model.unlistType package ty) where
  symbols := rfl
  type? := KeepsView.unlistType (fun _ _ => rfl) model package ty

theorem moveType (model : Model) (package : PackageId) (ty : TypeId) :
    KeepsSkeletons model (model.moveType package ty) where
  symbols := by
    unfold Model.moveType
    cases model.packageOf ty <;> rfl
  type? := KeepsView.moveType (fun _ _ => rfl) model package ty

theorem moveFunction (model : Model) (package : PackageId) (function : FunctionId) :
    KeepsSkeletons model (model.moveFunction package function) := by
  rw [Model.moveFunction]
  cases model.packageOfFunction function <;> exact of_types_eq rfl rfl

theorem addPackage (model : Model) (name : String) :
    KeepsSkeletons model (model.addPackage name).2 := by
  rw [Model.addPackage]
  cases model.findPackage name <;> exact of_types_eq rfl rfl

end KeepsSkeletons

end Model

/-- Where an operation attaches a reference, and which one; nothing if it does
not. -/
def Operation.attaches (model : Model) : Operation → Option (Site × TypeReference)
  | .setParent ty reference => (model.type? ty).map fun _ => (.parent ty, reference)
  | .addInterface ty reference =>
    (model.type? ty).map fun node => (.interface ty node.interfaces.length, reference)
  | _ => none

/-- What an operation does to types, names and references: it adds a type, it
attaches a reference, or it leaves all of them alone. -/
theorem Operation.effect_cases (model : Model) (operation : Operation) :
    (∃ kind name, operation = .addType kind name) ∨
    (∃ ty reference, operation = .setParent ty reference) ∨
    (∃ ty reference, operation = .addInterface ty reference) ∨
    operation.attaches model = none ∧ model.KeepsSkeletons (operation.effect model) := by
  cases operation with
  | addType kind name => exact .inl ⟨kind, name, rfl⟩
  | setParent ty reference => exact .inr (.inl ⟨ty, reference, rfl⟩)
  | addInterface ty reference => exact .inr (.inr (.inl ⟨ty, reference, rfl⟩))
  | addPackage name => exact .inr (.inr (.inr ⟨rfl, .addPackage model name⟩))
  | setPackage ty target | setUserDefined ty | setModifiers ty modifiers
  | setSourceFile ty file =>
      exact .inr (.inr (.inr ⟨rfl, .modifyType model ty fun _ => rfl⟩))
  | addMember owner member | addMemberOfKind kind owner member =>
      exact .inr (.inr (.inr ⟨rfl, .giveMember model owner member⟩))
  | removeMember owner member | removeMemberOfKind kind owner member =>
      exact .inr (.inr (.inr ⟨rfl, .takeMember model owner member⟩))
  | addTypeToPackage package ty => exact .inr (.inr (.inr ⟨rfl, .moveType model package ty⟩))
  | removeTypeFromPackage package ty =>
      exact .inr (.inr (.inr ⟨rfl, .unlistType model package ty⟩))
  | addFunctionToPackage package function =>
      exact .inr (.inr (.inr ⟨rfl, .moveFunction model package function⟩))
  | newMethod | newConstant | addFunction | removeFunctionFromPackage | rebuildIndex
  | setFilters => exact .inr (.inr (.inr ⟨rfl, .of_types_eq rfl rfl⟩))

namespace Model

variable {model : Model}

/-! ## Where things are -/

/-- Every node is where its handle says. -/
def InPlace {ι ν : Type} (index : ι → Nat) (handle : ν → ι) (nodes : Array ν) : Prop :=
  ∀ i node, nodes[index i]? = some node → handle node = i

namespace InPlace

variable {ι ν : Type} {index : ι → Nat} {handle : ν → ι} {nodes : Array ν}

/-- A new entity is in its place if its handle says the next position. -/
theorem push (h : InPlace index handle nodes) {node : ν}
    (hnode : ∀ i, index i = nodes.size → handle node = i) :
    InPlace index handle (nodes.push node) := by
  intro i found hfound
  rw [Array.getElem?_push] at hfound
  split at hfound
  · next hi =>
      obtain rfl := Option.some_inj.1 hfound
      exact hnode i hi
  · exact h i found hfound

/-- A change that keeps the handle leaves every entity in its place. -/
theorem modify (h : InPlace index handle nodes) (position : Nat) {change : ν → ν}
    (hchange : ∀ node, handle (change node) = handle node) :
    InPlace index handle (nodes.modify position change) := by
  intro i found hfound
  rw [Array.getElem?_modify] at hfound
  split at hfound
  · obtain ⟨before, hbefore, rfl⟩ := Option.map_eq_some_iff.1 hfound
    exact (hchange before).trans (h i before hbefore)
  · exact h i found hfound

/-- The same handles are in the same places. -/
theorem of_map_eq (h : InPlace index handle nodes) {after : Array ν}
    (hsame : ∀ i, (after[index i]?).map handle = (nodes[index i]?).map handle) :
    InPlace index handle after := by
  intro i node hnode
  have hi := hsame i
  rw [hnode, Option.map_some, eq_comm, Option.map_eq_some_iff] at hi
  obtain ⟨before, hbefore, hhandle⟩ := hi
  exact hhandle.symm.trans (h i before hbefore)

/-- The handles of some of the nodes lead back to nodes. -/
theorem isSome_of_mem (h : InPlace index handle nodes) {mk : Nat → ι}
    (hindex : ∀ i, index (mk i) = i) {keep : ν → Bool} {i : ι}
    (hi : i ∈ (nodes.toList.filter keep).map handle) : (nodes[index i]?).isSome := by
  obtain ⟨node, hnode, rfl⟩ := List.mem_map.1 hi
  obtain ⟨position, hposition⟩ :=
    Array.mem_iff_getElem?.1 (Array.mem_toList_iff.1 (List.mem_filter.1 hnode).1)
  have hhandle : handle node = mk position := h (mk position) node (by rwa [hindex])
  rw [hhandle, hindex]
  exact Option.isSome_of_eq_some hposition

end InPlace

/-- Every type is where its handle says. -/
def Numbered (model : Model) : Prop := ∀ ty node, model.type? ty = some node → node.id = ty

namespace Numbered

theorem inPlace (h : model.Numbered) : InPlace TypeId.index TypeNode.id model.types := h

theorem empty (origin : Nat) (filters : Filters) : (Model.empty origin filters).Numbered :=
  fun ty node h => by simp [Model.empty, type?] at h

theorem addType (h : model.Numbered) (kind : TypeKind) (name : String) :
    (model.addType kind name).2.Numbered :=
  h.inPlace.push fun _ hnew => congrArg TypeId.mk hnew.symm

/-- A change that keeps the handle of a type keeps the numbers. -/
theorem modifyType (h : model.Numbered) (ty : TypeId) {change : TypeNode → TypeNode}
    (hchange : ∀ node, (change node).id = node.id) : (model.modifyType ty change).Numbered :=
  h.inPlace.modify ty.index hchange

/-- Types with the same skeletons have the same handles. -/
theorem keepsSkeletons {after : Model} (h : model.Numbered) (hkeeps : model.KeepsSkeletons after) :
    after.Numbered := by
  refine h.inPlace.of_map_eq fun ty => ?_
  have hid := congrArg (Option.map TypeNode.id) (hkeeps.type? ty)
  rwa [Option.map_map, Option.map_map] at hid

/-- No operation writes the handle of a type. -/
theorem effect (h : model.Numbered) (operation : Operation) :
    (operation.effect model).Numbered := by
  obtain ⟨kind, name, rfl⟩ | ⟨ty, reference, rfl⟩ |
    ⟨ty, reference, rfl⟩ | ⟨-, hkeeps⟩ := operation.effect_cases model
  · exact h.addType kind name
  · exact h.modifyType ty fun _ => rfl
  · exact h.modifyType ty fun _ => rfl
  · exact h.keepsSkeletons hkeeps

/-- No followed reference does. -/
theorem settleIn (h : model.Numbered) (table : SymbolTable) (site : Site) :
    (model.settleIn table site).Numbered := by
  cases site with
  | parent ty => exact h.modifyType ty fun _ => rfl
  | interface ty position => exact h.modifyType ty fun _ => rfl

end Numbered

/-- Every type of a reachable model is where its handle says. -/
theorem Reachable.numbered (h : model.Reachable) : model.Numbered :=
  h.invariant Numbered.empty (fun hbefore _ _ => hbefore.effect _) Numbered.settleIn
    fun hbefore _ => hbefore

/-- The handles of nodes that are where their handles say. -/
theorem map_handle_eq_range {α ν : Type} {nodes : Array ν} {handle : ν → α} {mk : Nat → α}
    (hnodes : ∀ i node, nodes[i]? = some node → handle node = mk i) :
    nodes.toList.map handle = (List.range nodes.size).map mk := by
  refine List.ext_getElem (by simp) fun i hi _ => ?_
  have hsize : i < nodes.size := by simpa using hi
  simpa using hnodes i _ (Array.getElem?_eq_getElem hsize)

/-- The handles of a model are the numbers below its size, in order. -/
theorem Numbered.typeIds_eq (h : model.Numbered) :
    model.typeIds = (List.range model.types.size).map TypeId.mk :=
  map_handle_eq_range fun i node => h ⟨i⟩ node

/-- Who looks a type up under the handle that it carries finds it. -/
theorem Numbered.type?_id (h : model.Numbered) {node : TypeNode}
    (hnode : node ∈ model.types.toList) : model.type? node.id = some node := by
  obtain ⟨i, hi⟩ := Array.mem_iff_getElem?.1 (Array.mem_toList_iff.1 hnode)
  rwa [h ⟨i⟩ node hi]

/-- What is found is in the model. -/
theorem mem_types_of_type? {ty : TypeId} {node : TypeNode} (h : model.type? ty = some node) :
    node ∈ model.types.toList :=
  Array.mem_toList_iff.2 (Array.mem_of_getElem? h)

end Model

end TypeGraph
