import TypeGraph.Proofs.Ancestors
import TypeGraph.Proofs.Run

/-!
# TypeGraph.Proofs.Subtypes

Which types are subtypes of which.  The question is put to one of two walks,
and the kinds of the two types choose it: an interface is looked for among the
interfaces, a class among the ancestors, and an interface is no subtype of any
class.

* `isSubtypeOf_preorder` — whatever the references point at, every type is a
  subtype of itself, and subtypes of subtypes are subtypes;
* `Reachable.isSubtypeOf_iff` — a type is a subtype of what is among its
  ancestors and a class, or among its interfaces and an interface;
* `Reachable.isSubtypeOf_iff_not_overlooks` — so an ancestor or interface is
  overlooked if it is met on the walk for the other kind only, as an interface
  is that a class names as its parent.
-/

namespace TypeGraph.Model

variable {model : Model}

/-! ## Kinds -/

/-- The kind of a type; a foreign one has none. -/
def typeKind (model : Model) (ty : TypeId) : Option TypeKind := (model.type? ty).map (·.kind)

/-- A visible type is a class or an interface. -/
theorem typeKind_cases {ty : TypeId} (h : model.isVisible ty = true) :
    model.typeKind ty = some .classType ∨ model.typeKind ty = some .interfaceType := by
  obtain ⟨node, hnode, -⟩ := (Option.any_eq_true _ _).1 h
  rw [typeKind, hnode, Option.map_some]
  cases node.kind with
  | classType => exact .inl rfl
  | interfaceType => exact .inr rfl

/-! ## The question -/

/-- A foreign type has no interfaces. -/
theorem interfaces_foreign {ty : TypeId} (h : model.type? ty = none) :
    model.interfaces ty = [] := by
  simp [interfaces, walkFrom, links, follow, h]

/-- An interface is looked for among the interfaces and a class among the
ancestors, the latter if the question is about a class. -/
theorem isSubtypeOf_iff {ty other : TypeId} : model.isSubtypeOf ty other = true ↔ ty = other ∨
    model.typeKind other = some .interfaceType ∧ other ∈ model.interfaces ty ∨
    model.typeKind other = some .classType ∧ model.typeKind ty = some .classType ∧
      other ∈ model.ancestors ty := by
  rw [isSubtypeOf, typeKind, typeKind]
  by_cases hsame : ty = other
  · simp [hsame]
  · rw [if_neg hsame]
    cases hnode : model.type? ty with
    | none => simp [hsame, interfaces_foreign hnode]
    | some node =>
        cases model.type? other with
        | none => simp [hsame]
        | some target =>
            dsimp only
            cases hty : node.kind <;> cases hother : target.kind <;> simp [hsame, hty, hother]

/-! ## A preorder -/

/-- A walk from a type arrives at what it is a subtype of. -/
theorem reaches_of_isSubtypeOf {ty other : TypeId} (h : model.isSubtypeOf ty other = true) :
    model.Reaches ty other := by
  obtain rfl | ⟨-, hinterface⟩ | ⟨-, -, hancestor⟩ := isSubtypeOf_iff.1 h
  · exact .refl
  · exact (mem_interfaces.1 hinterface).1.reaches
  · exact (mem_ancestors.1 hancestor).1.reaches

/-- A type is a subtype of itself, even a hidden or foreign one. -/
theorem isSubtypeOf_refl (ty : TypeId) : model.isSubtypeOf ty ty = true :=
  isSubtypeOf_iff.2 (.inl rfl)

/-- Whatever reaches a subtype of an interface is a subtype of it, be it through
hidden types. -/
theorem isSubtypeOf_interface {a b c : TypeId} (hc : model.typeKind c = some .interfaceType)
    (hab : model.Reaches a b) (hbc : model.Implements b c) (hvisible : model.isVisible c = true) :
    model.isSubtypeOf a c = true := by
  rw [isSubtypeOf_iff]
  by_cases hac : a = c
  · exact .inl hac
  · exact .inr (.inl ⟨hc, mem_interfaces.2 ⟨hbc.of_reaches hab, hvisible, Ne.symm hac⟩⟩)

/-- A class is a subtype of the classes that it inherits from. -/
theorem isSubtypeOf_class {a c : TypeId} (hc : model.typeKind c = some .classType)
    (ha : model.typeKind a = some .classType) (h : model.Inherits a c) :
    model.isSubtypeOf a c = true := by
  rw [isSubtypeOf_iff]
  by_cases hac : a = c
  · exact .inl hac
  · exact .inr (.inr ⟨hc, ha, mem_ancestors.2 ⟨h, Ne.symm hac⟩⟩)

/-- Subtypes of subtypes are subtypes: parents and interfaces are inherited. -/
theorem isSubtypeOf_trans {a b c : TypeId} (hab : model.isSubtypeOf a b = true)
    (hbc : model.isSubtypeOf b c = true) : model.isSubtypeOf a c = true := by
  obtain rfl | ⟨hc, hinterface⟩ | ⟨hc, hb, hancestor⟩ := isSubtypeOf_iff.1 hbc
  · exact hab
  · obtain ⟨himplements, hvisible, -⟩ := mem_interfaces.1 hinterface
    exact isSubtypeOf_interface hc (reaches_of_isSubtypeOf hab) himplements hvisible
  · -- only classes are subtypes of the class in the middle
    obtain ⟨hinherits, -⟩ := mem_ancestors.1 hancestor
    obtain rfl | ⟨hb', -⟩ | ⟨-, ha, hancestor'⟩ := isSubtypeOf_iff.1 hab
    · exact hbc
    · exact nomatch hb.symm.trans hb'
    · exact isSubtypeOf_class hc ha ((mem_ancestors.1 hancestor').1.trans hinherits)

/-- **Preorder**: every type is a subtype of itself, and a subtype of a subtype
is a subtype. -/
theorem isSubtypeOf_preorder (model : Model) :
    (∀ a, model.isSubtypeOf a a = true) ∧
      ∀ a b c, model.isSubtypeOf a b = true → model.isSubtypeOf b c = true →
        model.isSubtypeOf a c = true :=
  ⟨isSubtypeOf_refl, fun _ _ _ => isSubtypeOf_trans⟩

/-! ## Parents of interfaces -/

/-- No interface has a parent reference. -/
def ParentsOfClasses (model : Model) : Prop :=
  ∀ ty node, model.type? ty = some node → node.kind = .interfaceType → node.parent = none

namespace ParentsOfClasses

theorem empty (origin : Nat) (filters : Filters) :
    (Model.empty origin filters).ParentsOfClasses := by
  intro ty node hnode
  simp [type?, Model.empty] at hnode

theorem addType (h : model.ParentsOfClasses) (kind : TypeKind) (name : String) :
    (model.addType kind name).2.ParentsOfClasses := by
  intro x node hnode hkind
  rw [type?_addType] at hnode
  split at hnode
  · obtain rfl := Option.some_inj.1 hnode
    rfl
  · exact h x node hnode hkind

theorem modifyType (h : model.ParentsOfClasses) (ty : TypeId) {change : TypeNode → TypeNode}
    (hchange : ∀ node, model.type? ty = some node → node.kind = .interfaceType →
      node.parent = none → (change node).parent = none)
    (hkind : ∀ node, (change node).kind = node.kind) :
    (model.modifyType ty change).ParentsOfClasses := by
  intro x node hnode hinterface
  rw [type?_modifyType] at hnode
  by_cases hx : ty = x
  · subst hx
    rw [if_pos rfl] at hnode
    obtain ⟨before, hbefore, rfl⟩ := Option.map_eq_some_iff.1 hnode
    rw [hkind] at hinterface
    exact hchange before hbefore hinterface (h ty before hbefore hinterface)
  · rw [if_neg hx] at hnode
    exact h x node hnode hinterface

/-- What leaves the skeletons alone sets no parent. -/
theorem keepsSkeletons (h : model.ParentsOfClasses) {after : Model}
    (hkeeps : model.KeepsSkeletons after) : after.ParentsOfClasses := by
  intro x node hnode hkind
  have hx := hkeeps.type? x
  rw [hnode, Option.map_some, eq_comm, Option.map_eq_some_iff] at hx
  obtain ⟨before, hbefore, hskeleton⟩ := hx
  have hsameKind : before.skeleton.kind = node.skeleton.kind := congrArg TypeNode.kind hskeleton
  have hsameParent : before.skeleton.parent = node.skeleton.parent :=
    congrArg TypeNode.parent hskeleton
  exact hsameParent.symm.trans (h x before hbefore (hsameKind.trans hkind))

/-- A parent is only set if the type is a class. -/
theorem effect (h : model.ParentsOfClasses) {operation : Operation}
    (hrefusal : operation.refusal? model = none) : (operation.effect model).ParentsOfClasses := by
  obtain ⟨kind, name, rfl⟩ | ⟨ty, reference, rfl⟩ | ⟨ty, reference, rfl⟩ | ⟨-, hkeeps⟩ :=
    operation.effect_cases model
  · exact h.addType kind name
  · refine h.modifyType ty (fun node hnode hkind _ => ?_) fun _ => rfl
    by_cases hclass : reference.kind = .classType <;>
      simp [Operation.refusal?, refuseParent, hnode, hkind, hclass] at hrefusal
  · exact h.modifyType ty (fun _ _ _ hparent => hparent) fun _ => rfl
  · exact h.keepsSkeletons hkeeps

/-- Following a parent does not make one. -/
theorem settleIn (h : model.ParentsOfClasses) (table : SymbolTable) (site : Site) :
    (model.settleIn table site).ParentsOfClasses := by
  cases site with
  | parent ty =>
      refine h.modifyType ty (fun node _ _ hparent => ?_) fun _ => rfl
      simp [hparent]
  | interface ty position => exact h.modifyType ty (fun _ _ _ hparent => hparent) fun _ => rfl

end ParentsOfClasses

/-- In a reachable model only classes have parents. -/
theorem Reachable.parentsOfClasses (h : model.Reachable) : model.ParentsOfClasses :=
  h.invariant ParentsOfClasses.empty ParentsOfClasses.effect ParentsOfClasses.settleIn
    fun hbefore _ => hbefore

/-- Only classes inherit. -/
theorem ParentsOfClasses.typeKind_of_extends (h : model.ParentsOfClasses) {ty parent : TypeId}
    (hstep : model.Extends ty parent) : model.typeKind ty = some .classType := by
  obtain ⟨hdeclared, -⟩ := Option.filter_eq_some_iff.1 hstep
  obtain ⟨reference, hreference, -⟩ := Option.bind_eq_some_iff.1 hdeclared
  obtain ⟨node, hnode, hsome⟩ := Option.bind_eq_some_iff.1 hreference
  rw [typeKind, hnode, Option.map_some]
  cases hkind : node.kind with
  | classType => rfl
  | interfaceType => exact nomatch hsome.symm.trans (h ty node hnode hkind)

/-- Whoever inherits from anything is a class. -/
theorem ParentsOfClasses.typeKind_of_inherits (h : model.ParentsOfClasses) {ty ancestor : TypeId}
    (hinherits : model.Inherits ty ancestor) : model.typeKind ty = some .classType := by
  obtain ⟨parent, hstep, -⟩ := Relation.TransGen.head'_iff.1 hinherits
  exact h.typeKind_of_extends hstep

/-- A type is a subtype of a class if that is among its ancestors, and of an
interface if that is among its interfaces. -/
theorem Reachable.isSubtypeOf_iff (h : model.Reachable) {ty other : TypeId} :
    model.isSubtypeOf ty other = true ↔ ty = other ∨
      model.typeKind other = some .interfaceType ∧ other ∈ model.interfaces ty ∨
      model.typeKind other = some .classType ∧ other ∈ model.ancestors ty := by
  have hclass : other ∈ model.ancestors ty → model.typeKind ty = some .classType := by
    intro hancestor
    exact h.parentsOfClasses.typeKind_of_inherits (mem_ancestors.1 hancestor).1
  rw [Model.isSubtypeOf_iff, and_iff_right_of_imp hclass]

/-! ## References of one kind to types of the other -/

/-- References point at types of the kind that they ask for. -/
structure KindsAgree (model : Model) : Prop where
  parent : ∀ ty target, model.declaredParent ty = some target →
    model.typeKind target ≠ some .interfaceType
  interface : ∀ ty target, target ∈ model.declaredInterfaces ty →
    model.typeKind target ≠ some .classType

/-- The second type is met on one of the two walks from the first one and its
kind asks for the other walk. -/
def Overlooks (model : Model) (ty other : TypeId) : Prop :=
  model.typeKind other = some .interfaceType ∧ other ∈ model.ancestors ty ∧
      other ∉ model.interfaces ty ∨
    model.typeKind other = some .classType ∧ other ∈ model.interfaces ty ∧
      other ∉ model.ancestors ty

/-- Where all references ask for the kinds that they find, no subtype is overlooked. -/
theorem KindsAgree.not_overlooks (h : model.KindsAgree) (ty other : TypeId) :
    ¬ model.Overlooks ty other := by
  rintro (⟨hkind, hancestor, -⟩ | ⟨hkind, hinterface, -⟩)
  · obtain ⟨hinherits, -⟩ := mem_ancestors.1 hancestor
    obtain ⟨y, -, hstep⟩ := Relation.TransGen.tail'_iff.1 hinherits
    exact h.parent y other (Option.filter_eq_some_iff.1 hstep).1 hkind
  · obtain ⟨⟨y, -, hdeclared⟩, -⟩ := mem_interfaces.1 hinterface
    exact h.interface y other hdeclared hkind

/-- **Subtypes**: a type is a subtype of any of its ancestors and interfaces that
is not overlooked, so of all of them as long as references point at types of the
kind that they ask for. -/
theorem Reachable.isSubtypeOf_iff_not_overlooks (h : model.Reachable) {ty other : TypeId}
    (hmem : other ∈ model.ancestors ty ∨ other ∈ model.interfaces ty) :
    (model.isSubtypeOf ty other = true ↔ ¬ model.Overlooks ty other) ∧
      (model.KindsAgree → model.isSubtypeOf ty other = true) := by
  have hne : ty ≠ other := by
    obtain hancestor | hinterface := hmem
    · exact Ne.symm (mem_ancestors.1 hancestor).2
    · exact Ne.symm (mem_interfaces.1 hinterface).2.2
  have hvisible : model.isVisible other = true := by
    obtain hancestor | hinterface := hmem
    · exact (mem_ancestors.1 hancestor).1.isVisible
    · exact (mem_interfaces.1 hinterface).2.1
  have hiff : model.isSubtypeOf ty other = true ↔ ¬ model.Overlooks ty other := by
    rw [h.isSubtypeOf_iff, Overlooks]
    obtain hkind | hkind := typeKind_cases hvisible
    · simpa [hkind, hne] using hmem.symm
    · simpa [hkind, hne] using hmem
  exact ⟨hiff, fun hagree => hiff.2 (hagree.not_overlooks ty other)⟩

/-- A class whose parent has an interface. -/
theorem isSubtypeOf_inherited_interface :
    let model := (Model.empty 0 .empty).run [
      .addType .classType "Dog", .addType .classType "Animal", .addType .interfaceType "Being",
      .setParent ⟨0⟩ ⟨.classType, "Animal", some ⟨1⟩⟩,
      .addInterface ⟨1⟩ ⟨.interfaceType, "Being", some ⟨2⟩⟩]
    model.Reachable ∧ ⟨2⟩ ∈ model.interfaces ⟨0⟩ ∧ ¬ model.Overlooks ⟨0⟩ ⟨2⟩ ∧
      model.isSubtypeOf ⟨0⟩ ⟨2⟩ = true := by
  intro model
  have hreachable : model.Reachable := .run _ (.empty 0 .empty)
  have hinterface : ⟨2⟩ ∈ model.interfaces ⟨0⟩ := by
    have hparent : model.LeadsTo ⟨0⟩ ⟨1⟩ := .parent rfl
    have hdeclared : ⟨2⟩ ∈ model.declaredInterfaces ⟨1⟩ := List.mem_singleton.2 rfl
    exact mem_interfaces.2 ⟨⟨⟨1⟩, .single hparent, hdeclared⟩, rfl, by decide⟩
  have hkind : model.typeKind ⟨2⟩ = some .interfaceType := rfl
  have hmet : ¬ model.Overlooks ⟨0⟩ ⟨2⟩ := by simp [Overlooks, hkind, hinterface]
  exact ⟨hreachable, hinterface, hmet,
    (hreachable.isSubtypeOf_iff_not_overlooks (.inr hinterface)).1.2 hmet⟩

/-- An interface that a class names as its parent: it is an ancestor of the
class, which is no subtype of it. -/
theorem not_isSubtypeOf_interface_as_parent :
    let model := (Model.empty 0 .empty).run [
      .addType .interfaceType "Foo", .addType .classType "A",
      .setParent ⟨1⟩ ⟨.classType, "Foo", none⟩]
    model.Reachable ∧ ⟨0⟩ ∈ model.ancestors ⟨1⟩ ∧ model.isSubtypeOf ⟨1⟩ ⟨0⟩ = false := by
  intro model
  have hparent : model.declaredParent ⟨1⟩ = some ⟨0⟩ := by
    show (((∅ : SymbolTable).insertIfNew (symbolKey "Foo") ⟨0⟩).insertIfNew (symbolKey "A") ⟨1⟩)[
      symbolKey "Foo"]? = some ⟨0⟩
    simpa [Std.HashMap.getElem_insertIfNew] using Eq.symm
  have hextends : model.Extends ⟨1⟩ ⟨0⟩ := by
    rw [Extends, parentClass, hparent]
    rfl
  have hno (y : TypeId) : model.declaredInterfaces y = [] := by
    obtain ⟨i⟩ := y
    match i with
    | 0 => rfl
    | 1 => rfl
    | i + 2 => rfl
  refine ⟨.run _ (.empty 0 .empty), mem_ancestors.2 ⟨.single hextends, by decide⟩, ?_⟩
  rw [Bool.eq_false_iff, Ne, isSubtypeOf_iff]
  rintro (heq | ⟨-, hinterface⟩ | ⟨hkind, -⟩)
  · exact absurd heq (by decide)
  · obtain ⟨⟨y, -, hdeclared⟩, -⟩ := mem_interfaces.1 hinterface
    rw [hno y] at hdeclared
    exact List.not_mem_nil hdeclared
  · exact nomatch hkind

end TypeGraph.Model
