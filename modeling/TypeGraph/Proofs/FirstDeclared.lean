import TypeGraph.Proofs.Memo
import TypeGraph.Proofs.Naming
import TypeGraph.Proofs.Subtypes
import TypeGraph.Proofs.Visible

/-!
# TypeGraph.Proofs.FirstDeclared

The symbol table against the types that have been declared.  Several types may
have names with the same key; the first one gets the name and keeps it:

1. `Reachable.lookup_eq_some_iff`, `Reachable.lookup_eq_none_iff` — a name
   resolves to the first type with its key, and it does not if there is none;
2. `lookup_replay` — whatever happens to a model, a name that resolves keeps
   its type;
3. `Untargeted.of_not_isTarget` — a type that no reference points at is in no
   answer about other types;
4. `Reachable.firstDeclared` — which is so for every type but the first with its
   key, if all references have been attached fresh and nobody who knows another
   type under its name has followed one;
5. `targeted_by_another_model` — and need not be so otherwise.
-/

namespace TypeGraph

namespace Model

variable {model : Model}

/-! ## The first type with a key -/

/-- The type has the key, and no earlier one has it. -/
structure IsFirst (model : Model) (key : String) (ty : TypeId) : Prop where
  hasKey : model.keyOf ty = some key
  first : ∀ other, model.keyOf other = some key → ty.index ≤ other.index

/-- The type has a key that an earlier one has. -/
def Shadowed (model : Model) (ty : TypeId) : Prop :=
  ∃ other key, other.index < ty.index ∧ model.keyOf other = some key ∧ model.keyOf ty = some key

/-- The first type with a key is no later one. -/
theorem IsFirst.not_shadowed {key : String} {ty : TypeId} (h : model.IsFirst key ty) :
    ¬ model.Shadowed ty := by
  rintro ⟨other, key', hlt, hother, hty⟩
  obtain rfl : key = key' := Option.some_inj.1 (h.hasKey.symm.trans hty)
  exact Nat.not_lt_of_le (h.first other hother) hlt

/-- The first type with a key is the one that a search through the names finds. -/
theorem isFirst_iff {key : String} {ty : TypeId} : model.IsFirst key ty ↔
    model.typeNames.findIdx? (symbolKey · == key) = some ty.index := by
  rw [List.findIdx?_eq_some_iff_getElem]
  constructor
  · rintro ⟨hkey, hfirst⟩
    rw [keyOf_eq, Option.map_eq_some_iff] at hkey
    obtain ⟨name, hname, hkey⟩ := hkey
    obtain ⟨hlt, rfl⟩ := List.getElem?_eq_some_iff.1 hname
    refine ⟨hlt, beq_iff_eq.2 hkey, fun j hj hother => ?_⟩
    have hj' : j < model.typeNames.length := Nat.lt_trans hj hlt
    have hearlier : model.keyOf ⟨j⟩ = some key := by
      rw [keyOf_eq, List.getElem?_eq_getElem hj', Option.map_some, beq_iff_eq.1 hother]
    exact Nat.not_lt_of_le (hfirst ⟨j⟩ hearlier) hj
  · rintro ⟨hlt, hkey, hearlier⟩
    constructor
    · rw [keyOf_eq, List.getElem?_eq_getElem hlt, Option.map_some, beq_iff_eq.1 hkey]
    · intro other hother
      rw [keyOf_eq, Option.map_eq_some_iff] at hother
      obtain ⟨name, hname, hother⟩ := hother
      obtain ⟨hlt', rfl⟩ := List.getElem?_eq_some_iff.1 hname
      refine Nat.le_of_not_lt fun hlater => hearlier other.index hlater ?_
      exact beq_iff_eq.2 hother

/-- A name resolves to the first type that has its key. -/
theorem Reachable.lookup_eq_some_iff (h : model.Reachable) {name : String} {ty : TypeId} :
    model.lookup name = some ty ↔ model.IsFirst (symbolKey name) ty := by
  rw [h.lookup_eq, isFirst_iff, Option.map_eq_some_iff]
  constructor
  · rintro ⟨i, hi, rfl⟩
    exact hi
  · intro hfind
    exact ⟨ty.index, hfind, rfl⟩

/-- A name does not resolve if no type has its key. -/
theorem Reachable.lookup_eq_none_iff (h : model.Reachable) {name : String} :
    model.lookup name = none ↔ ∀ ty, model.keyOf ty ≠ some (symbolKey name) := by
  rw [h.lookup_eq, Option.map_eq_none_iff, List.findIdx?_eq_none_iff]
  constructor
  · intro hnone ty hkey
    rw [keyOf_eq, Option.map_eq_some_iff] at hkey
    obtain ⟨other, hother, hkey⟩ := hkey
    simpa [hkey] using hnone other (List.mem_of_getElem? hother)
  · intro hnone other hother
    obtain ⟨i, hi⟩ := List.mem_iff_getElem?.1 hother
    have hne := hnone ⟨i⟩
    rw [keyOf_eq, hi, Option.map_some, ne_eq, Option.some_inj] at hne
    exact beq_eq_false_iff_ne.2 hne

/-! ## Names keep their types -/

/-- A name that resolves keeps its type in every event. -/
theorem lookup_event (model : Model) (event : Event) {name : String} {ty : TypeId}
    (h : model.lookup name = some ty) : (event.after model).lookup name = some ty := by
  cases event with
  | operate operation => exact operation.lookup_after model h
  | ask query =>
      rw [Event.after, Model.after, lookup_settle]
      exact h
  | copy origin => exact h
  | resolve table site =>
      rw [Event.after, lookup_settleIn]
      exact h

theorem lookup_replay (events : List Event) {name : String} {ty : TypeId}
    (h : model.lookup name = some ty) : (model.replay events).lookup name = some ty := by
  induction events generalizing model with
  | nil => exact h
  | cons event events ih => exact ih (model.lookup_event event h)

/-! ## Types that no reference points at -/

/-- Some attached reference points at the type. -/
def IsTarget (model : Model) (ty : TypeId) : Prop :=
  ∃ site, (model.reference? site).bind model.resolve = some ty

namespace IsTarget

variable {x ty : TypeId}

/-- The parent of a type is the target of its parent reference. -/
theorem of_declaredParent (h : model.declaredParent x = some ty) : model.IsTarget ty :=
  ⟨.parent x, h⟩

/-- The declared interfaces of a type are targets of its interface references. -/
theorem of_mem_declaredInterfaces (h : ty ∈ model.declaredInterfaces x) : model.IsTarget ty := by
  unfold declaredInterfaces at h
  cases hx : model.type? x with
  | none => simp [hx] at h
  | some node =>
      rw [hx] at h
      obtain ⟨reference, hmem, hresolve⟩ := List.mem_filterMap.1 h
      obtain ⟨position, hposition⟩ := List.mem_iff_getElem?.1 hmem
      refine ⟨.interface x position, ?_⟩
      simp [reference?, hx, hposition, hresolve]

/-- The dependencies of a type are at its sites. -/
theorem of_mem_dependencies {reference : TypeReference} (h : reference ∈ model.dependencies x)
    (hresolve : model.resolve reference = some ty) : model.IsTarget ty := by
  unfold dependencies at h
  cases hx : model.type? x with
  | none => simp [hx] at h
  | some node =>
      rw [hx] at h
      obtain hinterface | hparent := List.mem_append.1 h
      · apply of_mem_declaredInterfaces (x := x)
        rw [declaredInterfaces, hx]
        exact List.mem_filterMap.2 ⟨reference, hinterface, hresolve⟩
      · have hnode : node.parent = some reference := Option.mem_toList.1 hparent
        apply of_declaredParent (x := x)
        simp [declaredParent, hx, hnode, hresolve]

/-- An interface of a type is declared by some type on the way. -/
theorem of_mem_interfaces (h : ty ∈ model.interfaces x) : model.IsTarget ty := by
  obtain ⟨⟨y, -, hinterface⟩, -⟩ := mem_interfaces.1 h
  exact of_mem_declaredInterfaces hinterface

/-- Whatever is inherited from is the parent of a type. -/
theorem of_inherits (h : model.Inherits x ty) : model.IsTarget ty := by
  have hlast {y : TypeId} (hstep : model.Extends y ty) : model.IsTarget ty :=
    of_declaredParent (Option.filter_eq_some_iff.1 hstep).1
  cases h with
  | single hstep => exact hlast hstep
  | tail _ hstep => exact hlast hstep

/-- A resolved dependency is what a reference of the type points at. -/
theorem of_mem_resolvedDependencies (h : ty ∈ model.resolvedDependencies x) :
    model.IsTarget ty := by
  obtain ⟨-, hmem⟩ := mem_firstUnseen.1 h
  obtain ⟨reference, hreference, hresolve⟩ := List.mem_filterMap.1 (List.mem_filter.1 hmem).1
  exact of_mem_dependencies hreference hresolve

theorem of_edge {edge : Edge} (h : edge ∈ model.edgesFrom x) : model.IsTarget edge.target := by
  obtain ⟨-, -, reference, hreference, hresolve⟩ := of_mem_edgesFrom h
  exact of_mem_dependencies hreference hresolve

end IsTarget

/-- No answer about other types names the type: it is the target of no edge. -/
structure Untargeted (model : Model) (ty : TypeId) : Prop where
  parentClass : ∀ x, model.parentClass x ≠ some ty
  interfaces : ∀ x, ty ∉ model.interfaces x
  ancestors : ∀ x, ty ∉ model.ancestors x
  resolvedDependencies : ∀ x, ty ∉ model.resolvedDependencies x
  dependencyGraph : ∀ edge ∈ model.dependencyGraph.edges, edge.target ≠ ty

/-- What no reference points at is in no answer. -/
theorem Untargeted.of_not_isTarget {ty : TypeId} (h : ¬ model.IsTarget ty) :
    model.Untargeted ty where
  parentClass _ hparent := h (.of_declaredParent (Option.filter_eq_some_iff.1 hparent).1)
  interfaces _ hmem := h (.of_mem_interfaces hmem)
  ancestors _ hmem := h (.of_inherits (mem_ancestors.1 hmem).1)
  resolvedDependencies _ hmem := h (.of_mem_resolvedDependencies hmem)
  dependencyGraph edge hmem htarget := by
    obtain ⟨x, -, hedge⟩ := List.mem_flatMap.1 hmem
    exact h (htarget ▸ .of_edge hedge)

/-! ## The symbol table -/

/-- What a reference with a sound memo points at is the first type with its
key. -/
theorem IsTarget.isFirst (hreachable : model.Reachable) (hsound : model.MemosSound) {ty : TypeId}
    (h : model.IsTarget ty) : ∃ key, model.IsFirst key ty := by
  obtain ⟨site, hsite⟩ := h
  obtain ⟨reference, hreference, hresolve⟩ := Option.bind_eq_some_iff.1 hsite
  have hlookup : model.lookup reference.name = some ty := by
    rw [← (hsound site reference hreference).target?_eq]
    exact hresolve
  exact ⟨symbolKey reference.name, hreachable.lookup_eq_some_iff.1 hlookup⟩

/-- **The symbol table**: in every reachable model a name resolves to the first
type whose name has the same key, it does not resolve if there is no such type,
and once it resolves it keeps its type, whatever happens to the model.  If all
references have been attached fresh, and nobody else who knows another type under
its name has followed one, no edge leads to a type that is not the first with its
key. -/
theorem Reachable.firstDeclared (h : model.Reachable) (name : String) :
    (∀ ty, model.lookup name = some ty ↔ model.IsFirst (symbolKey name) ty) ∧
      (model.lookup name = none ↔ ∀ ty, model.keyOf ty ≠ some (symbolKey name)) ∧
      (∀ events ty, model.lookup name = some ty →
        (model.replay events).lookup name = some ty) ∧
      (model.ReachableBy Event.Faithful →
        ∀ ty, model.Shadowed ty → model.Untargeted ty) := by
  refine ⟨fun _ => h.lookup_eq_some_iff, h.lookup_eq_none_iff, fun events _ => lookup_replay events,
    fun hfaithful ty hshadowed => .of_not_isTarget fun htarget => ?_⟩
  obtain ⟨key, hfirst⟩ := htarget.isFirst h hfaithful.memosSound
  exact hfirst.not_shadowed hshadowed

/-- A class that is declared again in other case: the name stays with the first
one, and so does whoever extends it. -/
theorem firstDeclared_of_case_variants :
    let model := (Model.empty 0 .empty).run [.addType .classType "Foo", .addType .classType "FOO",
      .addType .classType "Bar", .setParent ⟨2⟩ ⟨.classType, "foo", none⟩]
    model.ReachableBy Event.Faithful ∧ model.lookup "fOO" = some ⟨0⟩ ∧
      model.Shadowed ⟨1⟩ ∧ model.Untargeted ⟨1⟩ := by
  intro model
  have hfaithful : model.ReachableBy Event.Faithful :=
    (ReachableBy.empty 0 .empty).run (by simp [Event.Faithful, Operation.AttachesFresh])
  have hkey : model.keyOf ⟨0⟩ = some (symbolKey "Foo") := rfl
  have hkey' : model.keyOf ⟨1⟩ = some (symbolKey "FOO") := rfl
  have hsame : symbolKey "Foo" = symbolKey "fOO" := by decide
  have hsame' : symbolKey "FOO" = symbolKey "Foo" := by decide
  have hshadowed : model.Shadowed ⟨1⟩ :=
    ⟨⟨0⟩, symbolKey "Foo", Nat.zero_lt_one, hkey, hsame' ▸ hkey'⟩
  obtain ⟨hlookup, -, -, huntargeted⟩ := hfaithful.reachable.firstDeclared "fOO"
  have hfirst : model.IsFirst (symbolKey "fOO") ⟨0⟩ :=
    ⟨hsame ▸ hkey, fun other _ => Nat.zero_le other.index⟩
  exact ⟨hfaithful, (hlookup ⟨0⟩).2 hfirst, hshadowed, huntargeted hfaithful ⟨1⟩ hshadowed⟩

/-- Another model follows the reference where it is attached, and knows its name
under the second handle.  That is the one remembered from then on, so an edge
leads to a type that is not the first with its key, although the reference was
fresh when it was attached. -/
theorem targeted_by_another_model :
    let model := (Model.empty 0 .empty).run [.addType .classType "Base", .addType .classType "base",
      .addType .classType "Child", .setParent ⟨2⟩ ⟨.classType, "Base", none⟩]
    let other := (Model.empty 1 .empty).run
      [.addType .classType "Widget", .addType .classType "Base"]
    let after := (Event.resolve other.symbols (.parent ⟨2⟩)).after model
    after.ReachableBy (Event.Obeys Operation.AttachesFresh) ∧ after.Shadowed ⟨1⟩ ∧
      after.parentClass ⟨2⟩ = some ⟨1⟩ ∧ ⟨1⟩ ∈ after.ancestors ⟨2⟩ ∧
      ⟨1⟩ ∈ after.resolvedDependencies ⟨2⟩ ∧ ¬ after.Untargeted ⟨1⟩ := by
  intro model other after
  have hmodel : model.ReachableBy (Event.Obeys Operation.AttachesFresh) :=
    (ReachableBy.empty 0 .empty).run (by simp [Event.Obeys, Operation.AttachesFresh])
  have hafter : after.ReachableBy (Event.Obeys Operation.AttachesFresh) := hmodel.event _ trivial
  have hsame : symbolKey "base" = symbolKey "Base" := by decide
  have hshadowed : after.Shadowed ⟨1⟩ :=
    ⟨⟨0⟩, symbolKey "Base", Nat.zero_lt_one, rfl, congrArg some hsame⟩
  have hknown : other.lookup "Base" = some ⟨1⟩ :=
    (lookup_run_addType 1 .empty .classType ["Widget", "Base"] "Base").trans (by decide)
  have hchild : after.type? ⟨2⟩ = some { TypeNode.bare ⟨2⟩ 0 "Child" .classType with
      parent := some ⟨.classType, "Base", some ⟨1⟩⟩ } := by
    rw [← hknown]
    rfl
  have hparent : after.parentClass ⟨2⟩ = some ⟨1⟩ := by
    rw [parentClass, declaredParent, hchild]
    rfl
  have hancestor : ⟨1⟩ ∈ after.ancestors ⟨2⟩ := mem_ancestors.2 ⟨.single hparent, by decide⟩
  have hresolved : ⟨1⟩ ∈ after.resolvedDependencies ⟨2⟩ := by
    rw [resolvedDependencies, dependencies, hchild]
    decide
  exact ⟨hafter, hshadowed, hparent, hancestor, hresolved, fun h => h.parentClass ⟨2⟩ hparent⟩

end Model

end TypeGraph
