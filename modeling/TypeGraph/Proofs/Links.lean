import Mathlib.Logic.Relation
import TypeGraph.Hierarchy

/-!
# TypeGraph.Proofs.Links

The references of a type once they are resolved, whatever the filters say,
and the two laws of a walk that everything else rests on:

1. `links_eq` — the links of a type are its interfaces in source order and
   then its parent; a foreign handle has none;
2. `follow_append` — a walk takes one list of links after another.
-/

namespace TypeGraph.Model

variable {model : Model}

/-! ## Declared steps -/

/-- The types that the interface references of a type point at, in source
order, repetitions included. -/
def declaredInterfaces (model : Model) (ty : TypeId) : List TypeId :=
  match model.type? ty with
  | none => []
  | some node => node.interfaces.filterMap model.resolve

/-- One step along a reference that resolves, hidden types included. -/
inductive LeadsTo (model : Model) (ty : TypeId) : TypeId → Prop where
  | interface {target : TypeId} (h : target ∈ model.declaredInterfaces ty) :
      LeadsTo model ty target
  | parent {target : TypeId} (h : model.declaredParent ty = some target) :
      LeadsTo model ty target

/-- Any number of steps along references that resolve, none included. -/
def Reaches (model : Model) : TypeId → TypeId → Prop := Relation.ReflTransGen model.LeadsTo

/-- A handle behind the last type is foreign. -/
theorem type?_eq_none {ty : TypeId} (h : ¬ ty.index < model.types.size) :
    model.type? ty = none := by
  rw [type?]
  exact Array.getElem?_eq_none (Nat.le_of_not_lt h)

/-- A foreign type declares no interfaces. -/
theorem declaredInterfaces_foreign {ty : TypeId} (h : ¬ ty.index < model.types.size) :
    model.declaredInterfaces ty = [] := by
  simp [declaredInterfaces, type?_eq_none h]

theorem declaredParent_foreign {ty : TypeId} (h : ¬ ty.index < model.types.size) :
    model.declaredParent ty = none := by
  simp [declaredParent, type?_eq_none h]

/-- A foreign handle leads nowhere. -/
theorem index_lt_of_leadsTo {ty target : TypeId} (h : model.LeadsTo ty target) :
    ty.index < model.types.size := by
  refine Decidable.byContradiction fun hty => ?_
  cases h with
  | interface h =>
      rw [declaredInterfaces_foreign hty] at h
      contradiction
  | parent h =>
      rw [declaredParent_foreign hty] at h
      contradiction

/-! ## Links -/

/-- The links of a type lead to its interfaces in order, and then to its parent. -/
theorem links_eq (model : Model) (ty : TypeId) :
    model.links ty = (model.declaredInterfaces ty).map .interface
      ++ (model.declaredParent ty).toList.map .parent := by
  cases h : model.type? ty with
  | none => simp [links, declaredInterfaces, declaredParent, h]
  | some node =>
      cases hp : node.parent.bind model.resolve <;>
        simp [links, declaredInterfaces, declaredParent, h, hp]

/-- A link to an interface is a declared interface. -/
theorem interface_mem_links {ty target : TypeId} :
    .interface target ∈ model.links ty ↔ target ∈ model.declaredInterfaces ty := by
  simp [links_eq]

/-- A link to a parent is the declared parent. -/
theorem parent_mem_links {ty target : TypeId} :
    .parent target ∈ model.links ty ↔ model.declaredParent ty = some target := by
  simp [links_eq]

/-! ## Walks -/

/-- A walk expands what is in the model and has not been expanded. -/
theorem canExpand_iff {walk : Walk} {ty : TypeId} :
    model.canExpand walk ty = true ↔ ty.index < model.types.size ∧ ty ∉ walk.expanded := by
  simp [canExpand, ← Std.HashSet.contains_eq_false_iff_not_mem]

/-- The links of a list are all taken before those of the next one. -/
theorem follow_append (first second : List Link) (walk : Walk) :
    model.follow (first ++ second) walk = model.follow second (model.follow first walk) := by
  induction first, walk using follow.induct model with
  | case1 walk => rw [List.nil_append, follow]
  | case2 ty rest walk hseen ih =>
      rw [List.cons_append, follow, if_pos hseen, ih, follow.eq_2, if_pos hseen]
  | case3 ty rest walk hseen hexp ih =>
      rw [List.cons_append, follow, if_neg hseen, dif_pos hexp, ← List.append_assoc, ih,
        follow.eq_2, if_neg hseen, dif_pos hexp]
  | case4 ty rest walk hseen hexp ih =>
      rw [List.cons_append, follow, if_neg hseen, dif_neg hexp, ih,
        follow.eq_2, if_neg hseen, dif_neg hexp]
  | case5 ty rest walk hexp ih =>
      rw [List.cons_append, follow, dif_pos hexp, ← List.append_assoc, ih,
        follow.eq_3, dif_pos hexp]
  | case6 ty rest walk hexp ih =>
      rw [List.cons_append, follow, dif_neg hexp, ih, follow.eq_3, dif_neg hexp]

end TypeGraph.Model
