import TypeGraph.Proofs.Interfaces

/-!
# TypeGraph.Proofs.Ancestors

The chain of visible parents, which may run into a circle, and its members:

* `mem_ancestors` — the ancestors of a type are the types that it inherits
  from, but for itself;
* `mem_interfaces` — likewise its interfaces are the visible types that some
  type it reaches implements, but for itself.

The walk through parents stops at the first type that it has visited; nothing
is lost, because from there on the chain repeats what has been listed.
-/

namespace TypeGraph.Model

variable {model : Model}

/-! ## Inheriting -/

/-- The second type is the visible parent of the first. -/
def Extends (model : Model) (ty parent : TypeId) : Prop := model.parentClass ty = some parent

/-- One or more steps along visible parents. -/
def Inherits (model : Model) : TypeId → TypeId → Prop := Relation.TransGen model.Extends

/-- Some type that the first one reaches, through hidden types as well, has an
interface reference to the second one. -/
def Implements (model : Model) (ty interface : TypeId) : Prop :=
  ∃ y, model.Reaches ty y ∧ interface ∈ model.declaredInterfaces y

/-- A parent is a type that the structural walk goes on to. -/
theorem leadsTo_of_extends {ty parent : TypeId} (h : model.Extends ty parent) :
    model.LeadsTo ty parent :=
  .parent (Option.filter_eq_some_iff.1 h).1

/-- A hidden parent is no parent: the chain ends below it. -/
theorem isVisible_of_extends {ty parent : TypeId} (h : model.Extends ty parent) :
    model.isVisible parent = true :=
  (Option.filter_eq_some_iff.1 h).2

/-- What a type inherits from, a walk from it arrives at. -/
theorem Inherits.reaches {ty ancestor : TypeId} (h : model.Inherits ty ancestor) :
    model.Reaches ty ancestor := by
  induction h with
  | single hstep => exact .single (leadsTo_of_extends hstep)
  | tail _ hstep ih => exact ih.tail (leadsTo_of_extends hstep)

/-- Nothing hidden is inherited from. -/
theorem Inherits.isVisible {ty ancestor : TypeId} (h : model.Inherits ty ancestor) :
    model.isVisible ancestor = true := by
  cases h with
  | single hstep => exact isVisible_of_extends hstep
  | tail _ hstep => exact isVisible_of_extends hstep

/-- What a type implements, a walk from it arrives at. -/
theorem Implements.reaches {ty interface : TypeId} (h : model.Implements ty interface) :
    model.Reaches ty interface := by
  obtain ⟨y, hy, hinterface⟩ := h
  exact hy.tail (.interface hinterface)

/-- What a type implements, so does every type that reaches it. -/
theorem Implements.of_reaches {ty other interface : TypeId} (h : model.Implements other interface)
    (hreaches : model.Reaches ty other) : model.Implements ty interface := by
  obtain ⟨y, hy, hinterface⟩ := h
  exact ⟨y, hreaches.trans hy, hinterface⟩

/-! ## The chain of parents -/

section Chain

variable {visited : Std.HashSet TypeId} {ty parent x : TypeId}

/-- Without a visible parent the chain ends. -/
theorem ancestorsFrom_of_none (h : model.parentClass ty = none) :
    model.ancestorsFrom visited ty = [] := by
  rw [ancestorsFrom, h]

/-- Where the chain would come back to a type that it has passed, it ends. -/
theorem ancestorsFrom_of_visited (h : model.parentClass ty = some parent)
    (hvisited : visited.contains parent = true) : model.ancestorsFrom visited ty = [] := by
  rw [ancestorsFrom, h]
  dsimp only
  rw [dif_pos hvisited]

/-- A visible parent that the chain has not passed is listed, and the chain goes on
from it. -/
theorem ancestorsFrom_of_new (h : model.parentClass ty = some parent)
    (hvisited : ¬ visited.contains parent = true) :
    model.ancestorsFrom visited ty =
      parent :: model.ancestorsFrom (visited.insert parent) parent := by
  rw [ancestorsFrom, h]
  dsimp only
  rw [dif_neg hvisited]

/-- The chain lists types that are inherited from and have not been visited. -/
theorem inherits_of_mem_ancestorsFrom (h : x ∈ model.ancestorsFrom visited ty) :
    model.Inherits ty x ∧ x ∉ visited := by
  induction visited, ty using ancestorsFrom.induct model with
  | case1 visited ty hparent => simp [ancestorsFrom_of_none hparent] at h
  | case2 visited ty parent hparent hvisited =>
      simp [ancestorsFrom_of_visited hparent hvisited] at h
  | case3 visited ty parent hparent hvisited ih =>
      rw [ancestorsFrom_of_new hparent hvisited] at h
      obtain rfl | hrest := List.mem_cons.1 h
      · exact ⟨.single hparent, hvisited⟩
      · obtain ⟨hinherits, hnew⟩ := ih hrest
        exact ⟨.head hparent hinherits, fun hx => hnew (Std.HashSet.mem_insert.2 (.inr hx))⟩

/-- The chain goes on until it comes back: the parent of the start and of any
type that is listed is listed too, or has been visited. -/
theorem ancestorsFrom_closed (h : x = ty ∨ x ∈ model.ancestorsFrom visited ty)
    (hstep : model.Extends x parent) :
    parent ∈ visited ∨ parent ∈ model.ancestorsFrom visited ty := by
  induction visited, ty using ancestorsFrom.induct model with
  | case1 visited ty hparent =>
      rw [ancestorsFrom_of_none hparent] at h
      obtain rfl := h.resolve_right List.not_mem_nil
      exact nomatch hparent.symm.trans hstep
  | case2 visited ty next hparent hvisited =>
      rw [ancestorsFrom_of_visited hparent hvisited] at h
      obtain rfl := h.resolve_right List.not_mem_nil
      obtain rfl := Option.some_inj.1 (hparent.symm.trans hstep)
      exact .inl hvisited
  | case3 visited ty next hparent hvisited ih =>
      rw [ancestorsFrom_of_new hparent hvisited] at h ⊢
      obtain rfl | hlisted := h
      · obtain rfl := Option.some_inj.1 (hparent.symm.trans hstep)
        exact .inr List.mem_cons_self
      · obtain hmem | hmem := ih (List.mem_cons.1 hlisted)
        · obtain heq | hmem := Std.HashSet.mem_insert.1 hmem
          · exact .inr (List.mem_cons.2 (.inl (beq_iff_eq.1 heq).symm))
          · exact .inl hmem
        · exact .inr (List.mem_cons_of_mem next hmem)

end Chain

/-- The ancestors of a type are the types that it inherits from, but for itself,
be the chain a circle or not. -/
theorem mem_ancestors {ty x : TypeId} : x ∈ model.ancestors ty ↔ model.Inherits ty x ∧ x ≠ ty := by
  constructor
  · intro h
    obtain ⟨hinherits, hnew⟩ := inherits_of_mem_ancestorsFrom h
    exact ⟨hinherits, mt mem_singleton_iff.2 hnew⟩
  · rintro ⟨hinherits, hne⟩
    -- the chain keeps to the start and what is listed
    have hlisted : x = ty ∨ x ∈ model.ancestors ty := by
      clear hne
      induction hinherits with
      | single hstep =>
          exact (ancestorsFrom_closed (.inl rfl) hstep).imp_left mem_singleton_iff.1
      | tail _ hstep ih => exact (ancestorsFrom_closed ih hstep).imp_left mem_singleton_iff.1
    exact hlisted.resolve_left hne

/-- The interfaces of a type are the visible types that it implements, but for
itself. -/
theorem mem_interfaces {ty x : TypeId} :
    x ∈ model.interfaces ty ↔ model.Implements ty x ∧ model.isVisible x = true ∧ x ≠ ty := by
  rw [interfaces_eq_filter, List.mem_filter, List.mem_eraseDups, List.mem_filter, bne_iff_ne]
  constructor
  · rintro ⟨⟨hwalk, hne⟩, hvisible⟩
    exact ⟨exists_of_mem_plainWalk hwalk, hvisible, hne⟩
  · rintro ⟨⟨y, hy, hx⟩, hvisible, hne⟩
    exact ⟨⟨mem_plainWalk_of_reaches hy hx hne, hne⟩, hvisible⟩

end TypeGraph.Model
