import Mathlib.Logic.Relation
import TypeGraph.Cycle

/-!
# TypeGraph.Proofs.Components

The strongly connected components of a graph, said by paths:

1. `Adjacency.mem_reach` — a walk along steps finds what a path leads to;
2. `DependencyGraph.mem_component` — a component is what a node reaches and
   what reaches it;
3. `DependencyGraph.leaders` — the first nodes of the components, one for each
   component and in ascending order.
-/

namespace TypeGraph

/-! ## Walks along steps -/

namespace Adjacency

variable {adjacency : Adjacency} {size : Nat}

/-- Any number of steps, none included. -/
def Reaches (adjacency : Adjacency) : TypeId → TypeId → Prop :=
  Relation.ReflTransGen fun source target => target ∈ adjacency.next source

/-- Where one step leads to, some edge does. -/
theorem mem_next_ofEdges {ends : Edge → TypeId × TypeId} {edges : List Edge}
    {source target : TypeId} :
    target ∈ (ofEdges ends edges).next source ↔ ∃ edge ∈ edges, ends edge = (source, target) := by
  induction edges with
  | nil => simp [ofEdges, next]
  | cons edge edges ih =>
      have hcons : ofEdges ends (edge :: edges) = (ofEdges ends edges).insert (ends edge).1
          ((ends edge).2 :: (ofEdges ends edges).next (ends edge).1) := rfl
      simp only [List.mem_cons, exists_eq_or_imp]
      rw [← ih, hcons, next, Std.HashMap.getD_insert, Prod.ext_iff]
      by_cases h : (ends edge).1 = source
      · rw [if_pos (beq_iff_eq.2 h), List.mem_cons, h]
        simp [eq_comm]
      · rw [if_neg (mt beq_iff_eq.1 h)]
        simp [h, next]

/-- What has been visited stays visited. -/
theorem mem_reach_of_mem {pending : List TypeId} {visited : Std.HashSet TypeId} {x : TypeId}
    (h : x ∈ visited) : x ∈ adjacency.reach size pending visited := by
  induction pending, visited using reach.induct adjacency size with
  | case1 visited => rwa [reach]
  | case2 ty pending visited hnew ih =>
      rw [reach, dif_pos hnew]
      exact ih (Std.HashSet.mem_insert.2 (.inr h))
  | case3 ty pending visited hold ih =>
      rw [reach, dif_neg hold]
      exact ih h

/-- A walk finds nothing but what can be reached. -/
theorem exists_of_mem_reach {pending : List TypeId} {visited : Std.HashSet TypeId} {x : TypeId}
    (h : x ∈ adjacency.reach size pending visited) :
    x ∈ visited ∨ ∃ ty ∈ pending, adjacency.Reaches ty x := by
  induction pending, visited using reach.induct adjacency size with
  | case1 visited =>
      rw [reach] at h
      exact .inl h
  | case2 ty pending visited hnew ih =>
      rw [reach, dif_pos hnew] at h
      obtain hvisited | ⟨y, hy, hreaches⟩ := ih h
      · obtain heq | hvisited := Std.HashSet.mem_insert.1 hvisited
        · exact .inr ⟨ty, List.mem_cons_self, beq_iff_eq.1 heq ▸ .refl⟩
        · exact .inl hvisited
      · obtain hstep | hy := List.mem_append.1 hy
        · exact .inr ⟨ty, List.mem_cons_self, .head hstep hreaches⟩
        · exact .inr ⟨y, List.mem_cons_of_mem ty hy, hreaches⟩
  | case3 ty pending visited hold ih =>
      rw [reach, dif_neg hold] at h
      obtain hvisited | ⟨y, hy, hreaches⟩ := ih h
      · exact .inl hvisited
      · exact .inr ⟨y, List.mem_cons_of_mem ty hy, hreaches⟩

/-- What is pending is visited in the end. -/
theorem mem_reach_of_mem_pending {pending : List TypeId} {visited : Std.HashSet TypeId}
    {x : TypeId} (h : x ∈ pending) (hsize : x.index < size) :
    x ∈ adjacency.reach size pending visited := by
  induction pending, visited using reach.induct adjacency size with
  | case1 visited => cases h
  | case2 ty pending visited hnew ih =>
      rw [reach, dif_pos hnew]
      obtain rfl | h := List.mem_cons.1 h
      · exact mem_reach_of_mem (Std.HashSet.mem_insert.2 (.inl (beq_self_eq_true x)))
      · exact ih (List.mem_append.2 (.inr h))
  | case3 ty pending visited hold ih =>
      rw [reach, dif_neg hold]
      obtain rfl | h := List.mem_cons.1 h
      · refine mem_reach_of_mem (Std.HashSet.mem_iff_contains.2 ?_)
        simpa [hsize] using hold
      · exact ih h

/-- If every step from what is visited leads to what is visited or pending,
then no step leads out of what is visited in the end. -/
theorem reach_closed {pending : List TypeId} {visited : Std.HashSet TypeId}
    (h : ∀ x ∈ visited, ∀ y ∈ adjacency.next x, y.index < size → y ∈ visited ∨ y ∈ pending)
    {x y : TypeId} (hx : x ∈ adjacency.reach size pending visited) (hy : y ∈ adjacency.next x)
    (hsize : y.index < size) : y ∈ adjacency.reach size pending visited := by
  induction pending, visited using reach.induct adjacency size with
  | case1 visited =>
      rw [reach] at hx ⊢
      exact (h x hx y hy hsize).resolve_right List.not_mem_nil
  | case2 ty pending visited hnew ih =>
      rw [reach, dif_pos hnew] at hx ⊢
      refine ih (fun a ha b hb hbound => ?_) hx
      rw [Std.HashSet.mem_insert, beq_iff_eq] at ha ⊢
      rw [List.mem_append]
      obtain rfl | ha := ha
      · exact .inr (.inl hb)
      · obtain hvisited | hpending := h a ha b hb hbound
        · exact .inl (.inr hvisited)
        · obtain rfl | hpending := List.mem_cons.1 hpending
          · exact .inl (.inl rfl)
          · exact .inr (.inr hpending)
  | case3 ty pending visited hold ih =>
      rw [reach, dif_neg hold] at hx ⊢
      refine ih (fun a ha b hb hbound => ?_) hx
      obtain hvisited | hpending := h a ha b hb hbound
      · exact .inl hvisited
      · obtain rfl | hpending := List.mem_cons.1 hpending
        · refine .inl (Std.HashSet.mem_iff_contains.2 ?_)
          simpa [hbound] using hold
        · exact .inr hpending

/-- **Walks**: a walk from a type finds what the type reaches, if the steps
stay below the bound. -/
theorem mem_reach {ty x : TypeId} (hty : ty.index < size)
    (hbound : ∀ a, ∀ b ∈ adjacency.next a, b.index < size) :
    x ∈ adjacency.reach size [ty] ∅ ↔ adjacency.Reaches ty x := by
  constructor
  · intro h
    obtain h | ⟨y, hy, hreaches⟩ := exists_of_mem_reach h
    · exact (Std.HashSet.not_mem_empty h).elim
    · exact List.mem_singleton.1 hy ▸ hreaches
  · intro h
    induction h with
    | refl => exact mem_reach_of_mem_pending List.mem_cons_self hty
    | tail _ hstep ih =>
        refine reach_closed (fun a ha => ?_) ih hstep (hbound _ _ hstep)
        exact (Std.HashSet.not_mem_empty ha).elim

end Adjacency

namespace DependencyGraph

variable {graph : DependencyGraph} {size : Nat}

/-! ## Paths -/

/-- Any number of edges, none included. -/
def Reaches (graph : DependencyGraph) : TypeId → TypeId → Prop :=
  Relation.ReflTransGen fun source target => graph.dependsOn source target = true

/-- Each of two types reaches the other. -/
def Mutual (graph : DependencyGraph) (a b : TypeId) : Prop := graph.Reaches a b ∧ graph.Reaches b a

theorem Mutual.refl (a : TypeId) : graph.Mutual a a := ⟨.refl, .refl⟩

theorem Mutual.symm {a b : TypeId} (h : graph.Mutual a b) : graph.Mutual b a := ⟨h.2, h.1⟩

theorem Mutual.trans {a b c : TypeId} (h : graph.Mutual a b) (h' : graph.Mutual b c) :
    graph.Mutual a c :=
  ⟨Relation.ReflTransGen.trans h.1 h'.1, Relation.ReflTransGen.trans h'.2 h.2⟩

/-- The nodes ascend and stay below a bound, and the edges are between them. -/
structure WellFormed (graph : DependencyGraph) (size : Nat) : Prop where
  ascending : graph.nodes.Pairwise fun a b => a.index < b.index
  bounded : ∀ ty ∈ graph.nodes, ty.index < size
  source_mem : ∀ {a b}, graph.dependsOn a b = true → a ∈ graph.nodes
  target_mem : ∀ {a b}, graph.dependsOn a b = true → b ∈ graph.nodes

/-- A step forward goes along an edge. -/
theorem mem_next_forward {a b : TypeId} :
    b ∈ graph.forward.next a ↔ graph.dependsOn a b = true := by
  rw [forward, Adjacency.mem_next_ofEdges, dependsOn, List.any_eq_true]
  simp [Prod.ext_iff]

/-- A step backward goes against an edge. -/
theorem mem_next_backward {a b : TypeId} :
    b ∈ graph.backward.next a ↔ graph.dependsOn b a = true := by
  rw [backward, Adjacency.mem_next_ofEdges, dependsOn, List.any_eq_true]
  simp [Prod.ext_iff, and_comm]

/-- Walks forward are the paths of the graph. -/
theorem reaches_forward {a b : TypeId} : graph.forward.Reaches a b ↔ graph.Reaches a b := by
  have hstep : (fun source target => target ∈ graph.forward.next source) =
      fun source target => graph.dependsOn source target = true := by
    funext source target
    exact propext mem_next_forward
  rw [Adjacency.Reaches, hstep, Reaches]

/-- Walks backward are the paths of the graph, the other way round. -/
theorem reaches_backward {a b : TypeId} : graph.backward.Reaches a b ↔ graph.Reaches b a := by
  have hstep : (fun source target => target ∈ graph.backward.next source) =
      Function.swap fun source target => graph.dependsOn source target = true := by
    funext source target
    exact propext mem_next_backward
  rw [Adjacency.Reaches, hstep, Relation.reflTransGen_swap, Reaches]

/-- The component of a node. -/
def componentOf (graph : DependencyGraph) (size : Nat) (ty : TypeId) : List TypeId :=
  graph.component graph.forward graph.backward size ty

namespace WellFormed

/-- Paths stay within the nodes. -/
theorem mem_of_reaches (h : graph.WellFormed size) {a b : TypeId} (ha : a ∈ graph.nodes)
    (hreaches : graph.Reaches a b) : b ∈ graph.nodes := by
  cases hreaches with
  | refl => exact ha
  | tail _ hedge => exact h.target_mem hedge

/-- **Components**: the component of a node is what it reaches and what reaches
it. -/
theorem mem_component (h : graph.WellFormed size) {ty x : TypeId} (hty : ty ∈ graph.nodes) :
    x ∈ graph.componentOf size ty ↔ graph.Mutual ty x := by
  have hforward : ∀ a, ∀ b ∈ graph.forward.next a, b.index < size := fun a b hb =>
    h.bounded b (h.target_mem (mem_next_forward.1 hb))
  have hbackward : ∀ a, ∀ b ∈ graph.backward.next a, b.index < size := fun a b hb =>
    h.bounded b (h.source_mem (mem_next_backward.1 hb))
  rw [componentOf, component, List.mem_filter, Bool.and_eq_true, ← Std.HashSet.mem_iff_contains,
    ← Std.HashSet.mem_iff_contains, Adjacency.mem_reach (h.bounded ty hty) hforward,
    Adjacency.mem_reach (h.bounded ty hty) hbackward, reaches_forward, reaches_backward]
  exact ⟨fun hx => hx.2, fun hx => ⟨h.mem_of_reaches hty hx.1, hx⟩⟩

end WellFormed

/-! ## Leaders -/

/-- The nodes from `pending` on whose components `componentsFrom` lists. -/
def leadersFrom (component : TypeId → List TypeId) :
    List TypeId → Std.HashSet TypeId → List TypeId
  | [], _ => []
  | ty :: rest, assigned =>
    if assigned.contains ty then leadersFrom component rest assigned
    else ty :: leadersFrom component rest (assigned.insertMany (component ty))

/-- The first nodes of the components. -/
def leaders (graph : DependencyGraph) (size : Nat) : List TypeId :=
  leadersFrom (graph.componentOf size) graph.nodes ∅

section

variable {component : TypeId → List TypeId} {pending : List TypeId}
  {assigned : Std.HashSet TypeId}

/-- The components are those of their leaders. -/
theorem componentsFrom_eq_map :
    componentsFrom component pending assigned =
      (leadersFrom component pending assigned).map component := by
  induction pending, assigned using leadersFrom.induct component with
  | case1 assigned => rfl
  | case2 ty rest assigned hold ih => rw [componentsFrom, leadersFrom, if_pos hold, if_pos hold, ih]
  | case3 ty rest assigned hnew ih =>
      rw [componentsFrom, leadersFrom, if_neg hnew, if_neg hnew, List.map_cons, ← ih]

/-- Leaders come in the order of the nodes. -/
theorem leadersFrom_sublist : (leadersFrom component pending assigned).Sublist pending := by
  induction pending, assigned using leadersFrom.induct component with
  | case1 assigned => exact .slnil
  | case2 ty rest assigned hold ih =>
      rw [leadersFrom, if_pos hold]
      exact ih.cons ty
  | case3 ty rest assigned hnew ih =>
      rw [leadersFrom, if_neg hnew]
      exact ih.cons_cons ty

/-- A leader has not been in an earlier component. -/
theorem not_mem_assigned_of_mem_leadersFrom {ty : TypeId}
    (h : ty ∈ leadersFrom component pending assigned) : ty ∉ assigned := by
  induction pending, assigned using leadersFrom.induct component with
  | case1 assigned => cases h
  | case2 other rest assigned hold ih =>
      rw [leadersFrom, if_pos hold] at h
      exact ih h
  | case3 other rest assigned hnew ih =>
      rw [leadersFrom, if_neg hnew] at h
      obtain rfl | h := List.mem_cons.1 h
      · exact hnew
      · exact fun hmem => ih h (Std.HashSet.mem_insertMany_list.2 (.inl hmem))

/-- Whole components have been assigned so far, and what is pending are nodes
in ascending order. -/
structure Assigns (graph : DependencyGraph) (component : TypeId → List TypeId)
    (pending : List TypeId) (assigned : Std.HashSet TypeId) : Prop where
  component : ∀ ty ∈ pending, ∀ x, x ∈ component ty ↔ graph.Mutual ty x
  ascending : pending.Pairwise fun a b => a.index < b.index
  closed : ∀ x ∈ assigned, ∀ y, graph.Mutual x y → y ∈ assigned

namespace Assigns

variable {ty : TypeId} {rest : List TypeId}

/-- A node that is in an earlier component leads none. -/
theorem skip (h : graph.Assigns component (ty :: rest) assigned) :
    graph.Assigns component rest assigned where
  component := fun x hx => h.component x (List.mem_cons_of_mem ty hx)
  ascending := h.ascending.of_cons
  closed := h.closed

/-- Assigning a component adds the nodes that its leader reaches and that reach it. -/
theorem mem_insertMany (h : graph.Assigns component (ty :: rest) assigned) {x : TypeId} :
    x ∈ assigned.insertMany (component ty) ↔ x ∈ assigned ∨ graph.Mutual ty x := by
  rw [Std.HashSet.mem_insertMany_list, List.contains_iff_mem, h.component ty List.mem_cons_self]

/-- A node that is in no earlier component leads its own. -/
theorem assign (h : graph.Assigns component (ty :: rest) assigned) :
    graph.Assigns component rest (assigned.insertMany (component ty)) where
  component := h.skip.component
  ascending := h.skip.ascending
  closed := by
    intro x hx y hxy
    rw [h.mem_insertMany] at hx ⊢
    obtain hx | hx := hx
    · exact .inl (h.closed x hx y hxy)
    · exact .inr (hx.trans hxy)

/-- Every node has a leader in the end. -/
theorem exists_leader (h : graph.Assigns component pending assigned) {x : TypeId}
    (hx : x ∈ pending) :
    x ∈ assigned ∨ ∃ leader ∈ leadersFrom component pending assigned, graph.Mutual leader x := by
  induction pending, assigned using leadersFrom.induct component with
  | case1 assigned => cases hx
  | case2 ty rest assigned hold ih =>
      rw [leadersFrom, if_pos hold]
      obtain rfl | hx := List.mem_cons.1 hx
      · exact .inl (Std.HashSet.mem_iff_contains.2 hold)
      · exact ih h.skip hx
  | case3 ty rest assigned hnew ih =>
      rw [leadersFrom, if_neg hnew]
      obtain rfl | hx := List.mem_cons.1 hx
      · exact .inr ⟨x, List.mem_cons_self, .refl x⟩
      · obtain hassigned | ⟨leader, hleader, hmutual⟩ := ih h.assign hx
        · obtain hassigned | hmutual := h.mem_insertMany.1 hassigned
          · exact .inl hassigned
          · exact .inr ⟨ty, List.mem_cons_self, hmutual⟩
        · exact .inr ⟨leader, List.mem_cons_of_mem ty hleader, hmutual⟩

/-- No two leaders are of one component. -/
theorem pairwise_leaders (h : graph.Assigns component pending assigned) :
    (leadersFrom component pending assigned).Pairwise fun a b => ¬ graph.Mutual a b := by
  induction pending, assigned using leadersFrom.induct component with
  | case1 assigned => exact .nil
  | case2 ty rest assigned hold ih =>
      rw [leadersFrom, if_pos hold]
      exact ih h.skip
  | case3 ty rest assigned hnew ih =>
      rw [leadersFrom, if_neg hnew]
      refine .cons (fun leader hleader hmutual => ?_) (ih h.assign)
      exact not_mem_assigned_of_mem_leadersFrom hleader (h.mem_insertMany.2 (.inr hmutual))

/-- A leader is the first node of its component. -/
theorem index_leader_le (h : graph.Assigns component pending assigned) {leader x : TypeId}
    (hleader : leader ∈ leadersFrom component pending assigned) (hx : x ∈ pending)
    (hmutual : graph.Mutual leader x) : leader.index ≤ x.index := by
  induction pending, assigned using leadersFrom.induct component with
  | case1 assigned => cases hx
  | case2 ty rest assigned hold ih =>
      rw [leadersFrom, if_pos hold] at hleader
      obtain rfl | hx := List.mem_cons.1 hx
      · have hassigned := h.closed x (Std.HashSet.mem_iff_contains.2 hold) leader hmutual.symm
        exact (not_mem_assigned_of_mem_leadersFrom hleader hassigned).elim
      · exact ih h.skip hleader hx
  | case3 ty rest assigned hnew ih =>
      rw [leadersFrom, if_neg hnew] at hleader
      obtain rfl | hleader := List.mem_cons.1 hleader
      · obtain rfl | hx := List.mem_cons.1 hx
        · exact Nat.le_refl _
        · exact Nat.le_of_lt ((List.pairwise_cons.1 h.ascending).1 x hx)
      · obtain rfl | hx := List.mem_cons.1 hx
        · have hassigned := h.mem_insertMany.2 (.inr hmutual.symm)
          exact (not_mem_assigned_of_mem_leadersFrom hleader hassigned).elim
        · exact ih h.assign hleader hx

end Assigns

end

/-- Each component is that of its leader. -/
theorem components_eq_map (graph : DependencyGraph) (size : Nat) :
    graph.components size = (graph.leaders size).map (graph.componentOf size) :=
  componentsFrom_eq_map

/-- Leaders are nodes. -/
theorem leader_mem_nodes {leader : TypeId} (h : leader ∈ graph.leaders size) :
    leader ∈ graph.nodes :=
  leadersFrom_sublist.subset h

namespace WellFormed

/-- At the start no node is in a component. -/
theorem assigns (h : graph.WellFormed size) :
    graph.Assigns (graph.componentOf size) graph.nodes ∅ where
  component := fun _ hty _ => h.mem_component hty
  ascending := h.ascending
  closed := fun _ hx => (Std.HashSet.not_mem_empty hx).elim

/-- A component starts with its leader. -/
theorem componentOf_leader (h : graph.WellFormed size) {leader : TypeId}
    (hleader : leader ∈ graph.leaders size) :
    ∃ rest, graph.componentOf size leader = leader :: rest := by
  have hnode := leader_mem_nodes hleader
  have hmem := (h.mem_component hnode).2 (.refl leader)
  have hascending : (graph.componentOf size leader).Pairwise fun a b => a.index < b.index :=
    h.ascending.sublist List.filter_sublist
  cases hgroup : graph.componentOf size leader with
  | nil =>
      rw [hgroup] at hmem
      cases hmem
  | cons first rest =>
      have hfirst : graph.Mutual leader first :=
        (h.mem_component hnode).1 (hgroup ▸ List.mem_cons_self)
      have hle := h.assigns.index_leader_le hleader (h.mem_of_reaches hnode hfirst.1) hfirst
      rw [hgroup] at hmem hascending
      obtain rfl | hmem := List.mem_cons.1 hmem
      · exact ⟨rest, rfl⟩
      · have hlt := (List.pairwise_cons.1 hascending).1 leader hmem
        omega

end WellFormed

end DependencyGraph

end TypeGraph
