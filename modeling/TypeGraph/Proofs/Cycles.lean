import TypeGraph.Proofs.Components
import TypeGraph.Proofs.Run

/-!
# TypeGraph.Proofs.Cycles

Which types depend on each other in a circle.  The groups that a model lists
are the strongly connected components of its dependency graph that have an
edge inside:

* `DependencyGraph.CircularGroups` says what that means in terms of paths;
* `Reachable.circularGroups` — it is true of the groups of every model that a
  caller can arrive at.
-/

namespace TypeGraph

namespace DependencyGraph

variable {graph : DependencyGraph} {size : Nat}

def Leads (graph : DependencyGraph) : TypeId → TypeId → Prop :=
  Relation.TransGen fun source target => graph.dependsOn source target = true

/-- The groups of types that depend on each other in a circle, and nothing
else. -/
structure CircularGroups (graph : DependencyGraph) (groups : List (List TypeId)) : Prop where
  nonempty : [] ∉ groups
  /-- A type is in one group at most. -/
  disjoint : groups.Pairwise fun group other => ∀ a ∈ group, a ∉ other
  /-- A type is in a group if it depends on itself, directly or not. -/
  covered_iff : ∀ a, (∃ group ∈ groups, a ∈ group) ↔ graph.Leads a a
  /-- Two types share a group if each depends on the other, directly or not. -/
  together_iff : ∀ a b, a ≠ b →
    ((∃ group ∈ groups, a ∈ group ∧ b ∈ group) ↔ graph.Leads a b ∧ graph.Leads b a)
  /-- A type that shares its component with no other is a group if it has an
  edge to itself. -/
  alone_iff : ∀ a, [a] ∈ groups ↔
    graph.dependsOn a a = true ∧ ∀ b, graph.Leads a b → graph.Leads b a → b = a
  /-- Each group ascends. -/
  group_ascending : ∀ group ∈ groups, (group.map (·.index)).Pairwise (· < ·)
  /-- The groups ascend lexicographically. -/
  groups_ascending : (groups.map fun group => group.map (·.index)).Pairwise (· < ·)
  /-- There is no group if there is no circle. -/
  eq_nil_iff : groups = [] ↔ ∀ a, ¬ graph.Leads a a

/-! ## Circles -/

/-- Two types that lead to each other are in one component. -/
theorem Mutual.of_leads {a b : TypeId} (h : graph.Leads a b) (h' : graph.Leads b a) :
    graph.Mutual a b :=
  ⟨h.to_reflTransGen, h'.to_reflTransGen⟩

/-- Two types of one component that are not the same lead to each other by an edge at
least. -/
theorem Mutual.leads {a b : TypeId} (h : graph.Mutual a b) (hne : a ≠ b) : graph.Leads a b :=
  (Relation.reflTransGen_iff_eq_or_transGen.1 h.1).resolve_left hne.symm

/-- A circle through a type leads through its whole component. -/
theorem Mutual.leads_self {a b : TypeId} (h : graph.Mutual a b) (ha : graph.Leads a a) :
    graph.Leads b b :=
  (ha.trans_right h.2).trans_left h.1

namespace WellFormed

/-- A component lists its types in the order of their handles. -/
theorem componentOf_ascending (h : graph.WellFormed size) (ty : TypeId) :
    (graph.componentOf size ty).Pairwise fun a b => a.index < b.index :=
  h.ascending.sublist List.filter_sublist

/-- A component is listed if there is a circle in it. -/
theorem isCyclic_iff (h : graph.WellFormed size) {ty : TypeId} (hty : ty ∈ graph.nodes) :
    graph.isCyclic (graph.componentOf size ty) = true ↔ graph.Leads ty ty := by
  have hmem (x : TypeId) := h.mem_component (x := x) hty
  have hascending := h.componentOf_ascending ty
  match hgroup : graph.componentOf size ty with
  | [] =>
      rw [hgroup] at hmem
      cases (hmem ty).2 (.refl ty)
  | [x] =>
      rw [hgroup] at hmem
      obtain rfl : ty = x := List.mem_singleton.1 ((hmem ty).2 (.refl ty))
      constructor
      · exact fun hedge => .single hedge
      · intro hleads
        obtain ⟨next, hedge, hback⟩ := Relation.TransGen.head'_iff.1 hleads
        obtain rfl : next = ty := List.mem_singleton.1 ((hmem next).2 ⟨.single hedge, hback⟩)
        exact hedge
  | x :: y :: rest =>
      rw [hgroup] at hmem hascending
      have hlt := (List.pairwise_cons.1 hascending).1 y List.mem_cons_self
      have hother : ∃ other, other ≠ ty ∧ graph.Mutual ty other := by
        by_cases hx : x = ty
        · refine ⟨y, fun hy => ?_, (hmem y).1 (List.mem_cons_of_mem x List.mem_cons_self)⟩
          rw [hx, hy] at hlt
          exact Nat.lt_irrefl _ hlt
        · exact ⟨x, hx, (hmem x).1 List.mem_cons_self⟩
      obtain ⟨other, hne, hmutual⟩ := hother
      exact iff_of_true rfl ((hmutual.leads hne.symm).trans (hmutual.symm.leads hne))

/-- The groups are the components of the leaders on a circle. -/
theorem mem_cyclic_components (h : graph.WellFormed size) {group : List TypeId} :
    group ∈ (graph.components size).filter graph.isCyclic ↔
      ∃ leader ∈ graph.leaders size, graph.Leads leader leader ∧
        group = graph.componentOf size leader := by
  rw [List.mem_filter, components_eq_map, List.mem_map]
  constructor
  · rintro ⟨⟨leader, hleader, rfl⟩, hcyclic⟩
    exact ⟨leader, hleader, (h.isCyclic_iff (leader_mem_nodes hleader)).1 hcyclic, rfl⟩
  · rintro ⟨leader, hleader, hleads, rfl⟩
    exact ⟨⟨leader, hleader, rfl⟩, (h.isCyclic_iff (leader_mem_nodes hleader)).2 hleads⟩

/-- The types of a group are those that are on a circle with one of them. -/
theorem mem_group (h : graph.WellFormed size) {group : List TypeId}
    (hgroup : group ∈ (graph.components size).filter graph.isCyclic) {a : TypeId}
    (ha : a ∈ group) :
    graph.Leads a a ∧ ∀ b, b ∈ group ↔ graph.Mutual a b := by
  obtain ⟨leader, hleader, hleads, rfl⟩ := h.mem_cyclic_components.1 hgroup
  have hmem (x : TypeId) := h.mem_component (x := x) (leader_mem_nodes hleader)
  have hmutual := (hmem a).1 ha
  refine ⟨hmutual.leads_self hleads, fun b => ?_⟩
  rw [hmem]
  exact ⟨hmutual.symm.trans, hmutual.trans⟩

/-- Whatever is on a circle is in a group. -/
theorem exists_group (h : graph.WellFormed size) {a : TypeId} (ha : graph.Leads a a) :
    ∃ group ∈ (graph.components size).filter graph.isCyclic, a ∈ group := by
  obtain ⟨next, hedge, -⟩ := Relation.TransGen.head'_iff.1 ha
  obtain ⟨leader, hleader, hmutual⟩ :=
    (h.assigns.exists_leader (h.source_mem hedge)).resolve_left Std.HashSet.not_mem_empty
  refine ⟨graph.componentOf size leader, ?_, (h.mem_component (leader_mem_nodes hleader)).2 hmutual⟩
  exact h.mem_cyclic_components.2 ⟨leader, hleader, hmutual.symm.leads_self ha, rfl⟩

/-- No type is in two groups. -/
theorem groups_disjoint (h : graph.WellFormed size) :
    ((graph.components size).filter graph.isCyclic).Pairwise fun group other =>
      ∀ a ∈ group, a ∉ other := by
  refine List.Pairwise.filter _ ?_
  rw [components_eq_map, List.pairwise_map]
  refine h.assigns.pairwise_leaders.imp_of_mem fun {first second} hfirst hsecond hne a ha ha' => ?_
  have hleft := (h.mem_component (leader_mem_nodes hfirst)).1 ha
  have hright := (h.mem_component (leader_mem_nodes hsecond)).1 ha'
  exact hne (hleft.trans hright.symm)

/-- The groups are in the order of their handles. -/
theorem groups_ascending (h : graph.WellFormed size) :
    (((graph.components size).filter graph.isCyclic).map fun group =>
      group.map (·.index)).Pairwise (· < ·) := by
  rw [List.pairwise_map]
  refine List.Pairwise.filter _ ?_
  rw [components_eq_map, List.pairwise_map]
  have hleaders : (graph.leaders size).Pairwise fun a b => a.index < b.index :=
    h.ascending.sublist leadersFrom_sublist
  refine hleaders.imp_of_mem fun {first second} hfirst hsecond hlt => ?_
  obtain ⟨rest, hrest⟩ := h.componentOf_leader hfirst
  obtain ⟨rest', hrest'⟩ := h.componentOf_leader hsecond
  rw [hrest, hrest', List.map_cons, List.map_cons]
  exact List.Lex.rel hlt

/-- A group of one type is a type with an edge to itself that is on no longer
circle. -/
theorem singleton_mem_iff (h : graph.WellFormed size) (a : TypeId) :
    [a] ∈ (graph.components size).filter graph.isCyclic ↔
      graph.dependsOn a a = true ∧ ∀ b, graph.Leads a b → graph.Leads b a → b = a := by
  constructor
  · intro hgroup
    refine ⟨(List.mem_filter.1 hgroup).2, fun b hab hba => List.mem_singleton.1 ?_⟩
    exact ((h.mem_group hgroup List.mem_cons_self).2 b).2 (.of_leads hab hba)
  · rintro ⟨hedge, halone⟩
    obtain ⟨group, hgroup, ha⟩ := h.exists_group (.single hedge)
    obtain ⟨hself, hmem⟩ := h.mem_group hgroup ha
    have hall : ∀ b ∈ group, b = a := fun b hb => by
      by_cases hb' : a = b
      · exact hb'.symm
      · have hmutual := (hmem b).1 hb
        exact halone b (hmutual.leads hb') (hmutual.symm.leads (Ne.symm hb'))
    obtain ⟨leader, -, -, hleader⟩ := h.mem_cyclic_components.1 hgroup
    have hascending := h.componentOf_ascending leader
    rw [← hleader] at hascending
    match group with
    | [] => cases ha
    | [x] => exact hall x List.mem_cons_self ▸ hgroup
    | x :: y :: rest =>
        have hlt := (List.pairwise_cons.1 hascending).1 y List.mem_cons_self
        rw [hall x List.mem_cons_self, hall y (by simp)] at hlt
        exact (Nat.lt_irrefl _ hlt).elim

/-- The listed components are the groups of types on circles. -/
theorem circularGroups_components (h : graph.WellFormed size) :
    graph.CircularGroups ((graph.components size).filter graph.isCyclic) where
  nonempty hempty := by
    obtain ⟨leader, hleader, -, hgroup⟩ := h.mem_cyclic_components.1 hempty
    obtain ⟨rest, hrest⟩ := h.componentOf_leader hleader
    rw [hrest] at hgroup
    contradiction
  disjoint := h.groups_disjoint
  covered_iff a := by
    constructor
    · rintro ⟨group, hgroup, ha⟩
      exact (h.mem_group hgroup ha).1
    · exact h.exists_group
  together_iff a b hne := by
    constructor
    · rintro ⟨group, hgroup, ha, hb⟩
      have hmutual := ((h.mem_group hgroup ha).2 b).1 hb
      exact ⟨hmutual.leads hne, hmutual.symm.leads hne.symm⟩
    · rintro ⟨hab, hba⟩
      obtain ⟨group, hgroup, ha⟩ := h.exists_group (hab.trans hba)
      exact ⟨group, hgroup, ha, ((h.mem_group hgroup ha).2 b).2 (.of_leads hab hba)⟩
  alone_iff := h.singleton_mem_iff
  group_ascending group hgroup := by
    obtain ⟨leader, -, -, rfl⟩ := h.mem_cyclic_components.1 hgroup
    rw [List.pairwise_map]
    exact h.componentOf_ascending leader
  groups_ascending := h.groups_ascending
  eq_nil_iff := by
    constructor
    · intro hnil a ha
      obtain ⟨group, hgroup, -⟩ := h.exists_group ha
      rw [hnil] at hgroup
      cases hgroup
    · intro hacyclic
      refine List.eq_nil_iff_forall_not_mem.2 fun group hgroup => ?_
      obtain ⟨leader, -, hleads, -⟩ := h.mem_cyclic_components.1 hgroup
      exact hacyclic leader hleads

end WellFormed

end DependencyGraph

namespace Model

variable {model : Model}

/-! ## The graph of a model -/

/-- The nodes of the graph are the visible types. -/
theorem Numbered.mem_nodes (h : model.Numbered) {ty : TypeId} :
    ty ∈ model.dependencyGraph.nodes ↔ model.isVisible ty = true := by
  rw [isVisible, Option.any_eq_true, dependencyGraph, List.mem_map]
  constructor
  · rintro ⟨node, hnode, rfl⟩
    obtain ⟨hmem, haccepts⟩ := List.mem_filter.1 hnode
    exact ⟨node, h.type?_id hmem, haccepts⟩
  · rintro ⟨node, hnode, haccepts⟩
    exact ⟨node, List.mem_filter.2 ⟨mem_types_of_type? hnode, haccepts⟩, h ty node hnode⟩

/-- The edges from a type start there and lead to visible types that its
dependencies point at. -/
theorem of_mem_edgesFrom {ty : TypeId} {edge : Edge} (h : edge ∈ model.edgesFrom ty) :
    edge.source = ty ∧ model.isVisible edge.target = true ∧
      ∃ reference ∈ model.dependencies ty, model.resolve reference = some edge.target := by
  revert edge
  rw [edgesFrom]
  refine List.foldlRecOn (motive := fun edges => ∀ {edge : Edge}, edge ∈ edges →
    edge.source = ty ∧ model.isVisible edge.target = true ∧
      ∃ reference ∈ model.dependencies ty, model.resolve reference = some edge.target)
    _ _ ?_ fun edges hedges reference hreference => ?_
  · intro edge hedge
    cases hedge
  · cases hresolve : model.resolve reference with
    | none => exact hedges
    | some target =>
        dsimp only
        split
        · rename_i hnew
          intro edge hedge
          obtain hedge | hedge := List.mem_append.1 hedge
          · exact hedges hedge
          · obtain rfl := List.mem_singleton.1 hedge
            exact ⟨rfl, (Bool.and_eq_true_iff.1 hnew).1, reference, hreference, hresolve⟩
        · exact hedges

/-- The dependency graph is well-formed: its nodes are different and in the model, and
its edges join nodes. -/
theorem Numbered.dependencyGraph_wellFormed (h : model.Numbered) :
    model.dependencyGraph.WellFormed model.types.size := by
  have hedge {a b : TypeId} (hdepends : model.dependencyGraph.dependsOn a b = true) :
      a ∈ model.dependencyGraph.nodes ∧ b ∈ model.dependencyGraph.nodes := by
    rw [DependencyGraph.dependsOn, List.any_eq_true] at hdepends
    obtain ⟨edge, hmem, heq⟩ := hdepends
    rw [Bool.and_eq_true, beq_iff_eq, beq_iff_eq] at heq
    obtain ⟨ty, hty, hfrom⟩ := List.mem_flatMap.1 hmem
    obtain ⟨hsource, htarget, -⟩ := of_mem_edgesFrom hfrom
    rw [← heq.1, ← heq.2, hsource]
    exact ⟨hty, h.mem_nodes.2 htarget⟩
  have hids : model.typeIds.Pairwise fun a b => a.index < b.index := by
    rw [h.typeIds_eq, List.pairwise_map]
    exact List.pairwise_lt_range
  exact {
    ascending := hids.sublist (List.filter_sublist.map _)
    bounded := fun ty hty => index_lt_of_isVisible (h.mem_nodes.1 hty)
    source_mem := fun hdepends => (hedge hdepends).1
    target_mem := fun hdepends => (hedge hdepends).2 }

/-- **Circles**: the groups that a model lists are those of the types that
depend on each other in a circle. -/
theorem Reachable.circularGroups (h : model.Reachable) :
    model.dependencyGraph.CircularGroups model.dependencyCycles :=
  h.numbered.dependencyGraph_wellFormed.circularGroups_components

/-- Two classes that each extend the other. -/
theorem circularGroups_of_two_parents :
    let model := (Model.empty 0 .empty).run [
      .addType .classType "Left", .addType .classType "Right",
      .setParent ⟨0⟩ ⟨.classType, "Right", some ⟨1⟩⟩, .setParent ⟨1⟩ ⟨.classType, "Left", some ⟨0⟩⟩]
    model.Reachable ∧ model.dependencyGraph.dependsOn ⟨0⟩ ⟨1⟩ = true ∧
      model.dependencyGraph.dependsOn ⟨1⟩ ⟨0⟩ = true ∧
      model.dependencyGraph.CircularGroups model.dependencyCycles :=
  ⟨.run _ (.empty 0 .empty), by decide, by decide,
    Reachable.circularGroups (.run _ (.empty 0 .empty))⟩

end Model

end TypeGraph
