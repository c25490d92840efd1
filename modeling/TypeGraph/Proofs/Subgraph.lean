import TypeGraph.Proofs.Hiding

/-!
# TypeGraph.Proofs.Subgraph

What stricter filters leave of the dependency graph and of the circles in it:

* `Numbered.dependencyGraph_withFilters` — the graph is the one under the more
  lenient filters, restricted to the types that are still visible;
* `WellFormed.exists_group_of_within` — with fewer edges, a circle is still one
  within the circle that it was part of before;
* `Reachable.narrows_unfiltered` — so a filter never makes a circle and never
  joins two groups of types.
-/

namespace TypeGraph

namespace DependencyGraph

variable {graph part whole : DependencyGraph} {size size' : Nat}

/-- The graph of the nodes that the test keeps and of the edges between them. -/
def induced (graph : DependencyGraph) (keep : TypeId → Bool) : DependencyGraph :=
  ⟨graph.nodes.filter keep, graph.edges.filter fun edge => keep edge.source && keep edge.target⟩

/-- Every edge of the first graph leads where one of the second graph leads. -/
def Within (part whole : DependencyGraph) : Prop :=
  ∀ source target, part.dependsOn source target = true → whole.dependsOn source target = true

/-- The induced graph is within the graph. -/
theorem induced_within (graph : DependencyGraph) (keep : TypeId → Bool) :
    (graph.induced keep).Within graph := by
  intro source target hdepends
  rw [dependsOn, List.any_eq_true] at hdepends ⊢
  obtain ⟨edge, hedge, hends⟩ := hdepends
  exact ⟨edge, (List.mem_filter.1 hedge).1, hends⟩

/-- What leads on in a part leads on in the whole. -/
theorem Within.leads (h : part.Within whole) {a b : TypeId} (hleads : part.Leads a b) :
    whole.Leads a b :=
  Relation.TransGen.mono h _ _ hleads

/-- Types of one component in a part are in one component of the whole. -/
theorem Within.mutual (h : part.Within whole) {a b : TypeId} (hmutual : part.Mutual a b) :
    whole.Mutual a b :=
  ⟨Relation.ReflTransGen.mono h _ _ hmutual.1, Relation.ReflTransGen.mono h _ _ hmutual.2⟩

namespace WellFormed

/-- Types that are in one group stay together where there are more edges. -/
theorem mem_group_of_within (hpart : part.WellFormed size) (hwhole : whole.WellFormed size')
    (h : part.Within whole) {group other : List TypeId}
    (hgroup : group ∈ (part.components size).filter part.isCyclic)
    (hother : other ∈ (whole.components size').filter whole.isCyclic)
    {a b : TypeId} (ha : a ∈ group) (hb : b ∈ group) (ha' : a ∈ other) : b ∈ other := by
  have hmutual := ((hpart.mem_group hgroup ha).2 b).1 hb
  exact ((hwhole.mem_group hother ha').2 b).2 (h.mutual hmutual)

/-- A group lies in a group of any graph that has its edges. -/
theorem exists_group_of_within (hpart : part.WellFormed size) (hwhole : whole.WellFormed size')
    (h : part.Within whole) {group : List TypeId}
    (hgroup : group ∈ (part.components size).filter part.isCyclic) :
    ∃ other ∈ (whole.components size').filter whole.isCyclic, group ⊆ other := by
  have hne : group ≠ [] := fun heq =>
    hpart.circularGroups_components.nonempty (heq ▸ hgroup)
  obtain ⟨a, ha⟩ := List.exists_mem_of_ne_nil group hne
  obtain ⟨other, hother, ha'⟩ := hwhole.exists_group (h.leads (hpart.mem_group hgroup ha).1)
  exact ⟨other, hother, fun b hb =>
    mem_group_of_within hpart hwhole h hgroup hother ha hb ha'⟩

end WellFormed

end DependencyGraph

namespace Model

variable {model : Model} {strict lenient : Filters}

/-! ## The graph under stricter filters -/

/-- An edge to a hidden type is no obstacle to others, so it does not matter
whether it is left out at once or in the end. -/
theorem addEdge_withFilters (h : strict.StricterThan lenient) (ty : TypeId) (edges : List Edge)
    (reference : TypeReference) :
    (model.withFilters strict).addEdge ty
        (edges.filter fun edge => (model.withFilters strict).isVisible edge.target) reference =
      ((model.withFilters lenient).addEdge ty edges reference).filter fun edge =>
        (model.withFilters strict).isVisible edge.target := by
  have hresolve : (model.withFilters strict).resolve reference =
      (model.withFilters lenient).resolve reference := rfl
  rw [addEdge, addEdge, hresolve]
  cases (model.withFilters lenient).resolve reference with
  | none => rfl
  | some target =>
      dsimp only
      cases hvisible : (model.withFilters strict).isVisible target with
      | false =>
          rw [Bool.false_and, if_neg Bool.false_ne_true]
          split <;> simp [hvisible]
      | true =>
          have hknown : ((edges.filter fun edge =>
              (model.withFilters strict).isVisible edge.target).any (·.target == target)) =
                edges.any (·.target == target) := by
            rw [Bool.eq_iff_iff, List.any_eq_true, List.any_eq_true]
            simp only [List.mem_filter, beq_iff_eq]
            constructor
            · rintro ⟨edge, ⟨hedge, -⟩, heq⟩
              exact ⟨edge, hedge, heq⟩
            · rintro ⟨edge, hedge, heq⟩
              exact ⟨edge, ⟨hedge, heq ▸ hvisible⟩, heq⟩
          rw [hknown, isVisible_of_stricterThan h hvisible]
          split <;> simp [hvisible]

/-- Edges under the stricter filters: those whose targets stay visible. -/
theorem edgesFrom_withFilters (h : strict.StricterThan lenient) (ty : TypeId) :
    (model.withFilters strict).edgesFrom ty =
      ((model.withFilters lenient).edgesFrom ty).filter fun edge =>
        (model.withFilters strict).isVisible edge.target := by
  have hdependencies : (model.withFilters strict).dependencies ty =
      (model.withFilters lenient).dependencies ty := rfl
  rw [edgesFrom_eq_foldl, edgesFrom_eq_foldl, hdependencies]
  rw [← List.foldl_hom
    (List.filter fun edge : Edge => (model.withFilters strict).isVisible edge.target)
    (addEdge_withFilters h ty), List.filter_nil]

/-- The graph under stricter filters is induced by the types still visible. -/
theorem Numbered.dependencyGraph_withFilters (hnumbered : model.Numbered)
    (h : strict.StricterThan lenient) :
    (model.withFilters strict).dependencyGraph =
      (model.withFilters lenient).dependencyGraph.induced (model.withFilters strict).isVisible := by
  rw [(hnumbered.withFilters strict).dependencyGraph_eq,
    (hnumbered.withFilters lenient).dependencyGraph_eq, DependencyGraph.induced,
    visibleTypes_withFilters h, List.filter_flatMap]
  congr 1
  refine flatMap_filter (fun ty _ hvisible => ?_) fun ty _ hhidden => ?_
  · rw [edgesFrom_withFilters h]
    refine List.filter_congr fun edge hedge => ?_
    rw [(of_mem_edgesFrom hedge).1, hvisible, Bool.true_and]
  · rw [List.filter_eq_nil_iff]
    intro edge hedge
    rw [(of_mem_edgesFrom hedge).1, hhidden, Bool.false_and]
    exact Bool.false_ne_true

/-! ## Circles under stricter filters -/

/-- The first model shows part of the dependencies of the second one, and no
circles but those that are there. -/
structure Narrows (narrow wide : Model) : Prop where
  /-- The nodes and edges are those between visible types, in the same order
  and of the same kinds. -/
  graph : narrow.dependencyGraph = wide.dependencyGraph.induced narrow.isVisible
  /-- Each group lies in a group. -/
  contained : ∀ group ∈ narrow.dependencyCycles, ∃ other ∈ wide.dependencyCycles, group ⊆ other
  /-- No group holds types of two groups. -/
  apart : ∀ group ∈ narrow.dependencyCycles, ∀ other ∈ wide.dependencyCycles,
    ∀ a ∈ group, ∀ b ∈ group, a ∈ other → b ∈ other
  /-- There is no circle where there was none. -/
  acyclic : wide.dependencyCycles = [] → narrow.dependencyCycles = []

/-- The graph under the stricter filters is the induced one, and its groups are within
the groups of the other. -/
theorem Numbered.narrows (hnumbered : model.Numbered) (h : strict.StricterThan lenient) :
    (model.withFilters strict).Narrows (model.withFilters lenient) := by
  have hgraph := hnumbered.dependencyGraph_withFilters h
  have hstrict := (hnumbered.withFilters strict).dependencyGraph_wellFormed
  have hlenient := (hnumbered.withFilters lenient).dependencyGraph_wellFormed
  have hwithin : (model.withFilters strict).dependencyGraph.Within
      (model.withFilters lenient).dependencyGraph :=
    hgraph ▸ DependencyGraph.induced_within _ _
  have hcontained : ∀ group ∈ (model.withFilters strict).dependencyCycles,
      ∃ other ∈ (model.withFilters lenient).dependencyCycles, group ⊆ other :=
    fun _ hgroup => hstrict.exists_group_of_within hlenient hwithin hgroup
  exact {
    graph := hgraph
    contained := hcontained
    apart := fun _ hgroup _ hother _ ha _ hb ha' =>
      hstrict.mem_group_of_within hlenient hwithin hgroup hother ha hb ha'
    acyclic := fun hnil => List.eq_nil_iff_forall_not_mem.2 fun group hgroup => by
      obtain ⟨other, hother, -⟩ := hcontained group hgroup
      simp [hnil] at hother }

/-- **Filters and circles**: whatever the filters are, the dependency graph under
them is induced by the visible types, so each group of types lies in a group of
the unfiltered model; and one more filter narrows the groups further. -/
theorem Reachable.narrows_unfiltered (h : model.Reachable) (filters : Filters) :
    (model.withFilters filters).Narrows model.unfiltered ∧
      ∀ filter : Filter,
        (model.withFilters (filters.add filter).2).Narrows (model.withFilters filters) :=
  ⟨h.numbered.narrows filters.stricterThan_empty,
    fun filter => h.numbered.narrows (filters.add_stricterThan filter)⟩

/-- Two classes that each extend the other, one of them not declared in the
sources. -/
theorem narrows_of_hidden_parent :
    let model := (Model.empty 0 .empty).run [
      .addType .classType "Left", .addType .classType "Right", .setUserDefined ⟨0⟩,
      .setParent ⟨0⟩ ⟨.classType, "Right", some ⟨1⟩⟩, .setParent ⟨1⟩ ⟨.classType, "Left", some ⟨0⟩⟩]
    let declared := model.withFilters (.ofList [.userDefined])
    model.Reachable ∧ declared.dependencyGraph = ⟨[⟨0⟩], []⟩ ∧
      model.unfiltered.dependencyGraph =
        ⟨[⟨0⟩, ⟨1⟩], [⟨⟨0⟩, ⟨1⟩, .classType⟩, ⟨⟨1⟩, ⟨0⟩, .classType⟩]⟩ ∧
      declared.Narrows model.unfiltered ∧
        ∀ filter : Filter,
          (model.withFilters ((Filters.ofList [.userDefined]).add filter).2).Narrows declared := by
  intro model declared
  have hreachable : model.Reachable := .run _ (.empty 0 .empty)
  exact ⟨hreachable, by decide, by decide, hreachable.narrows_unfiltered _⟩

end Model

end TypeGraph
