import TypeGraph.Proofs.Edges

/-!
# TypeGraph.Proofs.GrowingGraph

The dependency graph as it grows.  First all visible types get a place, then the
references of each type are followed, and one that leads to a type with a place adds an
edge unless there is one between the two places already.

1. `GrowingGraph.Draws` says which graph has been drawn so far;
2. `Draws.addNode`, `Draws.addReference` — a step draws one node or one edge more, and
   `Draws.foldl_addNode`, `Draws.foldl_addReferences` all of them;
3. `Numbered.draws_growGraph` — in the end the dependency graph has been drawn;
4. `Reachable.dependencyGraph_agrees` — and it shows what the types depend on.

Where an edge is looked for among all edges, `addEdge` looks among those of one type.
The others start elsewhere, so it makes no difference (`any_append_edges`).
-/

namespace TypeGraph

/-- An edge between two places. -/
structure PlacedEdge where
  source : Nat
  target : Nat
  kind : TypeKind
  deriving DecidableEq, Repr

/-- A graph as it grows. -/
structure GrowingGraph where
  /-- The nodes, each at its place. -/
  nodes : Array TypeId
  /-- Where a node is. -/
  places : Std.HashMap TypeId Nat
  /-- The edges, in the order in which they came. -/
  edges : List PlacedEdge

namespace GrowingGraph

def empty : GrowingGraph := ⟨#[], ∅, []⟩

/-- Draws a node behind the others. -/
def addNode (graph : GrowingGraph) (ty : TypeId) : GrowingGraph :=
  { graph with
    nodes := graph.nodes.push ty
    places := graph.places.insert ty graph.nodes.size }

/-- Whether there is an edge from one place to another. -/
def hasEdge (graph : GrowingGraph) (source target : Nat) : Bool :=
  graph.edges.any fun edge => edge.source == source && edge.target == target

/-- Follows a reference of the type at a place: draws an edge if it leads to a node and
there is none to it yet. -/
def addReference (model : Model) (source : Nat) (graph : GrowingGraph)
    (reference : TypeReference) : GrowingGraph :=
  match model.resolve reference with
  | none => graph
  | some target =>
    match graph.places[target]? with
    | none => graph
    | some place =>
      if graph.hasEdge source place then graph
      else { graph with edges := graph.edges ++ [⟨source, place, reference.kind⟩] }

/-- Follows the references of a type, if it has a place. -/
def addReferences (model : Model) (graph : GrowingGraph) (ty : TypeId) : GrowingGraph :=
  match graph.places[ty]? with
  | none => graph
  | some source => (model.dependencies ty).foldl (addReference model source) graph

/-- Whether there is an edge from one type to another. -/
def dependsOn (graph : GrowingGraph) (source target : TypeId) : Bool :=
  match graph.places[source]?, graph.places[target]? with
  | some source, some target => graph.hasEdge source target
  | _, _ => false

end GrowingGraph

/-- Draws the visible types, then follows the references of all types. -/
def Model.growGraph (model : Model) : GrowingGraph :=
  let nodes := (model.types.toList.filter model.accepts).foldl
    (fun graph node => graph.addNode node.id) .empty
  model.types.toList.foldl (fun graph node => graph.addReferences model node.id) nodes

namespace GrowingGraph

variable {model : Model} {graph : GrowingGraph} {drawn : DependencyGraph}

/-! ## What has been drawn -/

/-- The edge between two places stands for the edge between the types there. -/
structure StandsFor (places : Std.HashMap TypeId Nat) (placed : PlacedEdge) (edge : Edge) :
    Prop where
  source : places[edge.source]? = some placed.source
  target : places[edge.target]? = some placed.target
  kind : placed.kind = edge.kind

/-- The nodes and edges that have been drawn so far. -/
structure Draws (graph : GrowingGraph) (drawn : DependencyGraph) : Prop where
  nodes : graph.nodes.toList = drawn.nodes
  places : ∀ (ty : TypeId) (place : Nat),
    graph.places[ty]? = some place ↔ graph.nodes[place]? = some ty
  edges : List.Forall₂ (StandsFor graph.places) graph.edges drawn.edges

namespace Draws

section

variable (h : graph.Draws drawn)
include h

/-- The types that have a place are the nodes. -/
theorem isSome_places_iff {ty : TypeId} : (graph.places[ty]?).isSome ↔ ty ∈ drawn.nodes := by
  rw [← h.nodes, Array.mem_toList_iff, Array.mem_iff_getElem?, Option.isSome_iff_exists]
  exact exists_congr fun place => h.places ty place

/-- Where the nodes are the visible types, these have places. -/
theorem isSome_places_eq (hnodes : ∀ ty, ty ∈ drawn.nodes ↔ model.isVisible ty = true)
    (ty : TypeId) : (graph.places[ty]?).isSome = model.isVisible ty := by
  rw [Bool.eq_iff_iff, h.isSome_places_iff, hnodes]

/-- No two nodes have the same place. -/
theorem eq_of_places {a b : TypeId} {place : Nat} (ha : graph.places[a]? = some place)
    (hb : graph.places[b]? = some place) : a = b := by
  rw [h.places] at ha hb
  exact Option.some_inj.1 (ha.symm.trans hb)

/-- Two nodes have the same place if they are the same type. -/
theorem beq_eq_of_places {a b : TypeId} {place other : Nat}
    (ha : graph.places[a]? = some place) (hb : graph.places[b]? = some other) :
    (place == other) = (a == b) := by
  rw [Bool.eq_iff_iff, beq_iff_eq, beq_iff_eq]
  constructor
  · rintro rfl
    exact h.eq_of_places ha hb
  · rintro rfl
    exact Option.some_inj.1 (ha.symm.trans hb)

/-- There is an edge between two places if there is one between the types there. -/
theorem hasEdge_eq {a b : TypeId} {source target : Nat}
    (ha : graph.places[a]? = some source) (hb : graph.places[b]? = some target) :
    graph.hasEdge source target = drawn.dependsOn a b := by
  have hsource {x : TypeId} {i : Nat} (hx : graph.places[x]? = some i) :=
    h.beq_eq_of_places hx ha
  have htarget {x : TypeId} {i : Nat} (hx : graph.places[x]? = some i) :=
    h.beq_eq_of_places hx hb
  have hedges := h.edges
  rw [hasEdge, DependencyGraph.dependsOn]
  generalize graph.edges = placed, drawn.edges = edges at hedges ⊢
  induction hedges with
  | nil => rfl
  | cons hstands _ ih =>
      rw [List.any_cons, List.any_cons, ih, hsource hstands.source, htarget hstands.target]

end

theorem empty : GrowingGraph.empty.Draws ⟨[], []⟩ where
  nodes := rfl
  places ty place := by simp [GrowingGraph.empty]
  edges := .nil

/-! ## Nodes -/

theorem addNode {nodes : List TypeId} (h : graph.Draws ⟨nodes, []⟩) {ty : TypeId}
    (hnew : ty ∉ nodes) : (graph.addNode ty).Draws ⟨nodes ++ [ty], []⟩ where
  nodes := by
    have hnodes : graph.nodes.toList = nodes := h.nodes
    rw [GrowingGraph.addNode, Array.toList_push, hnodes]
  places x place := by
    have hfree : graph.nodes[place]? ≠ some ty := by
      intro hplace
      have hmem := h.isSome_places_iff.1 (Option.isSome_of_eq_some ((h.places ty place).2 hplace))
      exact hnew hmem
    rw [GrowingGraph.addNode, Std.HashMap.getElem?_insert, Array.getElem?_push]
    by_cases hx : ty = x
    · subst hx
      rw [if_pos (beq_self_eq_true ty)]
      split
      · rename_i hsize
        exact iff_of_true (congrArg some hsize.symm) rfl
      · rename_i hsize
        exact iff_of_false (fun heq => hsize (Option.some_inj.1 heq).symm) hfree
    · rw [if_neg (mt beq_iff_eq.1 hx), h.places]
      split
      · rename_i hsize
        rw [hsize, Array.getElem?_eq_none (Nat.le_refl _)]
        exact iff_of_false nofun fun heq => hx (Option.some_inj.1 heq)
      · rfl
  edges := by
    have hnil : graph.edges = [] := List.forall₂_nil_right_iff.1 h.edges
    rw [GrowingGraph.addNode, hnil]
    exact .nil

theorem foldl_addNode {nodes types : List TypeId} (h : graph.Draws ⟨nodes, []⟩)
    (hnodup : (nodes ++ types).Nodup) :
    (types.foldl GrowingGraph.addNode graph).Draws ⟨nodes ++ types, []⟩ := by
  induction types generalizing graph nodes with
  | nil => rwa [List.append_nil]
  | cons ty types ih =>
      have hnew : ty ∉ nodes := fun hmem =>
        (List.nodup_append.1 hnodup).2.2 ty hmem ty List.mem_cons_self rfl
      rw [List.append_cons] at hnodup ⊢
      exact ih (h.addNode hnew) hnodup

/-! ## Edges -/

section References

variable {nodes : List TypeId} {a : TypeId} {source : Nat} {earlier mine : List Edge}

/-- References add no nodes. -/
theorem places_addReference (reference : TypeReference) :
    (graph.addReference model source reference).places = graph.places := by
  rw [GrowingGraph.addReference]
  split
  · rfl
  · split
    · rfl
    · split <;> rfl

/-- Where the earlier edges start elsewhere, only those of the type itself count. -/
theorem any_append_edges (hearlier : ∀ edge ∈ earlier, edge.source ≠ a)
    (hmine : ∀ edge ∈ mine, edge.source = a) (target : TypeId) :
    DependencyGraph.dependsOn ⟨nodes, earlier ++ mine⟩ a target =
      mine.any (·.target == target) := by
  rw [DependencyGraph.dependsOn, List.any_append]
  have hnone : earlier.any (fun edge => edge.source == a && edge.target == target) = false := by
    rw [List.any_eq_false]
    intro edge hedge
    simp [hearlier edge hedge]
  rw [hnone, Bool.false_or, Bool.eq_iff_iff, List.any_eq_true, List.any_eq_true]
  refine exists_congr fun edge => and_congr_right fun hedge => ?_
  rw [hmine edge hedge, beq_self_eq_true, Bool.true_and]

/-- The edges of a type start at it. -/
theorem source_of_mem_addEdge (hmine : ∀ edge ∈ mine, edge.source = a)
    (reference : TypeReference) : ∀ edge ∈ model.addEdge a mine reference, edge.source = a := by
  obtain ⟨-, hedges⟩ | ⟨target, -, -, ⟨-, hedges⟩ | ⟨-, hedges⟩⟩ :=
    model.addEdge_cases a mine reference
  · rwa [hedges]
  · rwa [hedges]
  · rw [hedges]
    intro edge hedge
    obtain hedge | hedge := List.mem_append.1 hedge
    · exact hmine edge hedge
    · rw [List.mem_singleton.1 hedge]

/-- A reference adds the edge that the specification adds, or none: that there is one
already is seen by its ends. -/
theorem addReference (h : graph.Draws ⟨nodes, earlier ++ mine⟩)
    (hnodes : ∀ ty, ty ∈ nodes ↔ model.isVisible ty = true)
    (hearlier : ∀ edge ∈ earlier, edge.source ≠ a) (hmine : ∀ edge ∈ mine, edge.source = a)
    (ha : graph.places[a]? = some source) (reference : TypeReference) :
    (graph.addReference model source reference).Draws
      ⟨nodes, earlier ++ model.addEdge a mine reference⟩ := by
  rw [GrowingGraph.addReference, Model.addEdge]
  cases hresolve : model.resolve reference with
  | none => exact h
  | some target =>
      dsimp only
      have hvisible := h.isSome_places_eq hnodes target
      cases hplace : graph.places[target]? with
      | none =>
          rw [hplace, Option.isSome_none] at hvisible
          rw [← hvisible, Bool.false_and, if_neg Bool.false_ne_true]
          exact h
      | some place =>
          rw [hplace, Option.isSome_some] at hvisible
          dsimp only
          rw [h.hasEdge_eq ha hplace, any_append_edges hearlier hmine, ← hvisible, Bool.true_and]
          cases hmet : mine.any (·.target == target) with
          | true => exact h
          | false =>
              have hlast : StandsFor graph.places ⟨source, place, reference.kind⟩
                  ⟨a, target, reference.kind⟩ := ⟨ha, hplace, rfl⟩
              rw [if_neg Bool.false_ne_true, Bool.not_false, if_pos rfl, ← List.append_assoc]
              exact ⟨h.nodes, h.places, List.rel_append h.edges (.cons hlast .nil)⟩

/-- The references of a type, one after another. -/
theorem foldl_addReference (hnodes : ∀ ty, ty ∈ nodes ↔ model.isVisible ty = true)
    (hearlier : ∀ edge ∈ earlier, edge.source ≠ a) (references : List TypeReference)
    (h : graph.Draws ⟨nodes, earlier ++ mine⟩) (hmine : ∀ edge ∈ mine, edge.source = a)
    (ha : graph.places[a]? = some source) :
    (references.foldl (GrowingGraph.addReference model source) graph).Draws
      ⟨nodes, earlier ++ references.foldl (model.addEdge a) mine⟩ := by
  induction references generalizing graph mine with
  | nil => exact h
  | cons reference references ih =>
      have hsource : (graph.addReference model source reference).places[a]? = some source := by
        rw [places_addReference, ha]
      exact ih (h.addReference hnodes hearlier hmine ha reference)
        (source_of_mem_addEdge hmine reference) hsource

/-- A type that is no node adds no edges. -/
theorem addReferences (h : graph.Draws ⟨nodes, earlier⟩)
    (hnodes : ∀ ty, ty ∈ nodes ↔ model.isVisible ty = true)
    (hearlier : ∀ edge ∈ earlier, edge.source ≠ a) :
    (graph.addReferences model a).Draws
      ⟨nodes, earlier ++ ([a].filter model.isVisible).flatMap model.edgesFrom⟩ := by
  have hvisible := h.isSome_places_eq hnodes a
  rw [GrowingGraph.addReferences]
  cases ha : graph.places[a]? with
  | none =>
      rw [ha, Option.isSome_none] at hvisible
      rw [List.filter_singleton, ← hvisible]
      simpa using h
  | some source =>
      rw [ha, Option.isSome_some] at hvisible
      rw [List.filter_singleton, ← hvisible]
      have hdraws : graph.Draws ⟨nodes, earlier ++ []⟩ := by rwa [List.append_nil]
      have hall := foldl_addReference hnodes hearlier (model.dependencies a) hdraws nofun ha
      simpa [Model.edgesFrom_eq_foldl] using hall

theorem foldl_addReferences (hnodes : ∀ ty, ty ∈ nodes ↔ model.isVisible ty = true)
    {types : List TypeId} (h : graph.Draws ⟨nodes, earlier⟩) (hnodup : types.Nodup)
    (hearlier : ∀ edge ∈ earlier, edge.source ∉ types) :
    (types.foldl (GrowingGraph.addReferences model) graph).Draws
      ⟨nodes, earlier ++ (types.filter model.isVisible).flatMap model.edgesFrom⟩ := by
  induction types generalizing graph earlier with
  | nil => simpa using h
  | cons a types ih =>
      have hnext := h.addReferences hnodes (a := a) fun edge hedge heq =>
        hearlier edge hedge (heq ▸ List.mem_cons_self)
      have hfirst : ∀ edge ∈ earlier ++ ([a].filter model.isVisible).flatMap model.edgesFrom,
          edge.source ∉ types := by
        intro edge hedge
        obtain hedge | hedge := List.mem_append.1 hedge
        · exact fun hmem => hearlier edge hedge (List.mem_cons_of_mem a hmem)
        · obtain ⟨x, hx, hfrom⟩ := List.mem_flatMap.1 hedge
          rw [(Model.of_mem_edgesFrom hfrom).1, List.mem_singleton.1 (List.mem_filter.1 hx).1]
          exact (List.nodup_cons.1 hnodup).1
      have hrest := ih hnext (List.nodup_cons.1 hnodup).2 hfirst
      rwa [List.append_assoc, ← List.flatMap_append, ← List.filter_append,
        List.singleton_append] at hrest

end References

end Draws

/-- Where edges lead from node to node, it depends on the types alone what depends on
what. -/
theorem Draws.dependsOn_eq (h : graph.Draws drawn)
    (hinside : ∀ {a b}, drawn.dependsOn a b = true → a ∈ drawn.nodes ∧ b ∈ drawn.nodes)
    (a b : TypeId) : graph.dependsOn a b = drawn.dependsOn a b := by
  rw [GrowingGraph.dependsOn]
  split
  · rename_i source target ha hb
    exact h.hasEdge_eq ha hb
  · rename_i hplaceless
    symm
    rw [Bool.eq_false_iff]
    intro hdepends
    obtain ⟨hsource, htarget⟩ := hinside hdepends
    obtain ⟨source, ha⟩ := Option.isSome_iff_exists.1 (h.isSome_places_iff.2 hsource)
    obtain ⟨target, hb⟩ := Option.isSome_iff_exists.1 (h.isSome_places_iff.2 htarget)
    exact hplaceless source target ha hb

end GrowingGraph

namespace Model

variable {model : Model}

/-- Nodes and references are drawn by handle. -/
theorem Numbered.growGraph_eq (h : model.Numbered) :
    model.growGraph = model.typeIds.foldl (GrowingGraph.addReferences model)
      (model.visibleTypes.foldl GrowingGraph.addNode .empty) := by
  rw [growGraph, ← h.map_accepted, typeIds, List.foldl_map, List.foldl_map]

/-- The model draws its dependency graph. -/
theorem Numbered.draws_growGraph (h : model.Numbered) :
    model.growGraph.Draws model.dependencyGraph := by
  have hplaced := GrowingGraph.Draws.empty.foldl_addNode h.nodup_visibleTypes
  rw [h.growGraph_eq, h.dependencyGraph_eq]
  exact hplaced.foldl_addReferences (fun _ => h.mem_visibleTypes) h.nodup_typeIds nofun

/-- **Dependency graph**: the graph that grows reference by reference is the dependency
graph, it says of any two types the same, and it shows what the types depend on. -/
theorem Reachable.dependencyGraph_agrees (h : model.Reachable) :
    model.growGraph.Draws model.dependencyGraph ∧
      (∀ a b, model.growGraph.dependsOn a b = model.dependencyGraph.dependsOn a b) ∧
        model.GraphShowsDependencies model.dependencyGraph := by
  have hdraws := h.numbered.draws_growGraph
  have hwell := h.numbered.dependencyGraph_wellFormed
  have hagree := hdraws.dependsOn_eq fun hdepends =>
    ⟨hwell.source_mem hdepends, hwell.target_mem hdepends⟩
  exact ⟨hdraws, hagree, h.numbered.graphShowsDependencies⟩

/-- A class that implements itself, an interface that the filters hide and another one,
and also extends that one. -/
theorem dependencyGraph_agrees_of_square :
    let model := (Model.empty 0 (.ofList [.userDefined])).run [
      .addType .interfaceType "Named", .addType .classType "Square",
      .addType .interfaceType "Hidden", .setUserDefined ⟨0⟩, .setUserDefined ⟨1⟩,
      .addInterface ⟨1⟩ ⟨.interfaceType, "Named", some ⟨0⟩⟩,
      .addInterface ⟨1⟩ ⟨.interfaceType, "Hidden", some ⟨2⟩⟩,
      .addInterface ⟨1⟩ ⟨.interfaceType, "Square", some ⟨1⟩⟩,
      .setParent ⟨1⟩ ⟨.classType, "Named", some ⟨0⟩⟩]
    model.Reachable ∧ model.resolvedDependencies ⟨1⟩ = [⟨0⟩] ∧
      model.dependencyGraph =
        ⟨[⟨0⟩, ⟨1⟩], [⟨⟨1⟩, ⟨0⟩, .interfaceType⟩, ⟨⟨1⟩, ⟨1⟩, .interfaceType⟩]⟩ ∧
      model.growGraph.Draws model.dependencyGraph ∧
      (∀ a b, model.growGraph.dependsOn a b = model.dependencyGraph.dependsOn a b) ∧
        model.GraphShowsDependencies model.dependencyGraph := by
  intro model
  have hreachable : model.Reachable := .run _ (.empty 0 (.ofList [.userDefined]))
  exact ⟨hreachable, by decide, by decide, hreachable.dependencyGraph_agrees⟩

end Model

end TypeGraph
