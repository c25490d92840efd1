import Std.Data.HashMap
import TypeGraph.Dependency

/-!
# TypeGraph.Cycle

Groups of types that depend on each other in a circle: the strongly connected
components of the dependency graph that have an edge inside.

The component of a type is what it reaches and what reaches it.  Both are
found by one walk each, along the edges and against them.
-/

namespace TypeGraph

/-- For each type, where a step from it may lead. -/
abbrev Adjacency := Std.HashMap TypeId (List TypeId)

namespace Adjacency

/-- The steps that `ends` reads off the edges, in their order. -/
def ofEdges (ends : Edge → TypeId × TypeId) (edges : List Edge) : Adjacency :=
  edges.foldr (fun edge adjacency =>
    let (source, target) := ends edge
    adjacency.insert source (target :: adjacency.getD source [])) ∅

/-- Where a step from `ty` may lead. -/
def next (adjacency : Adjacency) (ty : TypeId) : List TypeId := adjacency.getD ty []

/-- What can be reached from `pending` and has not been visited, added to
what has been. -/
def reach (adjacency : Adjacency) (size : Nat) :
    List TypeId → Std.HashSet TypeId → Std.HashSet TypeId
  | [], visited => visited
  | ty :: pending, visited =>
    if _h : ty.index < size && !visited.contains ty then
      reach adjacency size (adjacency.next ty ++ pending) (visited.insert ty)
    else reach adjacency size pending visited
termination_by pending visited => (unvisited size visited, pending.length)
decreasing_by
  all_goals simp_wf
  · simp only [Bool.and_eq_true, decide_eq_true_eq, Bool.not_eq_true'] at _h
    exact Prod.Lex.left _ _ (unvisited_insert_lt _h.1 _h.2)
  · exact Prod.Lex.right _ (Nat.lt_succ_self _)

end Adjacency

namespace DependencyGraph

def forward (graph : DependencyGraph) : Adjacency :=
  .ofEdges (fun edge => (edge.source, edge.target)) graph.edges

/-- The steps against the edges. -/
def backward (graph : DependencyGraph) : Adjacency :=
  .ofEdges (fun edge => (edge.target, edge.source)) graph.edges

/-- The components of the nodes from `nodes` on that are not `assigned` to
an earlier one.  `inComponent` tells the nodes of the component of a node. -/
def componentsFrom (component : TypeId → List TypeId) :
    List TypeId → Std.HashSet TypeId → List (List TypeId)
  | [], _ => []
  | ty :: rest, assigned =>
    if assigned.contains ty then componentsFrom component rest assigned
    else
      let group := component ty
      group :: componentsFrom component rest (assigned.insertMany group)

/-- The nodes that a node reaches and that reach it, in the order of the
nodes; `size` bounds the handles of the graph. -/
def component (graph : DependencyGraph) (forward backward : Adjacency) (size : Nat)
    (ty : TypeId) : List TypeId :=
  let below := forward.reach size [ty] ∅
  let above := backward.reach size [ty] ∅
  graph.nodes.filter fun other => below.contains other && above.contains other

/-- The strongly connected components, by their first nodes. -/
def components (graph : DependencyGraph) (size : Nat) : List (List TypeId) :=
  componentsFrom (graph.component graph.forward graph.backward size) graph.nodes ∅

/-- Whether the types of a component depend on each other in a circle. -/
def isCyclic (graph : DependencyGraph) (group : List TypeId) : Bool :=
  match group with
  | [ty] => graph.dependsOn ty ty
  | _ => true

end DependencyGraph

/-- The groups of visible types that depend on each other in a circle, each
ascending, by their first types. -/
def Model.dependencyCycles (model : Model) : List (List TypeId) :=
  let graph := model.dependencyGraph
  (graph.components model.types.size).filter graph.isCyclic

end TypeGraph
