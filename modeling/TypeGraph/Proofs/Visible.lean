import TypeGraph.Proofs.Cycles
import TypeGraph.Proofs.Filing

/-!
# TypeGraph.Proofs.Visible

Answers read off the handles of the visible types.  Where every type is where
its handle says, a question about all types is a question about their handles:

* `Numbered.childClasses_eq`, `Numbered.implementors_eq` — who extends or
  implements a type, picked from the visible types in the order of creation;
* `Numbered.dependencyGraph_eq` — the visible types are the nodes of the graph;
* `Numbered.packageDependencies_eq` — what a package depends on is read off
  the types that it lists;
* `Numbered.dependsOn_iff` — the graph has the edges that lead away from the
  visible types.
-/

namespace TypeGraph.Model

variable {model : Model}

/-- The visible types, in the order of creation. -/
def visibleTypes (model : Model) : List TypeId := model.typeIds.filter model.isVisible

/-- Without filters, every type is visible. -/
theorem isVisible_of_filters_empty (h : model.filters = .empty) (ty : TypeId) :
    model.isVisible ty = (model.type? ty).isSome := by
  have haccepts (node : TypeNode) : model.accepts node = true := by
    rw [accepts, h]
    rfl
  rw [isVisible, funext haccepts]
  cases model.type? ty <;> rfl

namespace Numbered

/-- A type of the model is visible if the filters accept it. -/
theorem isVisible_id (h : model.Numbered) {node : TypeNode} (hnode : node ∈ model.types.toList) :
    model.isVisible node.id = model.accepts node := by
  simp [isVisible, h.type?_id hnode]

/-- Choosing among the visible types by node or by handle. -/
theorem map_filter_accepts (h : model.Numbered) (test : TypeId → Bool) :
    (model.types.toList.filter fun node => test node.id && model.accepts node).map (·.id) =
      model.visibleTypes.filter test := by
  rw [visibleTypes, typeIds, List.filter_filter, List.filter_map]
  congr 1
  refine List.filter_congr fun node hnode => ?_
  simp [h.isVisible_id hnode]

/-- Types that are found by a test on their handles. -/
theorem map_othersVisible (h : model.Numbered) (ty : TypeId) (test : TypeId → Bool) :
    ((model.othersVisible ty).filter fun node => test node.id).map (·.id) =
      model.visibleTypes.filter fun x => x != ty && test x := by
  rw [← h.map_filter_accepts, othersVisible, List.filter_filter]
  congr 2
  funext node
  cases test node.id <;> simp

/-- Children are the other visible types whose parent is the type. -/
theorem childClasses_eq (h : model.Numbered) (ty : TypeId) :
    model.childClasses ty =
      model.visibleTypes.filter fun x => x != ty && model.declaredParent x == some ty :=
  h.map_othersVisible ty fun x => model.declaredParent x == some ty

/-- Implementors are the other visible types with the interface among theirs. -/
theorem implementors_eq (h : model.Numbered) (interface : TypeId) :
    model.implementors interface =
      model.visibleTypes.filter fun x =>
        x != interface && (model.interfaces x).contains interface :=
  h.map_othersVisible interface fun x => (model.interfaces x).contains interface

/-- The types that the filters accept are the visible ones. -/
theorem map_accepted (h : model.Numbered) :
    (model.types.toList.filter model.accepts).map (·.id) = model.visibleTypes := by
  simpa using h.map_filter_accepts fun _ => true

/-- The graph has the visible types, and the edges of each. -/
theorem dependencyGraph_eq (h : model.Numbered) :
    model.dependencyGraph = ⟨model.visibleTypes, model.visibleTypes.flatMap model.edgesFrom⟩ := by
  rw [dependencyGraph, h.map_accepted]

/-- The visible types are listed. -/
theorem mem_visibleTypes (h : model.Numbered) {ty : TypeId} :
    ty ∈ model.visibleTypes ↔ model.isVisible ty = true := by
  rw [← h.mem_nodes, h.dependencyGraph_eq]

end Numbered

/-! ## Dependencies -/

/-- What is listed has not been seen before, and everything else is. -/
theorem mem_firstUnseen {α : Type} [DecidableEq α] {seen l : List α} {a : α} :
    a ∈ firstUnseen seen l ↔ a ∉ seen ∧ a ∈ l := by
  induction l generalizing seen with
  | nil => simp [firstUnseen]
  | cons b l ih =>
      rw [firstUnseen]
      split <;> grind

/-- Resolved dependencies are visible. -/
theorem isVisible_of_mem_resolvedDependencies {ty target : TypeId}
    (h : target ∈ model.resolvedDependencies ty) : model.isVisible target = true :=
  (List.mem_filter.1 (mem_firstUnseen.1 h).2).2

/-- A foreign type has none. -/
theorem resolvedDependencies_foreign {ty : TypeId} (h : model.type? ty = none) :
    model.resolvedDependencies ty = [] := by
  simp [resolvedDependencies, dependencies, h, firstUnseen]

/-- Package dependencies are the packages of what the listed types depend on, but for
the package itself. -/
theorem Numbered.packageDependencies_eq (h : model.Numbered) (package : PackageId) :
    model.packageDependencies package = firstUnseen [package]
      (((model.typesIn package).flatMap model.resolvedDependencies).filterMap model.packageOf) := by
  have htypes (types : List TypeId) :
      (types.filterMap model.type?).flatMap (fun node => model.resolvedDependencies node.id) =
        types.flatMap model.resolvedDependencies := by
    induction types with
    | nil => rfl
    | cons ty types ih =>
        cases hty : model.type? ty with
        | none => simp [hty, resolvedDependencies_foreign hty, ih]
        | some node => simp [hty, h ty node hty, ih]
  rw [packageDependencies, packageTypes, typesIn]
  cases model.package? package with
  | none => rfl
  | some node => simp only [htypes]

/-! ## Edges -/

/-- The edges from a type, with one for another reference unless its target is
hidden or has one. -/
def addEdge (model : Model) (ty : TypeId) (edges : List Edge) (reference : TypeReference) :
    List Edge :=
  match model.resolve reference with
  | none => edges
  | some target =>
    if model.isVisible target && !edges.any (·.target == target) then
      edges ++ [⟨ty, target, reference.kind⟩]
    else edges

theorem edgesFrom_eq_foldl (model : Model) (ty : TypeId) :
    model.edgesFrom ty = (model.dependencies ty).foldl (model.addEdge ty) [] := rfl

/-- There is an edge between two types if one of the edges of the first leads to the
second. -/
theorem Numbered.dependsOn_iff (h : model.Numbered) {a b : TypeId} :
    model.dependencyGraph.dependsOn a b = true ↔
      model.isVisible a = true ∧ ∃ edge ∈ model.edgesFrom a, edge.target = b := by
  rw [DependencyGraph.dependsOn, List.any_eq_true, h.dependencyGraph_eq]
  simp only [List.mem_flatMap, Bool.and_eq_true, beq_iff_eq]
  constructor
  · rintro ⟨edge, ⟨ty, hty, hedge⟩, rfl, rfl⟩
    obtain ⟨rfl, -⟩ := of_mem_edgesFrom hedge
    exact ⟨(List.mem_filter.1 hty).2, edge, hedge, rfl⟩
  · rintro ⟨hvisible, edge, hedge, rfl⟩
    exact ⟨edge, ⟨a, h.mem_visibleTypes.2 hvisible, hedge⟩, (of_mem_edgesFrom hedge).1, rfl⟩

/-- Types that depend on each other in a circle are visible. -/
theorem Numbered.isVisible_of_mem_group (h : model.Numbered) {group : List TypeId}
    (hgroup : group ∈ model.dependencyCycles) {ty : TypeId} (hty : ty ∈ group) :
    model.isVisible ty = true := by
  have hwell := h.dependencyGraph_wellFormed
  obtain ⟨hleads, -⟩ := hwell.mem_group hgroup hty
  obtain ⟨next, hedge, -⟩ := Relation.TransGen.head'_iff.1 hleads
  exact h.mem_nodes.1 (hwell.source_mem hedge)

end TypeGraph.Model
