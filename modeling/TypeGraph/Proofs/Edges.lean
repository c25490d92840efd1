import Mathlib.Data.List.Induction
import TypeGraph.Proofs.Answers
import TypeGraph.Proofs.Hiding

/-!
# TypeGraph.Proofs.Edges

The two ways to ask what types depend on.  `resolvedDependencies` lists the visible
targets of a type that have not been seen, and counts the type itself as seen;
`dependencyGraph` adds an edge unless there is one to the target, and has edges from a
type to itself.

* `map_target_edgesTo` — the edges from a type lead to its visible targets, each once
  and by first occurrence;
* `kind_of_mem_edgesTo` — an edge has the kind of the first reference to its target;
* `Numbered.graphShowsDependencies` — the graph shows what types depend on, and where it
  shows more, the type itself.
-/

namespace TypeGraph.Model

variable {model : Model}

/-! ## First occurrences -/

section FirstUnseen

variable {α : Type} [DecidableEq α]

/-- One element more at the end is listed unless it has been seen. -/
theorem firstUnseen_concat (seen l : List α) (a : α) :
    firstUnseen seen (l ++ [a]) =
      firstUnseen seen l ++ if a ∈ seen ∨ a ∈ l then [] else [a] := by
  induction l generalizing seen with
  | nil => simp [firstUnseen]
  | cons b l ih =>
      rw [List.cons_append, firstUnseen, firstUnseen]
      split
      · rename_i hb
        have hsame : a ∈ seen ∨ a ∈ b :: l ↔ a ∈ seen ∨ a ∈ l := by grind
        rw [ih, if_congr hsame rfl rfl]
      · have hsame : a ∈ seen ∨ a ∈ b :: l ↔ a ∈ b :: seen ∨ a ∈ l := by grind
        rw [ih, if_congr hsame rfl rfl, List.cons_append]

/-- To have seen an element beforehand is to leave it out. -/
theorem filter_firstUnseen_nil (a : α) (l : List α) :
    (firstUnseen [] l).filter (· != a) = firstUnseen [a] l := by
  have hseen (b : α) (hb : (b != a) = true) : b ∈ [a] ↔ b ∈ ([] : List α) := by
    simpa using hb
  have hself : (firstUnseen [a] l).filter (· != a) = firstUnseen [a] l := by
    refine List.filter_eq_self.2 fun b hb => ?_
    have hne := (mem_firstUnseen.1 hb).1
    simpa using hne
  rw [← firstUnseen_filter _ hseen, firstUnseen_filter _ fun _ _ => Iff.rfl, hself]

end FirstUnseen

/-! ## Edges from one type -/

/-- The visible types that references point at, in their order. -/
def visibleTargets (model : Model) (references : List TypeReference) : List TypeId :=
  (references.filterMap model.resolve).filter model.isVisible

/-- Whether a reference points at a type. -/
def pointsAt (model : Model) (target : TypeId) (reference : TypeReference) : Bool :=
  model.resolve reference == some target

/-- The edges that some references add, one after another. -/
def edgesTo (model : Model) (ty : TypeId) (references : List TypeReference) : List Edge :=
  references.foldl (model.addEdge ty) []

section EdgesTo

variable {ty target : TypeId} {references : List TypeReference} {reference : TypeReference}

/-- The visible targets are the visible types that some reference points at. -/
theorem mem_visibleTargets :
    target ∈ model.visibleTargets references ↔
      model.isVisible target = true ∧
        ∃ reference ∈ references, model.resolve reference = some target := by
  rw [visibleTargets, List.mem_filter, List.mem_filterMap, and_comm]

/-- One reference more at the end has its target at the end. -/
theorem visibleTargets_concat :
    model.visibleTargets (references ++ [reference]) =
      model.visibleTargets references ++ model.visibleTargets [reference] := by
  rw [visibleTargets, List.filterMap_append, List.filter_append]
  rfl

/-- One reference more at the end adds one edge at most. -/
theorem edgesTo_concat :
    model.edgesTo ty (references ++ [reference]) =
      model.addEdge ty (model.edgesTo ty references) reference := by
  rw [edgesTo, List.foldl_append]
  rfl

/-- One more reference has no visible target, or one that has an edge already, or one
that gets an edge now. -/
theorem addEdge_cases (model : Model) (ty : TypeId) (edges : List Edge)
    (reference : TypeReference) :
    (model.visibleTargets [reference] = [] ∧ model.addEdge ty edges reference = edges) ∨
      ∃ target, model.visibleTargets [reference] = [target] ∧
        model.resolve reference = some target ∧
        (target ∈ edges.map (·.target) ∧ model.addEdge ty edges reference = edges ∨
          target ∉ edges.map (·.target) ∧
            model.addEdge ty edges reference = edges ++ [⟨ty, target, reference.kind⟩]) := by
  rw [visibleTargets, addEdge]
  cases hresolve : model.resolve reference with
  | none => simp [hresolve]
  | some target =>
      have hany : edges.any (·.target == target) = true ↔ target ∈ edges.map (·.target) := by
        simp [List.any_eq_true, List.mem_map]
      cases hvisible : model.isVisible target with
      | false => simp [hresolve, hvisible]
      | true =>
          refine .inr ⟨target, by simp [hresolve, hvisible], rfl, ?_⟩
          by_cases hmet : target ∈ edges.map (·.target)
          · exact .inl ⟨hmet, by simp [hvisible, hany.2 hmet]⟩
          · exact .inr ⟨hmet, by simp [hvisible, Bool.eq_false_iff.2 (mt hany.1 hmet)]⟩

/-- The edges lead to the visible targets, each once and by first occurrence. -/
theorem map_target_edgesTo (model : Model) (ty : TypeId) (references : List TypeReference) :
    (model.edgesTo ty references).map (·.target) =
      firstUnseen [] (model.visibleTargets references) := by
  induction references using List.reverseRecOn with
  | nil => rfl
  | append_singleton references reference ih =>
      rw [edgesTo_concat, visibleTargets_concat]
      obtain ⟨hnone, hedges⟩ | ⟨target, htarget, -, ⟨hmet, hedges⟩ | ⟨hnew, hedges⟩⟩ :=
        model.addEdge_cases ty (model.edgesTo ty references) reference
      · rw [hnone, hedges, ih, List.append_nil]
      · rw [ih, mem_firstUnseen] at hmet
        rw [htarget, hedges, ih, firstUnseen_concat, if_pos (.inr hmet.2), List.append_nil]
      · rw [ih, mem_firstUnseen] at hnew
        have hunmet : ¬ (target ∈ [] ∨ target ∈ model.visibleTargets references) := by
          simpa using hnew
        rw [htarget, hedges, firstUnseen_concat, if_neg hunmet, List.map_append, ih]
        rfl

/-- An edge has the kind of the first reference that points at its target. -/
theorem kind_of_mem_edgesTo {edge : Edge} (h : edge ∈ model.edgesTo ty references) :
    (references.find? (model.pointsAt edge.target)).map (·.kind) = some edge.kind := by
  induction references using List.reverseRecOn with
  | nil => cases h
  | append_singleton references reference ih =>
      have hearlier (hedge : edge ∈ model.edgesTo ty references) :
          ((references ++ [reference]).find? (model.pointsAt edge.target)).map (·.kind) =
            some edge.kind := by
        obtain ⟨first, hfirst, hkind⟩ := Option.map_eq_some_iff.1 (ih hedge)
        rw [List.find?_append, hfirst, Option.some_or, Option.map_some, hkind]
      rw [edgesTo_concat] at h
      obtain ⟨-, hedges⟩ | ⟨target, htarget, hresolve, ⟨-, hedges⟩ | ⟨hnew, hedges⟩⟩ :=
        model.addEdge_cases ty (model.edgesTo ty references) reference
      · exact hearlier (hedges ▸ h)
      · exact hearlier (hedges ▸ h)
      · obtain hedge | hedge := List.mem_append.1 (hedges ▸ h)
        · exact hearlier hedge
        · obtain rfl := List.mem_singleton.1 hedge
          have hnone : references.find? (model.pointsAt target) = none := by
            refine List.find?_eq_none.2 fun other hother hpoints => hnew ?_
            have hvisible : model.isVisible target = true :=
              (mem_visibleTargets.1 (htarget ▸ List.mem_singleton_self target)).1
            rw [map_target_edgesTo, mem_firstUnseen, mem_visibleTargets]
            exact ⟨List.not_mem_nil, hvisible, other, hother, beq_iff_eq.1 hpoints⟩
          have hpoints : model.pointsAt target reference = true := beq_iff_eq.2 hresolve
          rw [List.find?_append, hnone, Option.none_or, List.find?_cons_of_pos hpoints,
            Option.map_some]

end EdgesTo

/-! ## All edges -/

theorem edgesFrom_eq_edgesTo (model : Model) (ty : TypeId) :
    model.edgesFrom ty = model.edgesTo ty (model.dependencies ty) := rfl

/-- Edges lead to the visible types that the references point at. -/
theorem mem_map_target_edgesFrom {ty target : TypeId} :
    target ∈ (model.edgesFrom ty).map (·.target) ↔
      model.isVisible target = true ∧
        ∃ reference ∈ model.dependencies ty, model.resolve reference = some target := by
  rw [edgesFrom_eq_edgesTo, map_target_edgesTo, mem_firstUnseen, mem_visibleTargets]
  exact and_iff_right List.not_mem_nil

namespace Numbered

variable (h : model.Numbered)
include h

/-- Of all edges, those with a visible source are the ones that lead away from it. -/
theorem filter_edges {ty : TypeId} (hvisible : model.isVisible ty = true) :
    model.dependencyGraph.edges.filter (·.source == ty) = model.edgesFrom ty := by
  have hmem := h.mem_visibleTypes.2 hvisible
  have honce : model.visibleTypes.filter (· == ty) = [ty] := by
    rw [List.filter_beq, List.count_eq_one_of_mem h.nodup_visibleTypes hmem, List.replicate_one]
  have hsources :
      model.visibleTypes.flatMap (fun x => (model.edgesFrom x).filter (·.source == ty)) =
        (model.visibleTypes.filter (· == ty)).flatMap model.edgesFrom := by
    refine (flatMap_filter (fun x _ hx => ?_) fun x _ hx => ?_).symm
    · refine (List.filter_eq_self.2 fun edge hedge => ?_).symm
      rw [(of_mem_edgesFrom hedge).1, hx]
    · refine List.filter_eq_nil_iff.2 fun edge hedge => ?_
      rw [(of_mem_edgesFrom hedge).1, hx]
      exact Bool.false_ne_true
  rw [h.dependencyGraph_eq, List.filter_flatMap, hsources, honce, List.flatMap_singleton]

/-- No two edges have the same ends. -/
theorem nodup_ends :
    (model.dependencyGraph.edges.map fun edge => (edge.source, edge.target)).Nodup := by
  have hpairs (ty : TypeId) : (model.edgesFrom ty).map (fun edge => (edge.source, edge.target)) =
      ((model.edgesFrom ty).map (·.target)).map (Prod.mk ty) := by
    rw [List.map_map]
    exact List.map_congr_left fun edge hedge => by rw [(of_mem_edgesFrom hedge).1]; rfl
  rw [h.dependencyGraph_eq, List.map_flatMap, List.nodup_flatMap]
  constructor
  · intro ty _
    rw [hpairs, edgesFrom_eq_edgesTo, map_target_edgesTo]
    exact (nodup_firstUnseen _ _).map fun _ _ heq => (Prod.mk.inj heq).2
  · refine h.nodup_visibleTypes.imp fun hne ends hends hends' => ?_
    obtain ⟨first, hfirst, rfl⟩ := List.mem_map.1 hends
    obtain ⟨second, hsecond, heq⟩ := List.mem_map.1 hends'
    have hsources : second.source = first.source := (Prod.mk.inj heq).1
    rw [(of_mem_edgesFrom hfirst).1, (of_mem_edgesFrom hsecond).1] at hsources
    exact hne hsources.symm

/-- There is an edge where a visible type refers to a visible type. -/
theorem dependsOn_iff_pointsAt {a b : TypeId} :
    model.dependencyGraph.dependsOn a b = true ↔
      model.isVisible a = true ∧ model.isVisible b = true ∧
        ∃ reference ∈ model.dependencies a, model.resolve reference = some b := by
  rw [h.dependsOn_iff, ← mem_map_target_edgesFrom, List.mem_map]

end Numbered

/-- The graph shows for each visible type what the type depends on. -/
structure GraphShowsDependencies (model : Model) (graph : DependencyGraph) : Prop where
  /-- The nodes are the visible types, in the order of creation. -/
  nodes : graph.nodes =
    ((List.range model.types.size).map TypeId.mk).filter model.isVisible
  /-- But for the type itself, the edges lead to its dependencies, in their order. -/
  targets : ∀ ty, model.isVisible ty = true →
    ((graph.edges.filter (·.source == ty)).map (·.target)).filter (· != ty) =
      model.resolvedDependencies ty
  itself_iff : ∀ ty, model.isVisible ty = true →
    (graph.dependsOn ty ty = true ↔
      ∃ reference ∈ model.dependencies ty, model.resolve reference = some ty)
  /-- There is one edge at most from one type to another. -/
  single : (graph.edges.map fun edge => (edge.source, edge.target)).Nodup
  /-- An edge has the kind of the first reference that points at its target. -/
  kind : ∀ edge ∈ graph.edges,
    ((model.dependencies edge.source).find? fun reference =>
      model.resolve reference == some edge.target).map (·.kind) = some edge.kind
  dependsOn_iff : ∀ source target, graph.dependsOn source target = true ↔
    model.isVisible source = true ∧ model.isVisible target = true ∧
      ∃ reference ∈ model.dependencies source, model.resolve reference = some target

/-- The dependency graph shows the dependencies, clause by clause. -/
theorem Numbered.graphShowsDependencies (h : model.Numbered) :
    model.GraphShowsDependencies model.dependencyGraph where
  nodes := by
    rw [h.dependencyGraph_eq, visibleTypes, h.typeIds_eq]
  targets ty hvisible := by
    rw [h.filter_edges hvisible, edgesFrom_eq_edgesTo, map_target_edgesTo, filter_firstUnseen_nil]
    rfl
  itself_iff ty hvisible := by
    rw [h.dependsOn_iff_pointsAt, and_iff_right hvisible, and_iff_right hvisible]
  single := h.nodup_ends
  kind edge hedge := by
    rw [h.dependencyGraph_eq, List.mem_flatMap] at hedge
    obtain ⟨ty, -, hfrom⟩ := hedge
    obtain rfl := (of_mem_edgesFrom hfrom).1
    exact kind_of_mem_edgesTo hfrom
  dependsOn_iff _ _ := h.dependsOn_iff_pointsAt

end TypeGraph.Model
