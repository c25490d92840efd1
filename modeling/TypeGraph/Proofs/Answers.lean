import TypeGraph.Proofs.Ancestors
import TypeGraph.Proofs.Packages
import TypeGraph.Proofs.Visible

/-!
# TypeGraph.Proofs.Answers

What may be in an answer.  A reference may remember a type of another model, the
filters may hide what it points at, and what is declared may be cyclic; an answer
nevertheless shows types of this model only, no hidden one, none twice, and not the
type that was asked about (`Reachable.answersOwn`).

Each question has its own guard against that: `interfaces` and
`resolvedDependencies` pick what is visible, `ancestors` goes through visible
parents, and `childClasses`, `implementors` and the graph start from the visible
types of the model.
-/

namespace TypeGraph.Model

variable {model : Model} {ty : TypeId}

/-! ## Visible types -/

/-- The model has the type, and the filters accept it. -/
def Shows (model : Model) (ty : TypeId) : Prop :=
  ∃ node, model.type? ty = some node ∧ model.accepts node = true

/-- A type that an answer may show is a visible one: a hidden handle and a foreign one
are both left out. -/
theorem shows_iff : model.Shows ty ↔ model.isVisible ty = true := by
  rw [Shows, isVisible, Option.any_eq_true]

/-- The list has types that the model shows, none of them twice, and not the given
one. -/
structure ListsOthers (model : Model) (ty : TypeId) (types : List TypeId) : Prop where
  nodup : types.Nodup
  not_mem : ty ∉ types
  shows : ∀ x ∈ types, model.Shows x

/-- No handle is given out twice. -/
theorem Numbered.nodup_typeIds (h : model.Numbered) : model.typeIds.Nodup := by
  rw [h.typeIds_eq]
  exact List.nodup_range.map fun _ _ => TypeId.mk.inj

/-- The visible types are some of all types, so none of them is listed twice. -/
theorem Numbered.nodup_visibleTypes (h : model.Numbered) : model.visibleTypes.Nodup :=
  h.nodup_typeIds.filter _

/-- Whatever is picked from the visible types, but for the type itself. -/
theorem Numbered.listsOthers_filter (h : model.Numbered) (test : TypeId → Bool) :
    model.ListsOthers ty (model.visibleTypes.filter fun x => x != ty && test x) where
  nodup := h.nodup_visibleTypes.filter _
  not_mem := by simp
  shows x hx := by
    rw [List.mem_filter, visibleTypes, List.mem_filter] at hx
    exact shows_iff.2 hx.1.2

/-! ## One question each -/

/-- What has been seen, also by the list itself, is not repeated. -/
theorem nodup_firstUnseen {α : Type} [DecidableEq α] (seen list : List α) :
    (firstUnseen seen list).Nodup := by
  induction list generalizing seen with
  | nil => exact List.nodup_nil
  | cons a list ih =>
      rw [firstUnseen]
      split
      · exact ih seen
      · refine List.nodup_cons.2 ⟨fun hmem => ?_, ih (a :: seen)⟩
        exact (mem_firstUnseen.1 hmem).1 List.mem_cons_self

/-- A chain of parents visits no type twice. -/
theorem nodup_ancestorsFrom (visited : Std.HashSet TypeId) (ty : TypeId) :
    (model.ancestorsFrom visited ty).Nodup := by
  induction visited, ty using ancestorsFrom.induct model with
  | case1 visited ty hparent =>
      rw [ancestorsFrom_of_none hparent]
      exact List.nodup_nil
  | case2 visited ty parent hparent hvisited =>
      rw [ancestorsFrom_of_visited hparent hvisited]
      exact List.nodup_nil
  | case3 visited ty parent hparent hvisited ih =>
      rw [ancestorsFrom_of_new hparent hvisited]
      refine List.nodup_cons.2 ⟨fun hmem => ?_, ih⟩
      exact (inherits_of_mem_ancestorsFrom hmem).2 Std.HashSet.mem_insert_self

/-- The interfaces of a type are other types that the model shows, each listed once. -/
theorem listsOthers_interfaces (model : Model) (ty : TypeId) :
    model.ListsOthers ty (model.interfaces ty) where
  nodup := (nodup_interfaces_and_mem_iff model ty).1
  not_mem hmem := (mem_interfaces.1 hmem).2.2 rfl
  shows _ hmem := shows_iff.2 (mem_interfaces.1 hmem).2.1

theorem listsOthers_ancestors (model : Model) (ty : TypeId) :
    model.ListsOthers ty (model.ancestors ty) where
  nodup := nodup_ancestorsFrom _ ty
  not_mem hmem := (mem_ancestors.1 hmem).2 rfl
  shows _ hmem := shows_iff.2 (mem_ancestors.1 hmem).1.isVisible

theorem listsOthers_resolvedDependencies (model : Model) (ty : TypeId) :
    model.ListsOthers ty (model.resolvedDependencies ty) where
  nodup := nodup_firstUnseen _ _
  not_mem hmem := (mem_firstUnseen.1 hmem).1 List.mem_cons_self
  shows _ hmem := shows_iff.2 (isVisible_of_mem_resolvedDependencies hmem)

/-- A parent that is named is in the model and visible. -/
theorem shows_of_parentClass {parent : TypeId} (h : model.parentClass ty = some parent) :
    model.Shows parent :=
  shows_iff.2 (isVisible_of_extends h)

/-- The packages that a package depends on are found at types, and types point into
the model. -/
theorem PointsInside.of_mem_packageDependencies (h : model.PointsInside)
    {package target : PackageId} (hmem : target ∈ model.packageDependencies package) :
    (model.package? target).isSome := by
  rw [packageDependencies, mem_firstUnseen, List.mem_filterMap] at hmem
  obtain ⟨-, ty, -, hpointer⟩ := hmem
  exact h ty target hpointer

/-! ## All questions -/

/-- All answers are made of what the model has and shows. -/
structure AnswersOwn (model : Model) : Prop where
  interfaces : ∀ ty, model.ListsOthers ty (model.interfaces ty)
  resolvedDependencies : ∀ ty, model.ListsOthers ty (model.resolvedDependencies ty)
  ancestors : ∀ ty, model.ListsOthers ty (model.ancestors ty)
  childClasses : ∀ ty, model.ListsOthers ty (model.childClasses ty)
  implementors : ∀ ty, model.ListsOthers ty (model.implementors ty)
  parentClass : ∀ ty parent, model.parentClass ty = some parent → model.Shows parent
  nodes : ∀ ty ∈ model.dependencyGraph.nodes, model.Shows ty
  edges : ∀ edge ∈ model.dependencyGraph.edges, model.Shows edge.source ∧ model.Shows edge.target
  dependencyCycles : ∀ group ∈ model.dependencyCycles, ∀ ty ∈ group, model.Shows ty
  packageDependencies : ∀ package, ∀ target ∈ model.packageDependencies package,
    (model.package? target).isSome

/-- **Answers** show types of the model that the filters accept, each once and
without the type asked about, whatever the references remember and whatever handle
is asked about. -/
theorem Reachable.answersOwn (h : model.Reachable) : model.AnswersOwn where
  interfaces := listsOthers_interfaces model
  resolvedDependencies := listsOthers_resolvedDependencies model
  ancestors := listsOthers_ancestors model
  childClasses ty := by
    rw [h.numbered.childClasses_eq]
    exact h.numbered.listsOthers_filter _
  implementors ty := by
    rw [h.numbered.implementors_eq]
    exact h.numbered.listsOthers_filter _
  parentClass _ _ hparent := shows_of_parentClass hparent
  nodes ty hty := shows_iff.2 (h.numbered.mem_nodes.1 hty)
  edges edge hedge := by
    rw [h.numbered.dependencyGraph_eq, List.mem_flatMap] at hedge
    obtain ⟨ty, hty, hfrom⟩ := hedge
    obtain ⟨rfl, htarget, -⟩ := of_mem_edgesFrom hfrom
    exact ⟨shows_iff.2 (List.mem_filter.1 hty).2, shows_iff.2 htarget⟩
  dependencyCycles _ hgroup _ hty := shows_iff.2 (h.numbered.isVisible_of_mem_group hgroup hty)
  packageDependencies _ _ hmem := h.pointsInside.of_mem_packageDependencies hmem

/-- A class that remembers an interface of another model, behind a filter that hides
its parent. -/
theorem answersOwn_of_foreign_memo :
    let foreign : TypeReference := ⟨.interfaceType, "Elsewhere", some ⟨9⟩⟩
    let model := (Model.empty 0 (.ofList [.userDefined])).run [
      .addType .classType "Square", .addType .classType "Shape", .addType .interfaceType "Named",
      .setUserDefined ⟨0⟩, .setUserDefined ⟨2⟩, .addInterface ⟨0⟩ foreign,
      .addInterface ⟨0⟩ ⟨.interfaceType, "Named", some ⟨2⟩⟩,
      .addInterface ⟨0⟩ ⟨.interfaceType, "Named", some ⟨2⟩⟩,
      .setParent ⟨0⟩ ⟨.classType, "Shape", some ⟨1⟩⟩]
    model.Reachable ∧ model.resolve foreign = some ⟨9⟩ ∧ model.type? ⟨9⟩ = none ∧
      model.declaredParent ⟨0⟩ = some ⟨1⟩ ∧ model.resolvedDependencies ⟨0⟩ = [⟨2⟩] ∧
        model.AnswersOwn := by
  intro foreign model
  have hreachable : model.Reachable := .run _ (.empty 0 (.ofList [.userDefined]))
  exact ⟨hreachable, by decide, by decide, by decide, by decide, hreachable.answersOwn⟩

end TypeGraph.Model
