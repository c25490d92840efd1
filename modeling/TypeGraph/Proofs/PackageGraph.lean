import TypeGraph.Proofs.Edges
import TypeGraph.Proofs.PackageIndex

/-!
# TypeGraph.Proofs.PackageGraph

What a package depends on, next to what its types depend on.  `packageDependencies`
walks the list of the package and the dependencies of each type on it;
`dependencyGraph` is drawn from all visible types and knows of no package.

1. `pairwise_idxOf_firstUnseen` — what is left of a list without its repetitions is
   in the order of first occurrence;
2. `Numbered.mem_packageDependencies` — the dependencies of a package are those of the
   types that it lists, in any model;
3. `Filed.exists_dependency_iff` — if lists say what pointers say and no type of the
   package is hidden, they are what the edges from it lead to;
4. `ReachableBy.neighbours` — so the dependencies of packages are the dependency graph,
   read through the packages of the types.
-/

namespace TypeGraph.Model

variable {model : Model} {package : PackageId}

/-! ## First occurrences -/

section FirstUnseen

variable {α : Type} [DecidableEq α]

/-- Another element in front does not change the order of the others. -/
theorem pairwise_idxOf_cons {kept l : List α} {a : α} (ha : a ∉ kept)
    (h : kept.Pairwise fun b c => l.idxOf b < l.idxOf c) :
    kept.Pairwise fun b c => (a :: l).idxOf b < (a :: l).idxOf c := by
  refine h.imp_of_mem fun hb hc hbc => ?_
  rw [List.idxOf_cons_ne l (ne_of_mem_of_not_mem hb ha).symm,
    List.idxOf_cons_ne l (ne_of_mem_of_not_mem hc ha).symm]
  exact Nat.succ_lt_succ hbc

/-- Elements that are listed when they are first met come in the order of their first
places. -/
theorem pairwise_idxOf_firstUnseen (seen l : List α) :
    (firstUnseen seen l).Pairwise fun b c => l.idxOf b < l.idxOf c := by
  induction l generalizing seen with
  | nil => exact .nil
  | cons a l ih =>
      rw [firstUnseen]
      split
      · next hseen =>
          have ha : a ∉ firstUnseen seen l := fun hmem => (mem_firstUnseen.1 hmem).1 hseen
          exact pairwise_idxOf_cons ha (ih seen)
      · have ha : a ∉ firstUnseen (a :: seen) l := fun hmem =>
          (mem_firstUnseen.1 hmem).1 List.mem_cons_self
        refine List.pairwise_cons.2 ⟨fun b hb => ?_, pairwise_idxOf_cons ha (ih (a :: seen))⟩
        rw [List.idxOf_cons_self, List.idxOf_cons_ne l (ne_of_mem_of_not_mem hb ha).symm]
        exact Nat.succ_pos _

end FirstUnseen

/-! ## Dependencies of types and of packages -/

/-- A resolved dependency is another visible type that some reference points at. -/
theorem mem_resolvedDependencies {ty target : TypeId} :
    target ∈ model.resolvedDependencies ty ↔ target ≠ ty ∧ model.isVisible target = true ∧
      ∃ reference ∈ model.dependencies ty, model.resolve reference = some target := by
  have hlist : model.resolvedDependencies ty =
      firstUnseen [ty] (model.visibleTargets (model.dependencies ty)) := rfl
  rw [hlist, mem_firstUnseen, mem_visibleTargets, List.mem_singleton]

/-- The packages of what the types of a package depend on, type by type in the order
of its list, and dependency by dependency. -/
def discoveries (model : Model) (package : PackageId) : List PackageId :=
  (model.typesIn package).flatMap fun ty =>
    (model.resolvedDependencies ty).filterMap model.packageOf

/-- The dependencies of a package are its discoveries, each listed when it is first
met. -/
theorem Numbered.packageDependencies_eq_discoveries (h : model.Numbered) (package : PackageId) :
    model.packageDependencies package = firstUnseen [package] (model.discoveries package) := by
  rw [h.packageDependencies_eq, List.filterMap_flatMap]
  rfl

/-- A package depends on another one if a type that it lists depends on a type there. -/
theorem Numbered.mem_packageDependencies (h : model.Numbered) {other : PackageId} :
    other ∈ model.packageDependencies package ↔ other ≠ package ∧
      ∃ ty ∈ model.typesIn package, ∃ target ∈ model.resolvedDependencies ty,
        model.packageOf target = some other := by
  rw [h.packageDependencies_eq_discoveries, mem_firstUnseen, List.mem_singleton, discoveries]
  simp only [List.mem_flatMap, List.mem_filterMap]

/-! ## The graph, read through packages -/

/-- No type that the package lists is hidden. -/
def ShowsAllOf (model : Model) (package : PackageId) : Prop :=
  ∀ node ∈ model.packageTypes package, model.accepts node = true

instance (model : Model) (package : PackageId) : Decidable (model.ShowsAllOf package) :=
  inferInstanceAs (Decidable (∀ node ∈ model.packageTypes package, model.accepts node = true))

/-- A type of such a package is visible. -/
theorem ShowsAllOf.isVisible (h : model.ShowsAllOf package) {ty : TypeId}
    (hlisted : ty ∈ model.typesIn package) (hpointer : model.packageOf ty = some package) :
    model.isVisible ty = true := by
  obtain ⟨node, hnode, -⟩ := Option.bind_eq_some_iff.1 hpointer
  have hmem : node ∈ model.packageTypes package := by
    unfold typesIn at hlisted
    unfold packageTypes
    cases hpackage : model.package? package with
    | none => simp [hpackage] at hlisted
    | some found =>
        rw [hpackage] at hlisted
        exact List.mem_filterMap.2 ⟨ty, hlisted, hnode⟩
  exact shows_iff.1 ⟨node, hnode, h node hmem⟩

/-- A type of the package depends on one of another package if and only if the graph
has an edge between such types. -/
theorem Filed.exists_dependency_iff (hfiled : model.Filed) (hnumbered : model.Numbered)
    (hshown : model.ShowsAllOf package) {other : PackageId} (hother : other ≠ package) :
    (∃ ty ∈ model.typesIn package, ∃ target ∈ model.resolvedDependencies ty,
        model.packageOf target = some other) ↔
      ∃ source target, model.dependencyGraph.dependsOn source target = true ∧
        model.packageOf source = some package ∧ model.packageOf target = some other := by
  have hlisted (ty : TypeId) : ty ∈ model.typesIn package ↔ model.packageOf ty = some package :=
    hfiled.agrees.mem
  constructor
  · rintro ⟨ty, hty, target, htarget, hpointer⟩
    have hsource := (hlisted ty).1 hty
    obtain ⟨-, hvisible, hreference⟩ := mem_resolvedDependencies.1 htarget
    have hedge : model.dependencyGraph.dependsOn ty target = true :=
      hnumbered.dependsOn_iff_pointsAt.2 ⟨hshown.isVisible hty hsource, hvisible, hreference⟩
    exact ⟨ty, target, hedge, hsource, hpointer⟩
  · rintro ⟨source, target, hedge, hsource, htarget⟩
    obtain ⟨-, hvisible, hreference⟩ := hnumbered.dependsOn_iff_pointsAt.1 hedge
    have hne : target ≠ source := by
      rintro rfl
      exact hother (Option.some_inj.1 (htarget.symm.trans hsource))
    exact ⟨source, (hlisted source).2 hsource, target,
      mem_resolvedDependencies.2 ⟨hne, hvisible, hreference⟩, htarget⟩

/-- The packages are the other ones that the graph leads to from types of the package,
each once, in the order in which they are discovered. -/
structure Neighbours (model : Model) (package : PackageId) (others : List PackageId) : Prop where
  nodup : others.Nodup
  not_mem : package ∉ others
  mem_iff : ∀ other, other ∈ others ↔ other ≠ package ∧
    ∃ source target, model.dependencyGraph.dependsOn source target = true ∧
      model.packageOf source = some package ∧ model.packageOf target = some other
  order : others.Pairwise fun a b =>
    (model.discoveries package).idxOf a < (model.discoveries package).idxOf b

/-- **Package dependencies**: as long as no pointer has been written alone, a package
whose types are all visible depends on what the graph leads to from it. -/
theorem ReachableBy.neighbours (h : model.ReachableBy (Event.Obeys Operation.Paired))
    (hshown : model.ShowsAllOf package) :
    model.Neighbours package (model.packageDependencies package) := by
  have hnumbered := h.reachable.numbered
  have heq := hnumbered.packageDependencies_eq_discoveries package
  constructor
  · rw [heq]
    exact nodup_firstUnseen _ _
  · exact fun hmem => (hnumbered.mem_packageDependencies.1 hmem).1 rfl
  · intro other
    rw [hnumbered.mem_packageDependencies, and_congr_right_iff]
    exact h.inStep.filed.exists_dependency_iff hnumbered hshown
  · rw [heq]
    exact pairwise_idxOf_firstUnseen _ _

/-- A package that refers to the third one first, through the interfaces of a class, and
a hidden class of the second one, which refers to the first one; no edge shows that. -/
theorem neighbours_of_mailer :
    let packages := (Model.empty 0 .empty).run
      [.addPackage "App", .addPackage "Core", .addPackage "Util"]
    let model := packages.run [
      .addType .interfaceType "Core\\Service", .addType .interfaceType "Util\\Log",
      .addType .classType "App\\Mailer", .addType .classType "App\\Base",
      .addType .classType "Core\\Ghost", .addTypeToPackage ⟨1⟩ ⟨0⟩, .addTypeToPackage ⟨2⟩ ⟨1⟩,
      .addTypeToPackage ⟨0⟩ ⟨2⟩, .addTypeToPackage ⟨0⟩ ⟨3⟩, .addTypeToPackage ⟨1⟩ ⟨4⟩,
      .setUserDefined ⟨0⟩, .setUserDefined ⟨1⟩, .setUserDefined ⟨2⟩, .setUserDefined ⟨3⟩,
      .addInterface ⟨2⟩ ⟨.interfaceType, "Util\\Log", some ⟨1⟩⟩,
      .addInterface ⟨2⟩ ⟨.interfaceType, "Core\\Service", some ⟨0⟩⟩,
      .setParent ⟨2⟩ ⟨.classType, "App\\Base", some ⟨3⟩⟩,
      .setParent ⟨4⟩ ⟨.classType, "App\\Base", some ⟨3⟩⟩,
      .setFilters (.ofList [.userDefined])]
    model.ReachableBy (Event.Obeys Operation.Paired) ∧
      (model.ShowsAllOf ⟨0⟩ ∧ model.packageDependencies ⟨0⟩ = [⟨2⟩, ⟨1⟩] ∧
        model.packageDependencies ⟨1⟩ = [⟨0⟩] ∧
        model.dependencyGraph.edges = [⟨⟨2⟩, ⟨1⟩, .interfaceType⟩, ⟨⟨2⟩, ⟨0⟩, .interfaceType⟩,
          ⟨⟨2⟩, ⟨3⟩, .classType⟩]) ∧
      model.Neighbours ⟨0⟩ (model.packageDependencies ⟨0⟩) := by
  intro packages model
  have hpackages : packages = { Model.empty 0 .empty with
      packages := #[⟨⟨0⟩, 0, "App", [], []⟩, ⟨⟨1⟩, 0, "Core", [], []⟩, ⟨⟨2⟩, 0, "Util", [], []⟩]
      packageIndex := (((∅ : Std.HashMap String PackageId).insert "App" ⟨0⟩).insert
        "Core" ⟨1⟩).insert "Util" ⟨2⟩ } := by
    simp [packages, Model.run, Operation.after_eq, Operation.refusal?, Operation.effect,
      addPackage, findPackage, Model.empty]
  have hempty : packages.ReachableBy (Event.Obeys Operation.Paired) :=
    (ReachableBy.empty 0 .empty).run (by simp [Event.Obeys, Operation.Paired])
  have hmodel : model.ReachableBy (Event.Obeys Operation.Paired) :=
    hempty.run (by simp [Event.Obeys, Operation.Paired])
  have hanswers : model.ShowsAllOf ⟨0⟩ ∧ model.packageDependencies ⟨0⟩ = [⟨2⟩, ⟨1⟩] ∧
      model.packageDependencies ⟨1⟩ = [⟨0⟩] ∧
      model.dependencyGraph.edges = [⟨⟨2⟩, ⟨1⟩, .interfaceType⟩, ⟨⟨2⟩, ⟨0⟩, .interfaceType⟩,
        ⟨⟨2⟩, ⟨3⟩, .classType⟩] := by
    unfold model
    rw [hpackages]
    decide +kernel
  exact ⟨hmodel, hanswers, hmodel.neighbours hanswers.1⟩

end TypeGraph.Model
