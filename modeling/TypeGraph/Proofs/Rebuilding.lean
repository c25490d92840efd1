import TypeGraph.Proofs.Roster

/-!
# TypeGraph.Proofs.Rebuilding

Rebuilding the lists of packages from the pointers of types and functions.

1. `Model.Reachable.sorted_rebuildIndex` — rebuilt lists have what points at the
   package, in the order of the handles, whatever was listed before;
2. `Model.Reachable.rebuildIndex_eq_self_iff` — so the models that rebuilding leaves
   alone are those whose lists are in that order already;
3. `Model.Reachable.reindexes` — what rebuilding does to a reachable model;
4. `Model.build_rebuildIndex` — a model that is built is one of those that rebuilding
   leaves alone.
-/

namespace TypeGraph

namespace Model

variable {model : Model}

/-! ## Rebuilt lists -/

/-- Handles that are numbered in a row ascend. -/
theorem pairwise_map_range {α : Type} {mk : Nat → α} {index : α → Nat}
    (hindex : ∀ i, index (mk i) = i) (size : Nat) :
    ((List.range size).map mk).Pairwise fun a b => index a < index b := by
  rw [List.pairwise_map]
  simpa only [hindex] using List.pairwise_lt_range

/-- Lists of the nodes that point at a package are in order, if the nodes are where
their handles say. -/
theorem sorted_of_pointing {α ν : Type} [DecidableEq α] {s : Shelving α} {nodes : Array ν}
    {handle : ν → α} {mk : Nat → α} {index : α → Nat} {pointer : ν → Option PackageId}
    {known : PackageId → Bool} (hagrees : s.Agrees) (hindex : ∀ i, index (mk i) = i)
    (hnodes : ∀ i node, nodes[i]? = some node → handle node = mk i)
    (hlist : ∀ package, s.list package =
      if known package then (nodes.toList.filter (pointer · == some package)).map handle else []) :
    s.Sorted index where
  mem_iff _ _ := hagrees.mem
  ascending package := by
    have hall := pairwise_map_range hindex nodes.size
    rw [← map_handle_eq_range hnodes] at hall
    rw [hlist]
    split
    · exact hall.sublist (List.filter_sublist.map handle)
    · exact .nil

/-- Rebuilt lists are in order, for types and for functions. -/
theorem Reachable.sorted_rebuildIndex (h : model.Reachable) :
    model.rebuildIndex.typeShelving.Sorted TypeId.index ∧
      model.rebuildIndex.functionShelving.Sorted FunctionId.index := by
  have hfiled : model.rebuildIndex.Filed := (InStep.rebuild h).filed
  constructor
  · exact sorted_of_pointing hfiled.agrees (fun _ => rfl) (fun i node => h.numbered ⟨i⟩ node)
      (typesIn_rebuildIndex model)
  · exact sorted_of_pointing h.functionsFiled.rebuildIndex.agrees (fun _ => rfl)
      (fun i node => h.functionsFiled.numbered ⟨i⟩ node) (functionsIn_rebuildIndex model)

/-! ## Models that rebuilding leaves alone -/

/-- Rebuilding writes lists, and nothing else. -/
theorem rebuildIndex_eq_self_of_lists
    (htypes : ∀ package, model.rebuildIndex.typesIn package = model.typesIn package)
    (hfunctions : ∀ package, model.rebuildIndex.functionsIn package = model.functionsIn package) :
    model.rebuildIndex = model := by
  have hpackages : model.rebuildIndex.packages = model.packages := by
    refine Array.ext_getElem? fun i => ?_
    have hpackage : model.rebuildIndex.package? ⟨i⟩ = model.package? ⟨i⟩ := by
      have htypesIn := htypes ⟨i⟩
      have hfunctionsIn := hfunctions ⟨i⟩
      unfold typesIn at htypesIn
      unfold functionsIn at hfunctionsIn
      rw [package?_rebuildIndex] at htypesIn hfunctionsIn ⊢
      cases hfound : model.package? ⟨i⟩ with
      | none => rfl
      | some package =>
          simp only [hfound, Option.map_some] at htypesIn hfunctionsIn ⊢
          rw [htypesIn, hfunctionsIn]
    exact hpackage
  have hrest : model.rebuildIndex = { model with packages := model.rebuildIndex.packages } := rfl
  rw [hrest, hpackages]

/-- Rebuilding leaves a model alone if the lists are in order, and only then. -/
theorem Reachable.rebuildIndex_eq_self_iff (h : model.Reachable) :
    model.rebuildIndex = model ↔
      model.typeShelving.Sorted TypeId.index ∧ model.functionShelving.Sorted FunctionId.index := by
  obtain ⟨htypes, hfunctions⟩ := h.sorted_rebuildIndex
  constructor
  · intro heq
    rw [heq] at htypes hfunctions
    exact ⟨htypes, hfunctions⟩
  · rintro ⟨htypes', hfunctions'⟩
    refine rebuildIndex_eq_self_of_lists ?_ ?_
    · exact htypes'.list_eq htypes rfl
    · exact hfunctions'.list_eq hfunctions rfl

/-! ## What rebuilding does -/

/-- The second model is the first one with other lists in its packages: each lists
the types and the functions that point at it and nothing else, each once, in the order
of their handles. -/
structure Reindexes (before after : Model) : Prop where
  mem_typesIn : ∀ ty package, ty ∈ after.typesIn package ↔ before.packageOf ty = some package
  typesAscend : ∀ package, (after.typesIn package).Pairwise fun a b => a.index < b.index
  mem_functionsIn : ∀ function package, function ∈ after.functionsIn package ↔
    before.packageOfFunction function = some package
  functionsAscend : ∀ package, (after.functionsIn package).Pairwise fun a b => a.index < b.index
  packages : after.packages.map Package.emptied = before.packages.map Package.emptied
  rest : after = { before with packages := after.packages }

/-- Rebuilding changes nothing but lists. -/
theorem emptied_rebuildIndex (model : Model) :
    model.rebuildIndex.packages.map Package.emptied = model.packages.map Package.emptied := by
  refine Array.ext_getElem? fun i => ?_
  have hpackage := congrArg (Option.map Package.emptied) (package?_rebuildIndex model ⟨i⟩)
  rw [Option.map_map] at hpackage
  rw [Array.getElem?_map, Array.getElem?_map]
  exact hpackage

/-- **Rebuilding** makes lists of what the pointers say in any reachable model, and
makes them once and for all; as long as no pointer has been written alone it changes
nothing but the order. -/
theorem Reachable.reindexes (h : model.Reachable) :
    model.Reindexes model.rebuildIndex ∧
      model.rebuildIndex.rebuildIndex = model.rebuildIndex ∧
      (model.ReachableBy (Event.Obeys Operation.Paired) →
        ∀ package, (model.rebuildIndex.typesIn package).Perm (model.typesIn package)) := by
  have hrebuilt : model.rebuildIndex.Reachable := h.event (.operate .rebuildIndex)
  obtain ⟨htypes, hfunctions⟩ := h.sorted_rebuildIndex
  refine ⟨?_, hrebuilt.rebuildIndex_eq_self_iff.2 h.sorted_rebuildIndex, fun hpaired => ?_⟩
  · constructor
    · exact htypes.mem_iff
    · exact htypes.ascending
    · exact hfunctions.mem_iff
    · exact hfunctions.ascending
    · exact emptied_rebuildIndex model
    · rfl
  · have hfiled : model.rebuildIndex.Filed := (InStep.rebuild h).filed
    exact hpaired.inStep.filed.agrees.perm hfiled.agrees rfl

/-- Two classes that came into a package in the other order, and one of them after its
pointer has been written alone. -/
theorem reindexes_of_moves :
    let packages := (Model.empty 0 .empty).run [.addPackage "Core", .addPackage "Util"]
    let moved := packages.run [.addType .classType "Logger", .addType .classType "Buffer",
      .addTypeToPackage ⟨0⟩ ⟨1⟩, .addTypeToPackage ⟨0⟩ ⟨0⟩]
    let repointed := moved.run [.setPackage ⟨1⟩ (some ⟨1⟩), .addFunction "log",
      .addFunction "flush", .addFunctionToPackage ⟨1⟩ ⟨1⟩, .addFunctionToPackage ⟨1⟩ ⟨0⟩]
    (moved.ReachableBy (Event.Obeys Operation.Paired) ∧
      (moved.typesIn ⟨0⟩ = [⟨1⟩, ⟨0⟩] ∧ moved.rebuildIndex.typesIn ⟨0⟩ = [⟨0⟩, ⟨1⟩]) ∧
      (moved.rebuildIndex.typesIn ⟨0⟩).Perm (moved.typesIn ⟨0⟩)) ∧
    (repointed.Reachable ∧
      (repointed.typesIn ⟨0⟩ = [⟨1⟩, ⟨0⟩] ∧ repointed.typesIn ⟨1⟩ = [] ∧
        repointed.functionsIn ⟨1⟩ = [⟨1⟩, ⟨0⟩]) ∧
      repointed.Reindexes repointed.rebuildIndex ∧
      repointed.rebuildIndex.rebuildIndex = repointed.rebuildIndex) := by
  intro packages moved repointed
  have hpackages : packages.ReachableBy (Event.Obeys Operation.Paired) :=
    (ReachableBy.empty 0 .empty).run (by simp [Event.Obeys, Operation.Paired])
  have hmoved : moved.ReachableBy (Event.Obeys Operation.Paired) :=
    hpackages.run (by simp [Event.Obeys, Operation.Paired])
  have hrepointed : repointed.Reachable := hmoved.reachable.run _
  have heq := @run_addPackage_addPackage "Core" "Util" (by decide)
  have hmovedLists : moved.typesIn ⟨0⟩ = [⟨1⟩, ⟨0⟩] ∧
      moved.rebuildIndex.typesIn ⟨0⟩ = [⟨0⟩, ⟨1⟩] := by
    rw [typesIn_rebuildIndex]
    unfold moved packages
    rw [heq]
    exact ⟨rfl, rfl⟩
  have hrepointedLists : repointed.typesIn ⟨0⟩ = [⟨1⟩, ⟨0⟩] ∧ repointed.typesIn ⟨1⟩ = [] ∧
      repointed.functionsIn ⟨1⟩ = [⟨1⟩, ⟨0⟩] := by
    unfold repointed moved packages
    rw [heq]
    exact ⟨rfl, rfl, rfl⟩
  obtain ⟨-, -, hperm⟩ := hmoved.reachable.reindexes
  obtain ⟨hreindexes, htwice, -⟩ := hrepointed.reindexes
  exact ⟨⟨hmoved, hmovedLists, hperm hmoved ⟨0⟩⟩, hrepointed, hrepointedLists, hreindexes, htwice⟩

/-! ## Models that are built -/

/-- A model that depicts outlines lists its types in the order of their handles. -/
theorem Depicts.sorted {outlines : List Outline} (h : model.Depicts outlines) :
    model.typeShelving.Sorted TypeId.index where
  mem_iff _ _ := h.mem_typesIn_iff
  ascending package := by
    have hlist : model.typeShelving.list package = _ := h.listed package
    rw [hlist]
    exact (pairwise_map_range (fun _ => rfl) outlines.length).filter _

/-- A model that serves functions lists them in the order of their handles. -/
theorem Serving.sorted {functions : List FunctionEntry} (h : model.Serving functions)
    (hfiled : model.FunctionsFiled) : model.functionShelving.Sorted FunctionId.index where
  mem_iff _ _ := hfiled.agrees.mem
  ascending package := by
    have hlist : model.functionShelving.list package = _ := h.listed package
    rw [hlist]
    exact (pairwise_map_range (fun _ => rfl) functions.length).filter _

/-- **Building** lists types and functions as rebuilding does, so there is nothing to
rebuild. -/
theorem build_rebuildIndex {origin : Nat} {filters : Filters} {placeholders : Bool}
    {declarations : Declarations}
    (h : Model.build origin filters placeholders declarations = .ok model) :
    model.rebuildIndex = model ∧ ∀ id package, model.package? id = some package →
      package.types = model.pointingAt id ∧
        package.functions = model.functionsPointingAt id := by
  have hreachable := build_reachable h
  have hsorted : model.typeShelving.Sorted TypeId.index ∧
      model.functionShelving.Sorted FunctionId.index := by
    cases placeholders with
    | false =>
        obtain ⟨-, rfl⟩ := (build_eq_wired_iff origin filters declarations).1 h
        exact ⟨(depicts_wired origin filters declarations).sorted,
          (serving_wired origin filters declarations).sorted hreachable.functionsFiled⟩
    | true =>
        obtain ⟨-, rfl⟩ := (build_eq_completed_iff origin filters declarations).1 h
        exact ⟨(depicts_completed origin filters declarations).1.sorted,
          (serving_completed origin filters declarations).sorted hreachable.functionsFiled⟩
  have hfixed := hreachable.rebuildIndex_eq_self_iff.2 hsorted
  refine ⟨hfixed, fun id package hpackage => ?_⟩
  have hlists := package?_rebuildIndex model id
  rw [hfixed, hpackage, Option.map_some, Option.some_inj] at hlists
  exact ⟨congrArg Package.types hlists, congrArg Package.functions hlists⟩

/-- A package that is mentioned twice, with functions in between, and into which the
placeholder of a parent is put behind its classes. -/
theorem build_rebuildIndex_of_late_placeholder :
    let declare (name : String) (parent : Option String) : TypeDeclaration :=
      ⟨name, parent, [], [], [], [], none⟩
    let declarations : Declarations := ⟨[
      ⟨"App", [declare "Dog" (some "App\\Animal")], [], ["feed"]⟩,
      ⟨"Lib", [declare "Cat" (some "Vendor\\Pet")], [], ["help"]⟩,
      ⟨"App", [], [declare "Named" none], ["walk"]⟩]⟩
    namespaceOf "App\\Animal" = "App" ∧
      ∃ model, Model.build 0 .empty true declarations = .ok model ∧ model.rebuildIndex = model := by
  intro declare declarations
  have hbuild := (build_eq_completed_iff 0 .empty declarations).2 ⟨by decide, rfl⟩
  exact ⟨by decide, _, hbuild, (build_rebuildIndex hbuild).1⟩

end Model

end TypeGraph
