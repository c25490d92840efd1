import TypeGraph.Proofs.Run

/-!
# TypeGraph.Proofs.Likeness

Models that look the same.  A question sees only some of what a model holds: of
a reference its kind and what it points at, and nothing of where a type comes
from.  `LooksLike` says that a model has the types of another one, each changed
in a way that no question sees:

1. `LooksLike.answer_eq` — both models answer every question alike;
2. `LooksLike.sites_eq` — and to find an answer the same references are followed.

There is one lemma for each walk and each question, in the order in which they
are built on each other.
-/

namespace TypeGraph

namespace Model

variable {model other : Model} {change : TypeNode → TypeNode}

/-! ## References as questions see them -/

/-- What a question sees of a reference: its kind and what it points at. -/
def aim (model : Model) (reference : TypeReference) : TypeKind × Option TypeId :=
  (reference.kind, model.resolve reference)

/-- A reference is resolved by its aim. -/
theorem bind_resolve_eq_aim (reference : Option TypeReference) :
    reference.bind model.resolve = (reference.map model.aim).bind Prod.snd := by
  cases reference <;> rfl

/-- A list of references is resolved by their aims. -/
theorem filterMap_resolve_eq_aim (references : List TypeReference) :
    references.filterMap model.resolve = (references.map model.aim).filterMap Prod.snd := by
  rw [List.filterMap_map]
  rfl

/-- The edges from a type depend on what is seen of its references. -/
theorem edgesFrom_eq_aim (model : Model) (ty : TypeId) :
    model.edgesFrom ty = ((model.dependencies ty).map model.aim).foldl (fun edges aim =>
      match aim.2 with
      | none => edges
      | some target =>
        if model.isVisible target && !edges.any (·.target == target) then
          edges ++ [⟨ty, target, aim.1⟩]
        else edges) [] := by
  rw [List.foldl_map]
  rfl

/-! ## Models -/

/-- The second model has the types of the first one, each changed in a way that
no question sees. -/
structure LooksLike (model other : Model) (change : TypeNode → TypeNode) : Prop where
  types : other.types = model.types.map change
  members : other.members = model.members
  packages : other.packages = model.packages
  functions : other.functions = model.functions
  id : ∀ node, (change node).id = node.id
  name : ∀ node, (change node).name = node.name
  kind : ∀ node, (change node).kind = node.kind
  package : ∀ node, (change node).package = node.package
  userDefined : ∀ node, (change node).userDefined = node.userDefined
  isAbstract : ∀ node, (change node).isAbstract = node.isAbstract
  interfaces : ∀ node, (change node).interfaces.map other.aim = node.interfaces.map model.aim
  parent : ∀ node, (change node).parent.map other.aim = node.parent.map model.aim
  accepts : ∀ node, other.accepts (change node) = model.accepts node

namespace LooksLike

variable (h : model.LooksLike other change)
include h

/-! ## Types -/

/-- The same handles lead to types, up to the change. -/
theorem type?_eq (ty : TypeId) : other.type? ty = (model.type? ty).map change := by
  rw [type?, type?, h.types, Array.getElem?_map]

/-- The types are the same, up to the change and in the same order. -/
theorem toList_types : other.types.toList = model.types.toList.map change := by
  rw [h.types, Array.toList_map]

theorem size_types : other.types.size = model.types.size := by rw [h.types, Array.size_map]

theorem package?_eq (package : PackageId) : other.package? package = model.package? package := by
  rw [package?, package?, h.packages]

theorem typeName_eq (ty : TypeId) : other.typeName ty = model.typeName ty := by
  rw [typeName, typeName, h.type?_eq, Option.map_map]
  exact congrArg (fun name => ((model.type? ty).map name).getD "") (funext h.name)

/-- The handles are the same. -/
theorem typeIds_eq : other.typeIds = model.typeIds := by
  rw [typeIds, typeIds, h.toList_types, List.map_map]
  exact congrArg (List.map · model.types.toList) (funext h.id)

theorem packageOf_eq (ty : TypeId) : other.packageOf ty = model.packageOf ty := by
  rw [packageOf, packageOf, h.type?_eq, Option.bind_map]
  exact congrArg (Option.bind (model.type? ty)) (funext h.package)

/-- The counts are the same. -/
theorem stats_eq : other.stats = model.stats := by
  have hcount (test : TypeNode → Bool) (htest : ∀ node, test (change node) = test node) :
      other.types.countP test = model.types.countP test := by
    rw [← Array.countP_toList, ← Array.countP_toList, h.toList_types, List.countP_map]
    exact congrArg (List.countP · model.types.toList) (funext htest)
  rw [stats, stats, h.members, h.packages, h.functions,
    hcount (·.kind == .classType) fun node => by rw [h.kind],
    hcount (·.kind == .interfaceType) fun node => by rw [h.kind],
    hcount (·.userDefined) h.userDefined]

/-- A package has the same types. -/
theorem packageTypes_eq (package : PackageId) :
    other.packageTypes package = (model.packageTypes package).map change := by
  rw [packageTypes, packageTypes, h.package?_eq]
  cases model.package? package with
  | none => rfl
  | some node =>
      dsimp only
      rw [List.map_filterMap, funext h.type?_eq]

/-! ## References -/

/-- Parents are declared alike. -/
theorem declaredParent_eq (ty : TypeId) : other.declaredParent ty = model.declaredParent ty := by
  rw [declaredParent, declaredParent, h.type?_eq]
  cases model.type? ty with
  | none => rfl
  | some node =>
      change (change node).parent.bind other.resolve = node.parent.bind model.resolve
      rw [bind_resolve_eq_aim, bind_resolve_eq_aim, h.parent]

/-- The walk through the interfaces finds the same links. -/
theorem links_eq (ty : TypeId) : other.links ty = model.links ty := by
  rw [links, links, h.type?_eq]
  cases model.type? ty with
  | none => rfl
  | some node =>
      dsimp only [Option.map_some]
      rw [filterMap_resolve_eq_aim, filterMap_resolve_eq_aim, bind_resolve_eq_aim,
        bind_resolve_eq_aim, h.interfaces, h.parent]

/-- The references of a type aim at the same types. -/
theorem references_eq (node : TypeNode) :
    (change node).references.map other.aim = node.references.map model.aim := by
  rw [TypeNode.references, TypeNode.references, List.map_append, List.map_append, h.interfaces,
    ← Option.toList_map, ← Option.toList_map, h.parent]

/-- Dependencies have the same names and aim at the same types. -/
theorem dependencies_eq (ty : TypeId) :
    (other.dependencies ty).map other.aim = (model.dependencies ty).map model.aim := by
  rw [dependencies, dependencies, h.type?_eq]
  cases model.type? ty with
  | none => rfl
  | some node => exact h.references_eq node

/-- What is attached at a site is resolved alike. -/
theorem bind_reference?_eq (site : Site) :
    (other.reference? site).bind other.resolve = (model.reference? site).bind model.resolve := by
  cases site with
  | parent ty => exact h.declaredParent_eq ty
  | interface ty position =>
      rw [reference?, reference?, h.type?_eq]
      cases model.type? ty with
      | none => rfl
      | some node =>
          change (change node).interfaces[position]?.bind other.resolve =
            node.interfaces[position]?.bind model.resolve
          rw [bind_resolve_eq_aim, bind_resolve_eq_aim, ← List.getElem?_map, ← List.getElem?_map,
            h.interfaces]

/-! ## Visibility -/

/-- The same types are visible. -/
theorem isVisible_eq (ty : TypeId) : other.isVisible ty = model.isVisible ty := by
  rw [isVisible, isVisible, h.type?_eq, Option.any_map]
  exact congrArg (Option.any · (model.type? ty)) (funext h.accepts)

theorem parentClass_eq (ty : TypeId) : other.parentClass ty = model.parentClass ty := by
  rw [parentClass, parentClass, h.declaredParent_eq, funext h.isVisible_eq]

/-- The same types are accepted, in the same order. -/
theorem map_filter_accepts :
    (other.types.toList.filter other.accepts).map (·.id) =
      (model.types.toList.filter model.accepts).map (·.id) := by
  rw [h.toList_types, List.filter_map, List.map_map]
  simp only [Function.comp_def, h.accepts, h.id]

/-- The other visible types are the same. -/
theorem othersVisible_eq (ty : TypeId) :
    other.othersVisible ty = (model.othersVisible ty).map change := by
  rw [othersVisible, othersVisible, h.toList_types, List.filter_map]
  simp only [Function.comp_def, h.accepts, h.id]

/-! ## Walks -/

/-- The chains of parents go the same way, whatever has been visited. -/
theorem ancestorsFrom_eq (visited : Std.HashSet TypeId) (ty : TypeId) :
    other.ancestorsFrom visited ty = model.ancestorsFrom visited ty := by
  induction visited, ty using ancestorsFrom.induct model with
  | case1 visited ty hnone =>
      rw [ancestorsFrom, ancestorsFrom, h.parentClass_eq, hnone]
  | case2 visited ty parent hsome hvisited =>
      rw [ancestorsFrom, ancestorsFrom, h.parentClass_eq, hsome]
      dsimp only
      rw [dif_pos hvisited, dif_pos hvisited]
  | case3 visited ty parent hsome hvisited ih =>
      rw [ancestorsFrom, ancestorsFrom, h.parentClass_eq, hsome]
      dsimp only
      rw [dif_neg hvisited, dif_neg hvisited, ih]

theorem ancestors_eq (ty : TypeId) : other.ancestors ty = model.ancestors ty :=
  h.ancestorsFrom_eq {ty} ty

theorem meet_eq (walk : Walk) (ty : TypeId) : other.meet walk ty = model.meet walk ty := by
  rw [meet, meet, h.isVisible_eq]

/-- Walks that have come equally far go on in the same way. -/
theorem follow_eq (links : List Link) (walk : Walk) :
    other.follow links walk = model.follow links walk := by
  have hcan (walk : Walk) (ty : TypeId) : other.canExpand walk ty = model.canExpand walk ty := by
    rw [canExpand, canExpand, h.size_types]
  induction links, walk using follow.induct model with
  | case1 walk => rw [follow, follow]
  | case2 ty rest walk hseen ih => rw [follow, follow, if_pos hseen, if_pos hseen, ih]
  | case3 ty rest walk hseen hexp ih =>
      rw [follow, follow, if_neg hseen, if_neg hseen, dif_pos hexp, dif_pos (hcan walk ty ▸ hexp),
        h.links_eq, h.meet_eq, ih]
  | case4 ty rest walk hseen hexp ih =>
      rw [follow, follow, if_neg hseen, if_neg hseen, dif_neg hexp, dif_neg (hcan walk ty ▸ hexp),
        h.meet_eq, ih]
  | case5 ty rest walk hexp ih =>
      rw [follow, follow, dif_pos hexp, dif_pos (hcan walk ty ▸ hexp), h.links_eq, ih]
  | case6 ty rest walk hexp ih =>
      rw [follow, follow, dif_neg hexp, dif_neg (hcan walk ty ▸ hexp), ih]

theorem walkFrom_eq (ty : TypeId) : other.walkFrom ty = model.walkFrom ty := by
  rw [walkFrom, walkFrom, h.links_eq, h.follow_eq]

theorem interfaces_eq (ty : TypeId) : other.interfaces ty = model.interfaces ty := by
  rw [Model.interfaces, Model.interfaces, h.walkFrom_eq]

/-! ## Questions about two types -/

/-- The same types are subtypes of each other. -/
theorem isSubtypeOf_eq (ty target : TypeId) :
    other.isSubtypeOf ty target = model.isSubtypeOf ty target := by
  rw [isSubtypeOf, isSubtypeOf, h.type?_eq, h.type?_eq, h.interfaces_eq, h.ancestors_eq]
  cases model.type? ty with
  | none => rfl
  | some node =>
      cases model.type? target with
      | none => rfl
      | some target =>
          dsimp only [Option.map_some]
          rw [h.kind, h.kind]

theorem childClasses_eq (ty : TypeId) : other.childClasses ty = model.childClasses ty := by
  rw [childClasses, childClasses, h.othersVisible_eq, List.filter_map, List.map_map]
  simp only [Function.comp_def, h.declaredParent_eq, h.id]

theorem implementors_eq (interface : TypeId) :
    other.implementors interface = model.implementors interface := by
  rw [implementors, implementors, h.othersVisible_eq, List.filter_map, List.map_map]
  simp only [Function.comp_def, h.interfaces_eq, h.id]

/-! ## Dependencies -/

theorem resolvedDependencies_eq (ty : TypeId) :
    other.resolvedDependencies ty = model.resolvedDependencies ty := by
  rw [resolvedDependencies, resolvedDependencies, filterMap_resolve_eq_aim,
    filterMap_resolve_eq_aim, h.dependencies_eq, funext h.isVisible_eq]

theorem edgesFrom_eq (ty : TypeId) : other.edgesFrom ty = model.edgesFrom ty := by
  rw [edgesFrom_eq_aim, edgesFrom_eq_aim, h.dependencies_eq, funext h.isVisible_eq]

/-- The dependency graphs are equal, nodes and edges in the same order. -/
theorem dependencyGraph_eq : other.dependencyGraph = model.dependencyGraph := by
  rw [dependencyGraph, dependencyGraph, h.map_filter_accepts, funext h.edgesFrom_eq]

theorem dependencyCycles_eq : other.dependencyCycles = model.dependencyCycles := by
  rw [dependencyCycles, dependencyCycles, h.dependencyGraph_eq, h.size_types]

theorem packageDependencies_eq (package : PackageId) :
    other.packageDependencies package = model.packageDependencies package := by
  rw [packageDependencies, packageDependencies, h.packageTypes_eq, List.flatMap_map,
    funext h.packageOf_eq]
  simp only [h.resolvedDependencies_eq, h.id]

/-! ## Reports -/

/-- A summary tells names, kinds, marks and answers, which are the same. -/
theorem summarize_eq (ty : TypeId) : other.summarize ty = model.summarize ty := by
  rw [summarize, summarize, h.type?_eq, h.parentClass_eq, h.interfaces_eq,
    h.resolvedDependencies_eq, h.childClasses_eq, h.ancestors_eq, funext h.typeName_eq,
    funext h.package?_eq, Option.map_map]
  simp only [Function.comp_def, h.name, h.kind, h.package, h.userDefined, h.isAbstract]

/-- So a report is the same, line by line. -/
theorem report_eq : other.report = model.report := by
  rw [report, report, h.stats_eq, h.typeIds_eq, funext h.summarize_eq, h.dependencyCycles_eq,
    funext h.typeName_eq]

/-- **Answers**: models that look the same answer every question alike. -/
theorem answer_eq (query : Query) : query.answer other = query.answer model := by
  cases query with
  | resolve site => exact congrArg Answer.handle (h.bind_reference?_eq site)
  | parentClass ty => exact congrArg Answer.handle (h.parentClass_eq ty)
  | interfaces ty => exact congrArg Answer.handles (h.interfaces_eq ty)
  | resolvedDependencies ty => exact congrArg Answer.handles (h.resolvedDependencies_eq ty)
  | ancestors ty => exact congrArg Answer.handles (h.ancestors_eq ty)
  | isSubtypeOf ty target => exact congrArg Answer.verdict (h.isSubtypeOf_eq ty target)
  | childClasses ty => exact congrArg Answer.handles (h.childClasses_eq ty)
  | implementors interface => exact congrArg Answer.handles (h.implementors_eq interface)
  | packageDependencies package =>
      exact congrArg Answer.packages (h.packageDependencies_eq package)
  | dependencyGraph => exact congrArg Answer.graph h.dependencyGraph_eq
  | dependencyCycles => exact congrArg Answer.groups h.dependencyCycles_eq
  | summarize ty => exact congrArg Answer.summary (h.summarize_eq ty)
  | report => exact congrArg Answer.report h.report_eq

/-! ## The references that questions follow -/

/-- A type has its references at the same sites. -/
theorem referenceSites_eq (ty : TypeId) : other.referenceSites ty = model.referenceSites ty := by
  rw [referenceSites, referenceSites, h.type?_eq]
  cases model.type? ty with
  | none => rfl
  | some node =>
      have hlength : (change node).interfaces.length = node.interfaces.length := by
        simpa using congrArg List.length (h.interfaces node)
      dsimp only [Option.map_some]
      rw [hlength]

theorem interfaceSites_eq (ty : TypeId) : other.interfaceSites ty = model.interfaceSites ty := by
  rw [interfaceSites, interfaceSites, h.walkFrom_eq, funext h.referenceSites_eq]

theorem ancestorSites_eq (ty : TypeId) : other.ancestorSites ty = model.ancestorSites ty := by
  rw [ancestorSites, ancestorSites, h.ancestors_eq]

theorem childSites_eq (ty : TypeId) : other.childSites ty = model.childSites ty := by
  rw [childSites, childSites, h.othersVisible_eq, List.map_map]
  simp only [Function.comp_def, h.id]

theorem implementorSites_eq (interface : TypeId) :
    other.implementorSites interface = model.implementorSites interface := by
  rw [implementorSites, implementorSites, h.othersVisible_eq, List.flatMap_map]
  simp only [h.interfaceSites_eq, h.id]

/-- Comparing two types follows the same references. -/
theorem subtypeSites_eq (ty target : TypeId) :
    other.subtypeSites ty target = model.subtypeSites ty target := by
  rw [subtypeSites, subtypeSites, h.type?_eq, h.type?_eq, h.interfaceSites_eq, h.ancestorSites_eq]
  cases model.type? ty with
  | none => rfl
  | some node =>
      cases model.type? target with
      | none => rfl
      | some target =>
          dsimp only [Option.map_some]
          rw [h.kind, h.kind]

theorem graphSites_eq : other.graphSites = model.graphSites := by
  have hsites (model : Model) : model.graphSites =
      ((model.types.toList.filter model.accepts).map (·.id)).flatMap model.referenceSites := by
    rw [graphSites, List.flatMap_map]
  rw [hsites, hsites, h.map_filter_accepts, funext h.referenceSites_eq]

/-- A summary follows the same references. -/
theorem summarySites_eq (ty : TypeId) : other.summarySites ty = model.summarySites ty := by
  rw [summarySites, summarySites, h.type?_eq, h.interfaceSites_eq, h.referenceSites_eq,
    h.childSites_eq, h.ancestorSites_eq]
  cases model.type? ty <;> rfl

/-- **Sites**: in models that look the same the same references are followed to
find an answer. -/
theorem sites_eq (query : Query) : query.sites other = query.sites model := by
  cases query with
  | resolve site | parentClass ty => rfl
  | interfaces ty => exact h.interfaceSites_eq ty
  | resolvedDependencies ty => exact h.referenceSites_eq ty
  | ancestors ty => exact h.ancestorSites_eq ty
  | isSubtypeOf ty target => exact h.subtypeSites_eq ty target
  | childClasses ty => exact h.childSites_eq ty
  | implementors interface => exact h.implementorSites_eq interface
  | packageDependencies package =>
      rw [Query.sites, Query.sites, h.packageTypes_eq, List.flatMap_map]
      simp only [h.referenceSites_eq, h.id]
  | dependencyGraph | dependencyCycles => exact h.graphSites_eq
  | summarize ty => exact h.summarySites_eq ty
  | report =>
      rw [Query.sites, Query.sites, h.typeIds_eq, funext h.summarySites_eq, h.graphSites_eq]

end LooksLike

end Model

end TypeGraph
