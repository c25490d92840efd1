import TypeGraph.Report

/-!
# TypeGraph.Query

What asking a model does to it.  An answer is a function of the model, but to
find it some references are followed, and those that resolve remember their
targets from then on.  Filters are asked on the way; their predicates are taken
not to look at what references remember:

1. a `Site` is a place in the model where a reference is attached;
2. `Query.sites` lists the references that a question follows;
3. `Model.settle` lets those references remember what they found, and
   `Model.settleIn` lets one remember what it finds in the table of another
   model;
4. `Model.ask` gives the answer and the model after the question.
-/

namespace TypeGraph

/-- A place where a reference is attached. -/
inductive Site where
  /-- The parent of a type. -/
  | parent (ty : TypeId)
  /-- An interface of a type, by its position. -/
  | interface (ty : TypeId) (position : Nat)
  deriving DecidableEq, Repr

/-- A question about a model. -/
inductive Query where
  | resolve (site : Site)
  | parentClass (ty : TypeId)
  | interfaces (ty : TypeId)
  | resolvedDependencies (ty : TypeId)
  | ancestors (ty : TypeId)
  | isSubtypeOf (ty other : TypeId)
  | childClasses (ty : TypeId)
  | implementors (interface : TypeId)
  | packageDependencies (package : PackageId)
  | dependencyGraph
  | dependencyCycles
  | summarize (ty : TypeId)
  | report
  deriving DecidableEq, Repr

/-- What a question is answered with. -/
inductive Answer where
  | handle (ty : Option TypeId)
  | handles (types : List TypeId)
  | verdict (holds : Bool)
  | packages (packages : List PackageId)
  | graph (graph : DependencyGraph)
  | groups (groups : List (List TypeId))
  | summary (summary : Option TypeSummary)
  | report (report : Report)
  deriving DecidableEq, Repr

namespace Model

/-- The reference attached at a site. -/
def reference? (model : Model) : Site → Option TypeReference
  | .parent ty => (model.type? ty).bind (·.parent)
  | .interface ty position => (model.type? ty).bind (·.interfaces[position]?)

/-! ## The references that questions follow -/

/-- Every reference of a type. -/
def referenceSites (model : Model) (ty : TypeId) : List Site :=
  match model.type? ty with
  | none => []
  | some node => (List.range node.interfaces.length).map (.interface ty) ++ [.parent ty]

/-- The references that the walk through the interfaces of a type follows:
all those of the types that it expands. -/
def interfaceSites (model : Model) (ty : TypeId) : List Site :=
  (model.walkFrom ty).expanded.toList.flatMap model.referenceSites

/-- The references that the walk up the parents of a type follows. -/
def ancestorSites (model : Model) (ty : TypeId) : List Site :=
  (ty :: model.ancestors ty).map .parent

/-- The references that finding the children of a type follows: the parents
of all other visible types. -/
def childSites (model : Model) (ty : TypeId) : List Site :=
  (model.othersVisible ty).map (.parent ·.id)

/-- The references that finding the implementors of an interface follows. -/
def implementorSites (model : Model) (interface : TypeId) : List Site :=
  (model.othersVisible interface).flatMap (model.interfaceSites ·.id)

/-- The references that comparing two types follows: none if they are the
same, if one is foreign or if a class is compared with an interface. -/
def subtypeSites (model : Model) (ty other : TypeId) : List Site :=
  if ty = other then []
  else match model.type? ty, model.type? other with
    | some node, some target =>
      match node.kind, target.kind with
      | _, .interfaceType => model.interfaceSites ty
      | .classType, .classType => model.ancestorSites ty
      | .interfaceType, .classType => []
    | _, _ => []

/-- The references that the dependency graph follows: all those of the
visible types. -/
def graphSites (model : Model) : List Site :=
  (model.types.toList.filter model.accepts).flatMap (model.referenceSites ·.id)

/-- The references that a summary follows. -/
def summarySites (model : Model) (ty : TypeId) : List Site :=
  match model.type? ty with
  | none => []
  | some _ =>
    .parent ty :: (model.interfaceSites ty ++ model.referenceSites ty ++ model.childSites ty
      ++ model.ancestorSites ty)

end Model

namespace Query

/-- The references that a question follows. -/
def sites (model : Model) : Query → List Site
  | .resolve site => [site]
  | .parentClass ty => [.parent ty]
  | .interfaces ty => model.interfaceSites ty
  | .resolvedDependencies ty => model.referenceSites ty
  | .ancestors ty => model.ancestorSites ty
  | .isSubtypeOf ty other => model.subtypeSites ty other
  | .childClasses ty => model.childSites ty
  | .implementors interface => model.implementorSites interface
  | .packageDependencies package =>
    (model.packageTypes package).flatMap (model.referenceSites ·.id)
  | .dependencyGraph => model.graphSites
  | .dependencyCycles => model.graphSites
  | .summarize ty => model.summarySites ty
  | .report => model.typeIds.flatMap model.summarySites ++ model.graphSites

/-- The answer to a question. -/
def answer (model : Model) : Query → Answer
  | .resolve site => .handle ((model.reference? site).bind model.resolve)
  | .parentClass ty => .handle (model.parentClass ty)
  | .interfaces ty => .handles (model.interfaces ty)
  | .resolvedDependencies ty => .handles (model.resolvedDependencies ty)
  | .ancestors ty => .handles (model.ancestors ty)
  | .isSubtypeOf ty other => .verdict (model.isSubtypeOf ty other)
  | .childClasses ty => .handles (model.childClasses ty)
  | .implementors interface => .handles (model.implementors interface)
  | .packageDependencies package => .packages (model.packageDependencies package)
  | .dependencyGraph => .graph model.dependencyGraph
  | .dependencyCycles => .groups model.dependencyCycles
  | .summarize ty => .summary (model.summarize ty)
  | .report => .report model.report

end Query

namespace Model

/-- The model after one of its references has been followed with a table, its
own or that of another model. -/
def settleIn (model : Model) (table : SymbolTable) : Site → Model
  | .parent ty =>
    model.modifyType ty fun node => { node with parent := node.parent.map (·.settle table) }
  | .interface ty position =>
    model.modifyType ty fun node =>
      { node with interfaces := node.interfaces.modify position (·.settle table) }

/-- The model after it has followed one of its references. -/
def settleAt (model : Model) (site : Site) : Model := model.settleIn model.symbols site

/-- The model after the references have been followed. -/
def settle (model : Model) (sites : List Site) : Model := sites.foldl settleAt model

/-- The model after a question has been asked. -/
def after (model : Model) (query : Query) : Model := model.settle (query.sites model)

/-- The answer to a question, and the model after it has been asked. -/
def ask (model : Model) (query : Query) : Answer × Model :=
  (query.answer model, model.after query)

end Model

end TypeGraph
