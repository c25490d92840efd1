import TypeGraph.Hierarchy

/-!
# TypeGraph.Dependency

What types and packages depend on.  A type depends on the targets of its own
references, interfaces first and the parent last:

1. `dependencies` lists the references as declared;
2. `resolvedDependencies` lists the visible types that they point at;
3. `dependencyGraph` has the visible types as nodes and one edge for each
   dependency between them, also from a type to itself;
4. `packageDependencies` reads the dependencies of a package off those of
   the types listed in it.
-/

namespace TypeGraph

structure Edge where
  source : TypeId
  target : TypeId
  /-- The kind of the first reference that points at the target. -/
  kind : TypeKind
  deriving DecidableEq, Repr

/-- The dependencies between the visible types of a model. -/
structure DependencyGraph where
  /-- The visible types, in the order of creation. -/
  nodes : List TypeId
  /-- At most one edge from one type to another, by source in the order of
  creation, then in the order of the source's references. -/
  edges : List Edge
  deriving DecidableEq, Repr

/-- Whether the graph has an edge from one type to another. -/
def DependencyGraph.dependsOn (graph : DependencyGraph) (source target : TypeId) : Bool :=
  graph.edges.any fun edge => edge.source == source && edge.target == target

namespace Model

/-- The references of a type: its interfaces in source order, then its
parent.  Nothing is resolved. -/
def dependencies (model : Model) (ty : TypeId) : List TypeReference :=
  match model.type? ty with
  | none => []
  | some node => node.references

/-- The elements that the test keeps apart from those in `seen` and from each
other, by first occurrence. -/
def firstUnseen {α : Type} [DecidableEq α] (seen : List α) : List α → List α
  | [] => []
  | a :: rest =>
    if a ∈ seen then firstUnseen seen rest else a :: firstUnseen (a :: seen) rest

/-- The visible types other than `ty` that its references point at, each
once. -/
def resolvedDependencies (model : Model) (ty : TypeId) : List TypeId :=
  firstUnseen [ty] (((model.dependencies ty).filterMap model.resolve).filter model.isVisible)

/-- The edges that lead away from a type: one for each visible type that its
references point at, in their order. -/
def edgesFrom (model : Model) (ty : TypeId) : List Edge :=
  (model.dependencies ty).foldl (fun edges reference =>
    match model.resolve reference with
    | none => edges
    | some target =>
      if model.isVisible target && !edges.any (·.target == target) then
        edges ++ [⟨ty, target, reference.kind⟩]
      else edges) []

def dependencyGraph (model : Model) : DependencyGraph :=
  let nodes := (model.types.toList.filter model.accepts).map (·.id)
  ⟨nodes, nodes.flatMap model.edgesFrom⟩

/-- The packages that the types listed in a package depend on, each once, in
the order of discovery. -/
def packageDependencies (model : Model) (package : PackageId) : List PackageId :=
  firstUnseen [package]
    (((model.packageTypes package).flatMap fun node =>
      model.resolvedDependencies node.id).filterMap model.packageOf)

end Model

end TypeGraph
