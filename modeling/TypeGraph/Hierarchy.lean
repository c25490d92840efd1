import TypeGraph.Model.Basic
import TypeGraph.Unvisited

/-!
# TypeGraph.Hierarchy

Parents, interfaces, ancestors and what can be read off them.

References are followed by name, so what is declared may well be cyclic.
Every walk here visits a type at most once and therefore ends:

1. `ancestors` follows the visible parents and stops where the chain would
   come back to itself;
2. `walk` goes through interfaces depth first, then on to the parent; a type
   that the filters hide is left out of the answer and is walked all the same.

A question never changes what a reference points at, so an answer is a
function of the model, as long as the predicates of custom filters do not look
at what references remember: a walk asks them while it follows references.
-/

namespace TypeGraph.Model

/-! ## One step -/

def resolve (model : Model) (reference : TypeReference) : Option TypeId :=
  reference.target? model.symbols

/-- The type that the parent reference of a type points at, hidden or not. -/
def declaredParent (model : Model) (ty : TypeId) : Option TypeId :=
  ((model.type? ty).bind (·.parent)).bind model.resolve

/-- The parent class of a type, unless it is hidden. -/
def parentClass (model : Model) (ty : TypeId) : Option TypeId :=
  (model.declaredParent ty).filter model.isVisible

theorem index_lt_of_isVisible {model : Model} {ty : TypeId} (h : model.isVisible ty = true) :
    ty.index < model.types.size := by
  by_cases hlt : ty.index < model.types.size
  · exact hlt
  · simp [isVisible, type?, Array.getElem?_eq_none (Nat.le_of_not_lt hlt)] at h

theorem index_lt_of_parentClass {model : Model} {ty parent : TypeId}
    (h : model.parentClass ty = some parent) : parent.index < model.types.size :=
  index_lt_of_isVisible (Option.filter_eq_some_iff.1 h).2

/-! ## Ancestors -/

/-- The visible parents from `ty` on, nearest first, up to the first one that
has been visited. -/
def ancestorsFrom (model : Model) (visited : Std.HashSet TypeId) (ty : TypeId) : List TypeId :=
  match _h : model.parentClass ty with
  | none => []
  | some parent =>
    if _hv : visited.contains parent then []
    else parent :: model.ancestorsFrom (visited.insert parent) parent
termination_by unvisited model.types.size visited
decreasing_by exact unvisited_insert_lt (index_lt_of_parentClass _h) (by simpa using _hv)

/-- The visible parent chain of a type, nearest first. -/
def ancestors (model : Model) (ty : TypeId) : List TypeId := model.ancestorsFrom {ty} ty

/-! ## Interfaces -/

/-- A way from a type to the next one. -/
inductive Link where
  /-- To an interface that the type implements or extends. -/
  | interface (target : TypeId)
  /-- To the parent of the type. -/
  | parent (target : TypeId)

/-- The ways that lead on from a type: its interfaces in source order, then
its parent. -/
def links (model : Model) (ty : TypeId) : List Link :=
  match model.type? ty with
  | none => []
  | some node =>
    (node.interfaces.filterMap model.resolve).map .interface
      ++ ((node.parent.bind model.resolve).map .parent).toList

/-- How far a walk through interfaces has come. -/
structure Walk where
  /-- The interfaces that have been met, and the type asked about. -/
  seen : Std.HashSet TypeId
  /-- The types whose links have been taken. -/
  expanded : Std.HashSet TypeId
  /-- The visible interfaces met, in the order of the walk. -/
  found : Array TypeId

/-- Whether the walk has yet to take the links of a type. -/
def canExpand (model : Model) (walk : Walk) (ty : TypeId) : Bool :=
  ty.index < model.types.size && !walk.expanded.contains ty

/-- The walk once an interface has been met. -/
def meet (model : Model) (walk : Walk) (ty : TypeId) : Walk :=
  { walk with
    seen := walk.seen.insert ty
    found := if model.isVisible ty then walk.found.push ty else walk.found }

/-- Takes the links in turn.  An interface is met once; the links of a type
are taken once, right after it is met as an interface or reached as a parent. -/
def follow (model : Model) : List Link → Walk → Walk
  | [], walk => walk
  | .interface ty :: rest, walk =>
    if walk.seen.contains ty then model.follow rest walk
    else if _h : model.canExpand walk ty then
      model.follow (model.links ty ++ rest)
        { model.meet walk ty with expanded := walk.expanded.insert ty }
    else model.follow rest (model.meet walk ty)
  | .parent ty :: rest, walk =>
    if _h : model.canExpand walk ty then
      model.follow (model.links ty ++ rest) { walk with expanded := walk.expanded.insert ty }
    else model.follow rest walk
termination_by links walk => (unvisited model.types.size walk.expanded, links.length)
decreasing_by
  all_goals simp_wf
  · exact Prod.Lex.right _ (Nat.lt_succ_self _)
  · simp only [canExpand, Bool.and_eq_true, decide_eq_true_eq, Bool.not_eq_true'] at _h
    exact Prod.Lex.left _ _ (unvisited_insert_lt _h.1 _h.2)
  · exact Prod.Lex.right _ (Nat.lt_succ_self _)
  · simp only [canExpand, Bool.and_eq_true, decide_eq_true_eq, Bool.not_eq_true'] at _h
    exact Prod.Lex.left _ _ (unvisited_insert_lt _h.1 _h.2)
  · exact Prod.Lex.right _ (Nat.lt_succ_self _)

/-- The whole walk from a type. -/
def walkFrom (model : Model) (ty : TypeId) : Walk :=
  model.follow (model.links ty) ⟨{ty}, {ty}, #[]⟩

/-- The visible interfaces of a type, each once: its own in source order,
each followed by those that it extends, then those of its parent. -/
def interfaces (model : Model) (ty : TypeId) : List TypeId := (model.walkFrom ty).found.toList

/-! ## Questions about two types -/

/-- Whether `ty` is `other`, implements or extends it, or inherits it along
the visible parents. -/
def isSubtypeOf (model : Model) (ty other : TypeId) : Bool :=
  if ty = other then true
  else match model.type? ty, model.type? other with
    | some node, some target =>
      match node.kind, target.kind with
      | _, .interfaceType => (model.interfaces ty).contains other
      | .classType, .classType => (model.ancestors ty).contains other
      | .interfaceType, .classType => false
    | _, _ => false

def othersVisible (model : Model) (ty : TypeId) : List TypeNode :=
  model.types.toList.filter fun node => node.id != ty && model.accepts node

/-- The visible types whose parent is `ty`, in the order of creation. -/
def childClasses (model : Model) (ty : TypeId) : List TypeId :=
  ((model.othersVisible ty).filter fun node => model.declaredParent node.id == some ty).map (·.id)

/-- The visible types that have the interface, themselves or through others,
in the order of creation. -/
def implementors (model : Model) (interface : TypeId) : List TypeId :=
  ((model.othersVisible interface).filter fun node =>
    (model.interfaces node.id).contains interface).map (·.id)

end TypeGraph.Model
