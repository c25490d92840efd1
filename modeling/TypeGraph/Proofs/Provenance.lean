import TypeGraph.Proofs.Settled

/-!
# TypeGraph.Proofs.Provenance

Where types come from.  A type says which model created it, so two models that
have been filled alike are still not the same.  No question sees the difference
(`Query.answer_withOrigin`), unless a filter looks at it.
-/

namespace TypeGraph

/-! ## Filters that do not look at origins -/

/-- The type as if another model had created it. -/
def TypeNode.withOrigin (origin : Nat) (node : TypeNode) : TypeNode :=
  { node with origin := origin }

/-- The filter does not look at which model created a type. -/
def Filter.OriginBlind (filter : Filter) : Prop :=
  ∀ origin node package,
    filter.accepts (node.withOrigin origin) package = filter.accepts node package

/-- No filter of the collection looks at which model created a type. -/
def Filters.OriginBlind (filters : Filters) : Prop := ∀ entry ∈ filters.entries, entry.2.OriginBlind

/-- The filters that come with the library do not look at origins. -/
theorem Filter.originBlind_of_ne_custom {filter : Filter} (h : ∀ test, filter ≠ .custom test) :
    filter.OriginBlind := by
  cases filter with
  | custom test => exact (h test rfl).elim
  | _ => exact fun _ _ _ => rfl

/-- Filters that are blind to origins accept the same types. -/
theorem Filters.OriginBlind.accepts_eq {filters : Filters} (h : filters.OriginBlind)
    (origin : Nat) (node : TypeNode) (package : Option Package) :
    filters.accepts (node.withOrigin origin) package = filters.accepts node package := by
  rw [accepts, accepts, Bool.eq_iff_iff, List.all_eq_true, List.all_eq_true]
  refine forall_congr' fun entry => forall_congr' fun hentry => ?_
  rw [h entry hentry origin]

/-! ## Models of another origin -/

/-- The model as if it and its types came from elsewhere. -/
def Model.withOrigin (origin : Nat) (model : Model) : Model :=
  { model with origin := origin, types := model.types.map (·.withOrigin origin) }

namespace Model

variable {model : Model} {origin : Nat}

/-- The same handles lead to types, up to the origin. -/
theorem type?_withOrigin (ty : TypeId) :
    (model.withOrigin origin).type? ty = (model.type? ty).map (·.withOrigin origin) := by
  rw [type?, type?, withOrigin, Array.getElem?_map]

theorem dependencies_withOrigin (ty : TypeId) :
    (model.withOrigin origin).dependencies ty = model.dependencies ty := by
  rw [dependencies, dependencies, type?_withOrigin]
  cases model.type? ty <;> rfl

/-- A new type gets the origin of its model. -/
theorem addType_withOrigin (kind : TypeKind) (name : String) :
    ((model.withOrigin origin).addType kind name).2 =
      (model.addType kind name).2.withOrigin origin := by
  simp [addType, withOrigin, TypeNode.withOrigin, TypeNode.bare]

/-- No question sees where types come from. -/
theorem looksLike_withOrigin (hblind : model.filters.OriginBlind) (origin : Nat) :
    model.LooksLike (model.withOrigin origin) (·.withOrigin origin) where
  types := rfl
  members := rfl
  packages := rfl
  functions := rfl
  id _ := rfl
  name _ := rfl
  kind _ := rfl
  package _ := rfl
  userDefined _ := rfl
  isAbstract _ := rfl
  interfaces _ := rfl
  parent _ := rfl
  accepts node := hblind.accepts_eq origin node _

end Model

/-- **Origins**: a model of another origin answers every question alike. -/
theorem Query.answer_withOrigin {model : Model} (hblind : model.filters.OriginBlind) (origin : Nat)
    (query : Query) : query.answer (model.withOrigin origin) = query.answer model :=
  (Model.looksLike_withOrigin hblind origin).answer_eq query

end TypeGraph
