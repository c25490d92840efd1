import TypeGraph.Proofs.Likeness

/-!
# TypeGraph.Proofs.Settled

What references remember does not matter to an answer as long as they point
at the same types.  The settled model is the one in which every reference has
been followed:

1. `Query.answer_settled` — it answers every question as the model does;
2. `Query.sites_settled` — to find an answer the same references are followed;
3. `Query.answer_settle` — so an answer does not depend on which references
   have been followed before.

Filters are arbitrary predicates, so that they do not look at what references
remember has to be asked for (`Filters.Pure`).
-/

namespace TypeGraph

/-! ## References that have been changed in place -/

/-- The reference as nobody has followed it. -/
def TypeReference.forget (reference : TypeReference) : TypeReference :=
  { reference with memo := none }

@[simp] theorem TypeReference.forget_settle (reference : TypeReference) (table : SymbolTable) :
    (reference.settle table).forget = reference.forget := rfl

/-- The type with other references in place of its own. -/
def TypeNode.mapReferences (change : TypeReference → TypeReference) (node : TypeNode) : TypeNode :=
  { node with parent := node.parent.map change, interfaces := node.interfaces.map change }

/-- The model with other references in place of those of its types. -/
def Model.mapReferences (change : TypeReference → TypeReference) (model : Model) : Model :=
  { model with types := model.types.map (·.mapReferences change) }

/-- The model once every reference has been followed. -/
def Model.settled (model : Model) : Model := model.mapReferences (·.settle model.symbols)

/-! ## Pure filters -/

/-- The filter does not look at what references remember. -/
def Filter.Pure (filter : Filter) : Prop :=
  ∀ node package, filter.accepts (node.mapReferences .forget) package = filter.accepts node package

/-- No filter of the collection looks at what references remember. -/
def Filters.Pure (filters : Filters) : Prop := ∀ entry ∈ filters.entries, entry.2.Pure

/-- The filters that come with the library are pure. -/
theorem Filter.pure_of_ne_custom {filter : Filter} (h : ∀ test, filter ≠ .custom test) :
    filter.Pure := by
  cases filter with
  | custom test => exact (h test rfl).elim
  | _ => exact fun _ _ => rfl

/-- Pure filters decide alike about nodes that differ in their memories only. -/
theorem Filters.Pure.accepts_congr {filters : Filters} (h : filters.Pure) {node other : TypeNode}
    (hnode : node.mapReferences .forget = other.mapReferences .forget) (package : Option Package) :
    filters.accepts node package = filters.accepts other package := by
  rw [Filters.accepts, Filters.accepts, Bool.eq_iff_iff, List.all_eq_true, List.all_eq_true]
  have hentry (entry : FilterId × Filter) (hmem : entry ∈ filters.entries) :
      entry.2.accepts node package = entry.2.accepts other package := by
    rw [← h entry hmem node, ← h entry hmem other, hnode]
  constructor
  · exact fun hall entry hmem => hentry entry hmem ▸ hall entry hmem
  · exact fun hall entry hmem => (hentry entry hmem).symm ▸ hall entry hmem

namespace Model

variable {model : Model}

/-! ## Types and references -/

/-- Types are looked up before or after their references change, which is the same. -/
theorem type?_mapReferences (change : TypeReference → TypeReference) (ty : TypeId) :
    (model.mapReferences change).type? ty = (model.type? ty).map (·.mapReferences change) := by
  rw [type?, type?, mapReferences, Array.getElem?_map]

/-- So are references. -/
theorem reference?_mapReferences (change : TypeReference → TypeReference) (site : Site) :
    (model.mapReferences change).reference? site = (model.reference? site).map change := by
  cases site with
  | parent ty =>
      rw [reference?, reference?, type?_mapReferences, Option.bind_map, Option.map_bind]
      rfl
  | interface ty position =>
      rw [reference?, reference?, type?_mapReferences, Option.bind_map, Option.map_bind]
      simp only [Function.comp_def, TypeNode.mapReferences, List.getElem?_map]

/-- The type once its references have been followed. -/
def settleNode (model : Model) (node : TypeNode) : TypeNode :=
  node.mapReferences (·.settle model.symbols)

/-- A reference that has been followed points where it pointed before. -/
@[simp] theorem aim_settled (reference : TypeReference) :
    model.settled.aim (reference.settle model.symbols) = model.aim reference :=
  congrArg (Prod.mk reference.kind) (reference.target?_settle model.symbols)

/-- The filters do not see whether the references have been followed. -/
theorem accepts_settled (hpure : model.filters.Pure) (node : TypeNode) :
    model.settled.accepts (model.settleNode node) = model.accepts node := by
  refine hpure.accepts_congr ?_ _
  simp [settleNode, TypeNode.mapReferences, Function.comp_def]

/-- No question sees whether references have been followed. -/
theorem looksLike_settled (hpure : model.filters.Pure) :
    model.LooksLike model.settled model.settleNode where
  types := rfl
  members := rfl
  packages := rfl
  functions := rfl
  id _ := rfl
  name _ := rfl
  kind _ := rfl
  package _ := rfl
  userDefined _ := rfl
  isAbstract _ := rfl
  interfaces node := by simp [settleNode, TypeNode.mapReferences, Function.comp_def]
  parent node := by simp [settleNode, TypeNode.mapReferences, Function.comp_def]
  accepts := accepts_settled hpure

end Model

/-! ## Questions -/

variable {model : Model}

/-- **Answers**: the settled model answers every question as the model does. -/
theorem Query.answer_settled (hpure : model.filters.Pure) (query : Query) :
    query.answer model.settled = query.answer model :=
  (Model.looksLike_settled hpure).answer_eq query

/-- **Sites**: the settled model follows the same references to find an
answer. -/
theorem Query.sites_settled (hpure : model.filters.Pure) (query : Query) :
    query.sites model.settled = query.sites model :=
  (Model.looksLike_settled hpure).sites_eq query

/-! ## Answers after questions -/

namespace Model

/-- Following a second time changes nothing. -/
theorem settle_settle (reference : TypeReference) (table : SymbolTable) :
    (reference.settle table).settle table = reference.settle table := by
  rw [TypeReference.settle, TypeReference.target?_settle]
  rfl

/-- A change that a followed node does not show is not seen in the settled model. -/
theorem settled_modifyType (ty : TypeId) {change : TypeNode → TypeNode}
    (h : ∀ node, model.settleNode (change node) = model.settleNode node) :
    (model.modifyType ty change).settled = model.settled := by
  have htypes : (model.types.modify ty.index change).map model.settleNode =
      model.types.map model.settleNode := by
    refine Array.ext_getElem? fun i => ?_
    rw [Array.getElem?_map, Array.getElem?_map, Array.getElem?_modify]
    split
    · rw [Option.map_map]
      exact congrArg (Option.map · model.types[i]?) (funext h)
    · rfl
  exact congrArg (fun types => { model with types }) htypes

/-- Following references leaves the settled model as it is. -/
theorem settled_settle (model : Model) (sites : List Site) :
    (model.settle sites).settled = model.settled := by
  induction sites generalizing model with
  | nil => rfl
  | cons site sites ih =>
      refine (ih (model.settleAt site)).trans ?_
      cases site with
      | parent ty =>
          refine settled_modifyType ty fun node => ?_
          cases hparent : node.parent with
          | none => simp [settleNode, TypeNode.mapReferences, hparent]
          | some reference =>
              simp [settleNode, TypeNode.mapReferences, hparent, settle_settle]
      | interface ty position =>
          refine settled_modifyType ty fun node => ?_
          have hinterfaces : (node.interfaces.modify position (·.settle model.symbols)).map
              (·.settle model.symbols) = node.interfaces.map (·.settle model.symbols) := by
            refine List.ext_getElem? fun i => ?_
            rw [List.getElem?_map, List.getElem?_map, List.getElem?_modify]
            cases node.interfaces[i]? with
            | none => rfl
            | some reference => by_cases hi : position = i <;> simp [hi, settle_settle]
          simp only [settleNode, TypeNode.mapReferences, hinterfaces]

/-- Questions follow references and leave everything else alone. -/
theorem exists_settle_eq_foldl_after (model : Model) (queries : List Query) :
    ∃ sites, queries.foldl Model.after model = model.settle sites := by
  induction queries generalizing model with
  | nil => exact ⟨[], rfl⟩
  | cons query queries ih =>
      obtain ⟨sites, hsites⟩ := ih (model.after query)
      refine ⟨query.sites model ++ sites, ?_⟩
      rw [List.foldl_cons, hsites, after, settle, settle, settle, List.foldl_append]

end Model

/-- A question is answered as if no reference had been followed before. -/
theorem Query.answer_settle (hpure : model.filters.Pure) (sites : List Site) (query : Query) :
    query.answer (model.settle sites) = query.answer model := by
  have hfilters : (model.settle sites).filters = model.filters := by rw [Model.settle_rest]
  rw [← query.answer_settled (hfilters ▸ hpure), Model.settled_settle, query.answer_settled hpure]

end TypeGraph
