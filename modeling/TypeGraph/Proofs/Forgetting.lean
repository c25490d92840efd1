import TypeGraph.Proofs.Memo
import TypeGraph.Proofs.Naturality

/-!
# TypeGraph.Proofs.Forgetting

Two models that are alike but for what their references remember, where the
one remembers less than the other (`Model.Forgets`):

1. `Query.answer_of_forgets` — if both are sound, they answer alike;
2. `Model.Forgets.after` and `Model.Forgets.after_right` — a question to both,
   or to the one that remembers more, leaves it so;
3. `Operation.Forgets.after` — and so does an operation on both.
-/

namespace TypeGraph

/-! ## Models without memos -/

namespace Model

/-- The model as if nobody had followed its references. -/
def unmemoized (model : Model) : Model := model.mapReferences .forget

/-- Only the references that are attached matter. -/
theorem mapReferences_congr {model : Model} {change change' : TypeReference → TypeReference}
    (h : ∀ site reference, model.reference? site = some reference →
      change reference = change' reference) :
    model.mapReferences change = model.mapReferences change' := by
  have hnode (ty : TypeId) (node : TypeNode) (hnode : model.type? ty = some node) :
      node.mapReferences change = node.mapReferences change' := by
    have hparent : node.parent.map change = node.parent.map change' := by
      refine Option.map_congr fun reference hreference => h (.parent ty) reference ?_
      rw [reference?, hnode, Option.bind_some, hreference]
    have hinterfaces : node.interfaces.map change = node.interfaces.map change' := by
      refine List.map_congr_left fun reference hreference => ?_
      obtain ⟨position, hposition⟩ := List.mem_iff_getElem?.1 hreference
      refine h (.interface ty position) reference ?_
      rw [reference?, hnode, Option.bind_some, hposition]
    rw [TypeNode.mapReferences, TypeNode.mapReferences, hparent, hinterfaces]
  have htypes : model.types.map (·.mapReferences change) =
      model.types.map (·.mapReferences change') := by
    refine Array.ext_getElem? fun i => ?_
    rw [Array.getElem?_map, Array.getElem?_map]
    exact Option.map_congr fun node hi => hnode ⟨i⟩ node hi
  rw [mapReferences, mapReferences, htypes]

/-- Sound references point at the same types if they are made to forget. -/
theorem MemosSound.settled_unmemoized {model : Model} (h : model.MemosSound) :
    model.unmemoized.settled = model.settled := by
  have hcomp : model.unmemoized.settled =
      model.mapReferences fun reference => reference.forget.settle model.symbols := by
    simp [unmemoized, settled, mapReferences, TypeNode.mapReferences, Function.comp_def]
  rw [hcomp, settled]
  refine mapReferences_congr fun site reference hreference => ?_
  rw [TypeReference.settle, TypeReference.settle, (h site reference hreference).target?_eq]
  rfl

/-- Whether the reference at a site has been found. -/
def resolvedAt (model : Model) (site : Site) : Bool :=
  (model.reference? site).any (·.isResolved)

/-- One model is like another, but some of its references remember nothing. -/
structure Forgets (less more : Model) : Prop where
  unmemoized : less.unmemoized = more.unmemoized
  resolvedAt : ∀ site, less.resolvedAt site = true → more.resolvedAt site = true

end Model

/-- Likewise for references. -/
structure TypeReference.Forgets (less more : TypeReference) : Prop where
  forget : less.forget = more.forget
  isResolved : less.isResolved = true → more.isResolved = true

namespace Model.Forgets

variable {less more : Model}

theorem refl (model : Model) : model.Forgets model := ⟨rfl, fun _ h => h⟩

theorem symbols (h : less.Forgets more) : less.symbols = more.symbols := by
  have hsymbols : less.unmemoized.symbols = more.unmemoized.symbols := by rw [h.unmemoized]
  exact hsymbols

theorem filters (h : less.Forgets more) : less.filters = more.filters := by
  have hfilters : less.unmemoized.filters = more.unmemoized.filters := by rw [h.unmemoized]
  exact hfilters

theorem lookup (h : less.Forgets more) (name : String) : less.lookup name = more.lookup name := by
  rw [Model.lookup, h.symbols, Model.lookup]

theorem copy (h : less.Forgets more) (origin : Nat) :
    (less.copy origin).Forgets (more.copy origin) where
  unmemoized := congrArg (Model.copy · origin) h.unmemoized
  resolvedAt := h.resolvedAt

/-- The same references are attached, once they are made to forget. -/
theorem forget_reference? (h : less.Forgets more) (site : Site) :
    (less.reference? site).map (·.forget) = (more.reference? site).map (·.forget) := by
  rw [← reference?_mapReferences, ← reference?_mapReferences]
  exact congrArg (Model.reference? · site) h.unmemoized

/-- References are attached at the same sites. -/
theorem reference?_eq_none (h : less.Forgets more) {site : Site} :
    less.reference? site = none ↔ more.reference? site = none := by
  have hforget := h.forget_reference? site
  rw [← Option.map_eq_none_iff (f := (·.forget)), hforget, Option.map_eq_none_iff]

/-- The same references are attached, but for what they remember. -/
theorem reference? (h : less.Forgets more) {site : Site} {reference : TypeReference}
    (hreference : less.reference? site = some reference) :
    ∃ known, more.reference? site = some known ∧ reference.Forgets known := by
  have hsite := h.forget_reference? site
  rw [hreference, Option.map_some, eq_comm, Option.map_eq_some_iff] at hsite
  obtain ⟨known, hknown, hforget⟩ := hsite
  refine ⟨known, hknown, hforget.symm, fun hresolved => ?_⟩
  have hmore := h.resolvedAt site (by rwa [Model.resolvedAt, hreference])
  rwa [Model.resolvedAt, hknown] at hmore

/-- The same types are there, but for what their references remember. -/
theorem type? (h : less.Forgets more) {β : Type} {related : β → β → Prop}
    {view view' : TypeNode → β} (hview : ∀ node known,
      node.mapReferences .forget = known.mapReferences .forget →
        related (view node) (view' known)) (ty : TypeId) :
    Option.Rel related ((less.type? ty).map view) ((more.type? ty).map view') := by
  have htype : (less.type? ty).map (·.mapReferences .forget) =
      (more.type? ty).map (·.mapReferences .forget) := by
    rw [← type?_mapReferences, ← type?_mapReferences]
    exact congrArg (Model.type? · ty) h.unmemoized
  cases hless : less.type? ty with
  | none =>
      rw [hless, Option.map_none, eq_comm, Option.map_eq_none_iff] at htype
      rw [htype]
      exact .none
  | some node =>
      rw [hless, Option.map_some, eq_comm, Option.map_eq_some_iff] at htype
      obtain ⟨known, hknown, hforget⟩ := htype
      rw [hknown]
      exact .some (hview node known hforget.symm)

/-- Sound models of which one forgets are the same once they are settled. -/
theorem settled_eq (h : less.Forgets more) (hless : less.MemosSound) (hmore : more.MemosSound) :
    less.settled = more.settled := by
  rw [← hless.settled_unmemoized, h.unmemoized, hmore.settled_unmemoized]

end Model.Forgets

/-- Sound references need not remember anything for an answer. -/
theorem Query.answer_unmemoized {model : Model} (hsound : model.MemosSound)
    (hpure : model.filters.Pure) (query : Query) :
    query.answer model.unmemoized = query.answer model := by
  have hpure' : model.unmemoized.filters.Pure := hpure
  rw [← query.answer_settled hpure', hsound.settled_unmemoized, query.answer_settled hpure]

/-- **Memos**: whatever sound references remember, the answer is the same. -/
theorem Query.answer_of_forgets {less more : Model} (h : less.Forgets more)
    (hless : less.MemosSound) (hmore : more.MemosSound) (hpure : more.filters.Pure)
    (query : Query) : query.answer less = query.answer more := by
  rw [← query.answer_settled (h.filters ▸ hpure), h.settled_eq hless hmore,
    query.answer_settled hpure]

/-- A question follows the same references in both. -/
theorem Query.sites_of_forgets {less more : Model} (h : less.Forgets more)
    (hless : less.MemosSound) (hmore : more.MemosSound) (hpure : more.filters.Pure)
    (query : Query) : query.sites less = query.sites more := by
  rw [← query.sites_settled (h.filters ▸ hpure), h.settled_eq hless hmore,
    query.sites_settled hpure]

/-! ## Questions to both or to one -/

namespace TypeReference.Forgets

variable {less more : TypeReference}

theorem refl (reference : TypeReference) : reference.Forgets reference := ⟨rfl, fun h => h⟩

theorem name_eq (h : less.Forgets more) : less.name = more.name := by
  have hname : less.forget.name = more.forget.name := by rw [h.forget]
  exact hname

/-- What the one that remembers less finds, the other one finds as well. -/
theorem isSome_target? (h : less.Forgets more) {table : SymbolTable}
    (hless : (less.target? table).isSome = true) : (more.target? table).isSome = true := by
  cases hmore : more.memo with
  | some ty => rw [target?, hmore, Option.isSome_some]
  | none =>
      have hnone : less.memo = none := by
        refine Option.eq_none_iff_forall_not_mem.2 fun ty hty => ?_
        have hresolved : more.memo.isSome = true := h.isResolved (Option.isSome_of_mem hty)
        rw [hmore] at hresolved
        contradiction
      rw [target?, hnone, h.name_eq] at hless
      rwa [target?, hmore]

/-- What the one that remembers more does not find, the other one does not. -/
theorem target?_eq_none (h : less.Forgets more) {table : SymbolTable}
    (hmore : more.target? table = none) : less.target? table = none := by
  rw [← Option.not_isSome_iff_eq_none] at hmore ⊢
  exact mt h.isSome_target? hmore

/-- Whatever a table knows, following both keeps the one behind the other. -/
theorem settle (h : less.Forgets more) (table : SymbolTable) :
    (less.settle table).Forgets (more.settle table) where
  forget := h.forget
  isResolved := h.isSome_target?

end TypeReference.Forgets

namespace Model

variable {less more : Model}

/-- A change to what references remember is not seen without memos. -/
theorem unmemoized_modifyType (model : Model) (ty : TypeId) {edit : TypeNode → TypeNode}
    (h : ∀ node, (edit node).mapReferences .forget = node.mapReferences .forget) :
    (model.modifyType ty edit).unmemoized = model.unmemoized := by
  have htypes : (model.types.modify ty.index edit).map (·.mapReferences .forget) =
      model.types.map (·.mapReferences .forget) := by
    refine Array.ext_getElem? fun i => ?_
    rw [Array.getElem?_map, Array.getElem?_modify, Array.getElem?_map]
    split
    · rw [Option.map_map]
      exact congrArg (Option.map · model.types[i]?) (funext h)
    · rfl
  rw [modifyType, unmemoized, unmemoized, mapReferences, mapReferences, htypes]

/-- Following a reference is not seen without memos. -/
theorem unmemoized_settleIn (model : Model) (table : SymbolTable) (target : Site) :
    (model.settleIn table target).unmemoized = model.unmemoized := by
  cases target with
  | parent ty =>
      refine model.unmemoized_modifyType ty fun node => ?_
      simp [TypeNode.mapReferences, Function.comp_def]
  | interface ty position =>
      refine model.unmemoized_modifyType ty fun node => ?_
      have hinterfaces : (node.interfaces.modify position (·.settle table)).map (·.forget) =
          node.interfaces.map (·.forget) := by
        refine List.ext_getElem? fun i => ?_
        rw [List.getElem?_map, List.getElem?_modify, List.getElem?_map]
        split <;> simp [Function.comp_def]
      rw [TypeNode.mapReferences, TypeNode.mapReferences, hinterfaces]

/-- A reference is resolved after it has been followed if something was found. -/
theorem resolvedAt_settleIn (model : Model) (table : SymbolTable) (target site : Site) :
    (model.settleIn table target).resolvedAt site =
      if target = site then
        (model.reference? site).any fun reference => (reference.target? table).isSome
      else model.resolvedAt site := by
  rw [resolvedAt, reference?_settleIn]
  split
  · rw [Option.any_map]
    rfl
  · rfl

namespace Forgets

/-- A reference is followed in both models, with the same table. -/
theorem settleIn (h : less.Forgets more) (table : SymbolTable) (target : Site) :
    (less.settleIn table target).Forgets (more.settleIn table target) where
  unmemoized := by rw [unmemoized_settleIn, unmemoized_settleIn, h.unmemoized]
  resolvedAt site hless := by
    rw [resolvedAt_settleIn] at hless ⊢
    split at hless
    · rename_i hsite
      rw [if_pos hsite]
      obtain ⟨reference, hreference, hfound⟩ := (Option.any_eq_true ..).1 hless
      obtain ⟨known, hknown, hforgets⟩ := h.reference? hreference
      exact (Option.any_eq_true ..).2 ⟨known, hknown, hforgets.isSome_target? hfound⟩
    · rename_i hsite
      rw [if_neg hsite]
      exact h.resolvedAt site hless

/-- A reference is followed in the model that remembers more. -/
theorem settleIn_right (h : less.Forgets more) (table : SymbolTable) (target : Site) :
    less.Forgets (more.settleIn table target) where
  unmemoized := by rw [unmemoized_settleIn, h.unmemoized]
  resolvedAt site hless := by
    rw [resolvedAt_settleIn]
    split
    · obtain ⟨reference, hreference, hresolved⟩ :=
        (Option.any_eq_true ..).1 (h.resolvedAt site hless)
      refine (Option.any_eq_true ..).2 ⟨reference, hreference, ?_⟩
      obtain ⟨ty, hty⟩ := Option.isSome_iff_exists.1 hresolved
      rw [TypeReference.target?, hty, Option.isSome_some]
    · exact h.resolvedAt site hless

theorem settle (h : less.Forgets more) (sites : List Site) :
    (less.settle sites).Forgets (more.settle sites) := by
  induction sites generalizing less more with
  | nil => exact h
  | cons site sites ih =>
      refine ih ?_
      rw [settleAt, settleAt, h.symbols]
      exact h.settleIn more.symbols site

/-- References are followed in the model that remembers more. -/
theorem settle_right (h : less.Forgets more) (sites : List Site) :
    less.Forgets (more.settle sites) :=
  settle_of_settleIn (fun hbefore table site => hbefore.settleIn_right table site) h sites

theorem after (h : less.Forgets more) (hless : less.MemosSound) (hmore : more.MemosSound)
    (hpure : more.filters.Pure) (query : Query) :
    (less.after query).Forgets (more.after query) := by
  rw [Model.after, Model.after, query.sites_of_forgets h hless hmore hpure]
  exact h.settle _

theorem after_right (h : less.Forgets more) (query : Query) : less.Forgets (more.after query) :=
  h.settle_right _

end Forgets

end Model

/-! ## Operations on both -/

/-- One operation is like another, but the reference that it attaches may
remember nothing. -/
inductive Operation.Forgets : Operation → Operation → Prop where
  | same (operation : Operation) : Forgets operation operation
  | setParent (ty : TypeId) {less more : TypeReference} (h : less.Forgets more) :
      Forgets (.setParent ty less) (.setParent ty more)
  | addInterface (ty : TypeId) {less more : TypeReference} (h : less.Forgets more) :
      Forgets (.addInterface ty less) (.addInterface ty more)

namespace Operation.Forgets

variable {less more : Model} {operation known : Operation}

/-- The operations are the same without memos. -/
theorem mapReferences (h : operation.Forgets known) :
    operation.mapReferences .forget = known.mapReferences .forget := by
  cases h with
  | same => rfl
  | setParent ty h => exact congrArg (Operation.setParent ty) h.forget
  | addInterface ty h => exact congrArg (Operation.addInterface ty) h.forget

/-- Both are refused, with the same error, or neither is. -/
theorem refusal? (h : operation.Forgets known) (hmodel : less.Forgets more) :
    operation.refusal? less = known.refusal? more := by
  have hmodels : less.mapReferences .forget = more.mapReferences .forget := hmodel.unmemoized
  rw [← operation.refusal?_mapReferences less .forget (fun _ => rfl) fun _ => rfl, hmodels,
    h.mapReferences, known.refusal?_mapReferences more .forget (fun _ => rfl) fun _ => rfl]

/-- Both are answered alike. -/
theorem reply (h : operation.Forgets known) (hmodel : less.Forgets more) :
    operation.reply less = known.reply more := by
  have hmodels : less.mapReferences .forget = more.mapReferences .forget := hmodel.unmemoized
  rw [← operation.reply_mapReferences less .forget, hmodels, h.mapReferences,
    known.reply_mapReferences more .forget]

/-- Both attach the parent at the same site. -/
theorem attaches_setParent (hmodel : less.Forgets more) (ty : TypeId)
    {reference found : TypeReference} (h : reference.Forgets found) :
    Option.Rel (fun a b => a.1 = b.1 ∧ a.2.Forgets b.2)
      ((Operation.setParent ty reference).attaches less)
      ((Operation.setParent ty found).attaches more) :=
  hmodel.type? (fun _ _ _ => ⟨rfl, h⟩) ty

/-- Both attach the interface at the same site. -/
theorem attaches_addInterface (hmodel : less.Forgets more) (ty : TypeId)
    {reference found : TypeReference} (h : reference.Forgets found) :
    Option.Rel (fun a b => a.1 = b.1 ∧ a.2.Forgets b.2)
      ((Operation.addInterface ty reference).attaches less)
      ((Operation.addInterface ty found).attaches more) := by
  refine hmodel.type? (fun node known hforget => ⟨congrArg (Site.interface ty) ?_, h⟩) ty
  have hlength := congrArg (List.length ∘ TypeNode.interfaces) hforget
  simpa [TypeNode.mapReferences] using hlength

/-- Both attach at the same site, if they attach. -/
theorem attaches (h : operation.Forgets known) (hmodel : less.Forgets more) :
    Option.Rel (fun a b => a.1 = b.1 ∧ a.2.Forgets b.2) (operation.attaches less)
      (known.attaches more) := by
  cases h with
  | same =>
      cases operation with
      | setParent ty reference => exact attaches_setParent hmodel ty (.refl reference)
      | addInterface ty reference => exact attaches_addInterface hmodel ty (.refl reference)
      | _ => exact .none
  | setParent ty h => exact attaches_setParent hmodel ty h
  | addInterface ty h => exact attaches_addInterface hmodel ty h

/-- What both do leaves the one model behind the other. -/
theorem effect (h : operation.Forgets known) (hmodel : less.Forgets more) :
    (operation.effect less).Forgets (known.effect more) where
  unmemoized := by
    have hmodels : less.mapReferences .forget = more.mapReferences .forget := hmodel.unmemoized
    rw [Model.unmemoized, Model.unmemoized, ← operation.effect_mapReferences,
      ← known.effect_mapReferences, h.mapReferences, hmodels]
  resolvedAt site hless := by
    have hattaches := h.attaches hmodel
    rw [Model.resolvedAt, operation.reference?_effect] at hless
    rw [Model.resolvedAt, known.reference?_effect]
    cases hop : operation.attaches less with
    | none =>
        rw [hop] at hless hattaches
        cases hknown : known.attaches more with
        | none => exact hmodel.resolvedAt site hless
        | some _ => rw [hknown] at hattaches; cases hattaches
    | some attached =>
        rw [hop] at hless hattaches
        cases hknown : known.attaches more with
        | none => rw [hknown] at hattaches; cases hattaches
        | some attached' =>
            rw [hknown] at hattaches
            obtain ⟨hsite, hforgets⟩ :
                attached.1 = attached'.1 ∧ attached.2.Forgets attached'.2 := by
              cases hattaches
              assumption
            dsimp only at hless ⊢
            rw [← hsite]
            split at hless
            · rename_i htarget
              rw [if_pos htarget]
              exact hforgets.isResolved hless
            · rename_i htarget
              rw [if_neg htarget]
              exact hmodel.resolvedAt site hless

theorem after (h : operation.Forgets known) (hmodel : less.Forgets more) :
    (operation.after less).Forgets (known.after more) := by
  rw [operation.after_eq, known.after_eq, h.refusal? hmodel]
  split
  · exact hmodel
  · exact h.effect hmodel

end Operation.Forgets

end TypeGraph
