import TypeGraph.Proofs.Attached
import TypeGraph.Proofs.Building
import TypeGraph.Proofs.Settled

/-!
# TypeGraph.Proofs.Memo

Sound memos: every attached reference remembers nothing, or what its name
resolves to in the model.

1. `Model.Sound.after` — whoever attaches only sound references keeps all memos
   sound, because no operation changes what a name that resolves resolves to;
2. `Model.Sound.ask` — questions keep them sound anyhow, and so does anybody else
   who follows an attached reference and knows no other type under its name
   (`Model.Sound.settleIn`);
3. `Model.ReachableBy.memosSound`, `Model.Sound.build` — fresh references are
   sound, so whoever attaches no others has sound memos, as a model that is built
   has.
-/

namespace TypeGraph

/-! ## Sound memos -/

/-- Nothing is found if nothing is remembered and the table does not know the
name. -/
theorem TypeReference.target?_eq_none {reference : TypeReference} {table : SymbolTable} :
    reference.target? table = none ↔
      reference.memo = none ∧ table.lookup reference.name = none := by
  cases h : reference.memo with
  | none => simp [target?, h]
  | some ty => simp [target?, h]

/-- The reference remembers nothing, or what its name resolves to. -/
def TypeReference.SoundIn (reference : TypeReference) (model : Model) : Prop :=
  reference.memo = none ∨ reference.memo = model.lookup reference.name

namespace TypeReference.SoundIn

variable {reference : TypeReference} {model after : Model}

/-- A sound reference stays sound while names keep their types. -/
theorem mono (h : reference.SoundIn model)
    (hlookup : ∀ {name ty}, model.lookup name = some ty → after.lookup name = some ty) :
    reference.SoundIn after := by
  obtain hnone | hmemo := h
  · exact .inl hnone
  · cases hname : model.lookup reference.name with
    | none => exact .inl (hmemo.trans hname)
    | some ty => exact .inr (by rw [hmemo, hname, hlookup hname])

/-- A sound reference points at what its name resolves to, also for a table that
knows the name as the model does. -/
theorem target?_eq_of_lookup_eq (h : reference.SoundIn model) {table : SymbolTable}
    (hlookup : table.lookup reference.name = model.lookup reference.name) :
    reference.target? table = model.lookup reference.name := by
  obtain hnone | hmemo := h
  · rw [target?, hnone]
    exact hlookup
  · cases hname : model.lookup reference.name with
    | none =>
        rw [target?, hmemo, hname]
        exact hlookup.trans hname
    | some ty => rw [target?, hmemo, hname]

theorem target?_eq (h : reference.SoundIn model) :
    reference.target? model.symbols = model.lookup reference.name :=
  h.target?_eq_of_lookup_eq rfl

/-- A sound reference stays so if it is followed with a table that knows nothing
else under its name than the model does. -/
theorem settle (h : reference.SoundIn model) {table : SymbolTable}
    (hagrees : table.lookup reference.name = none ∨
      table.lookup reference.name = model.lookup reference.name) :
    (reference.settle table).SoundIn model := by
  obtain hnone | hlookup := hagrees
  · cases hmemo : reference.memo with
    | none =>
        -- nothing is found, so nothing is remembered
        refine .inl ?_
        rw [TypeReference.settle, target?, hmemo]
        exact hnone
    | some ty =>
        have hkept : (reference.settle table).memo = reference.memo := by
          rw [TypeReference.settle, target?, hmemo]
        rwa [TypeReference.SoundIn, hkept]
  · exact .inr (h.target?_eq_of_lookup_eq hlookup)

end TypeReference.SoundIn

/-- Every attached reference remembers nothing, or what its name resolves to. -/
def Model.MemosSound (model : Model) : Prop :=
  ∀ site reference, model.reference? site = some reference → reference.SoundIn model

/-- Under the name of the reference at a site, the table knows nothing, or what
the model knows. -/
def Model.AgreesAt (model : Model) (table : SymbolTable) (site : Site) : Prop :=
  ∀ reference, model.reference? site = some reference →
    table.lookup reference.name = none ∨ table.lookup reference.name = model.lookup reference.name

namespace Model.MemosSound

variable {model : Model}

theorem empty (origin : Nat) (filters : Filters) : (Model.empty origin filters).MemosSound := by
  intro site reference h
  cases site <;> simp [reference?, type?, Model.empty] at h

theorem copy (h : model.MemosSound) (origin : Nat) : (model.copy origin).MemosSound := h

/-- An operation keeps memos sound if it attaches no unsound reference. -/
theorem effect (h : model.MemosSound) {operation : Operation}
    (hattaches : ∀ site reference, operation.attaches model = some (site, reference) →
      reference.SoundIn model) : (operation.effect model).MemosSound := by
  intro site reference hreference
  rw [operation.reference?_effect] at hreference
  suffices hsound : reference.SoundIn model from hsound.mono (operation.lookup_effect model)
  cases hop : operation.attaches model with
  | none =>
      rw [hop] at hreference
      exact h site reference hreference
  | some attached =>
      rw [hop] at hreference
      dsimp only at hreference
      split at hreference
      · obtain rfl := Option.some_inj.1 hreference
        exact hattaches attached.1 attached.2 hop
      · exact h site reference hreference

/-- Somebody who knows no other type under its name may follow a reference. -/
theorem settleIn (h : model.MemosSound) {table : SymbolTable} {target : Site}
    (hagrees : model.AgreesAt table target) : (model.settleIn table target).MemosSound := by
  intro site reference hreference
  rw [TypeReference.SoundIn, lookup_settleIn]
  rw [reference?_settleIn] at hreference
  split at hreference
  · rename_i hsite
    obtain ⟨before, hbefore, rfl⟩ := Option.map_eq_some_iff.1 hreference
    exact (h site before hbefore).settle (hagrees before (hsite ▸ hbefore))
  · exact h site reference hreference

/-- Questions keep memos sound: the model agrees with itself. -/
theorem settle (h : model.MemosSound) (sites : List Site) : (model.settle sites).MemosSound := by
  induction sites generalizing model with
  | nil => exact h
  | cons site sites ih => exact ih (h.settleIn fun _ _ => .inr rfl)

end Model.MemosSound

/-! ## Sound models -/

/-- The model has sound memos, and filters that do not look at memos. -/
structure Model.Sound (model : Model) : Prop where
  memos : model.MemosSound
  filters : model.filters.Pure

/-- The operation attaches no unsound reference and sets no impure filters. -/
structure Operation.Harmless (operation : Operation) (model : Model) : Prop where
  attaches : ∀ site reference, operation.attaches model = some (site, reference) →
    reference.SoundIn model
  filters : ∀ filters, operation = .setFilters filters → filters.Pure

namespace Model.Sound

variable {model : Model}

/-- A harmless operation, carried out or refused, keeps the model sound. -/
theorem after (h : model.Sound) {operation : Operation} (hoperation : operation.Harmless model) :
    (operation.after model).Sound := by
  rw [operation.after_eq]
  split
  · exact h
  · refine ⟨h.memos.effect hoperation.attaches, ?_⟩
    rw [operation.filters_effect]
    split
    · exact hoperation.filters _ rfl
    · exact h.filters

/-- A question keeps it sound. -/
theorem ask (h : model.Sound) (query : Query) : (model.after query).Sound where
  memos := h.memos.settle _
  filters := by
    rw [Model.after, settle_rest]
    exact h.filters

/-- So does somebody else who knows no other type under the name. -/
theorem settleIn (h : model.Sound) {table : SymbolTable} {site : Site}
    (hagrees : model.AgreesAt table site) : (model.settleIn table site).Sound where
  memos := h.memos.settleIn hagrees
  filters := by
    rw [settleIn_rest]
    exact h.filters

end Model.Sound

/-! ## Harmless operations -/

namespace Operation

variable {model : Model}

/-- An operation that attaches one reference is harmless if that is sound. -/
theorem Harmless.of_attached {operation : Operation} {reference : TypeReference}
    (hattaches : ∀ site attached, operation.attaches model = some (site, attached) →
      attached = reference) (hfilters : ∀ filters, operation ≠ .setFilters filters)
    (h : reference.SoundIn model) : operation.Harmless model where
  attaches site attached hattached := hattaches site attached hattached ▸ h
  filters filters heq := (hfilters filters heq).elim

/-- Attaching a sound parent. -/
theorem Harmless.setParent (ty : TypeId) {reference : TypeReference}
    (h : reference.SoundIn model) : (Operation.setParent ty reference).Harmless model := by
  refine .of_attached (fun site attached hattached => ?_) (fun _ => nofun) h
  obtain ⟨node, -, hpair⟩ := Option.map_eq_some_iff.1 hattached
  exact (congrArg Prod.snd hpair).symm

/-- Attaching a sound interface. -/
theorem Harmless.addInterface (ty : TypeId) {reference : TypeReference}
    (h : reference.SoundIn model) : (Operation.addInterface ty reference).Harmless model := by
  refine .of_attached (fun site attached hattached => ?_) (fun _ => nofun) h
  obtain ⟨node, -, hpair⟩ := Option.map_eq_some_iff.1 hattached
  exact (congrArg Prod.snd hpair).symm

/-- Setting filters that are pure. -/
theorem Harmless.setFilters {filters : Filters} (h : filters.Pure) :
    (Operation.setFilters filters).Harmless model where
  attaches := fun _ _ hattached => nomatch hattached
  filters other heq := by
    injection heq with heq
    exact heq ▸ h

/-- A fresh operation is harmless in any model. -/
theorem Fresh.harmless {operation : Operation} (h : operation.Fresh) :
    operation.Harmless model := by
  cases operation with
  | setParent ty reference => exact .setParent ty (.inl h)
  | addInterface ty reference => exact .addInterface ty (.inl h)
  | setFilters filters => exact h.elim
  | _ => exact ⟨nofun, nofun⟩

end Operation

/-! ## Fresh references -/

/-- The operation attaches no reference that has been followed with success. -/
def Operation.AttachesFresh : Operation → Prop
  | .setParent _ reference | .addInterface _ reference => reference.memo = none
  | _ => True

namespace Operation

variable {operation : Operation}

/-- What building does attaches fresh references only. -/
theorem Fresh.attachesFresh (h : operation.Fresh) : operation.AttachesFresh := by
  cases operation with
  | setParent ty reference | addInterface ty reference => exact h
  | _ => trivial

/-- A fresh reference is sound wherever it is attached. -/
theorem AttachesFresh.soundIn (h : operation.AttachesFresh) (model : Model) (site : Site)
    (reference : TypeReference) (hattaches : operation.attaches model = some (site, reference)) :
    reference.SoundIn model := by
  cases operation with
  | setParent ty attached => exact (Harmless.setParent ty (.inl h)).attaches _ _ hattaches
  | addInterface ty attached => exact (Harmless.addInterface ty (.inl h)).attaches _ _ hattaches
  | _ => contradiction

end Operation

/-- The event attaches nothing but a fresh reference, and nobody follows an
attached one who knows another type under its name. -/
def Event.Faithful (model : Model) : Event → Prop
  | .operate operation => operation.AttachesFresh
  | .resolve table site => model.AgreesAt table site
  | _ => True

/-- As long as nothing but fresh references is attached, and nobody makes them
remember another type, memos are sound. -/
theorem Model.ReachableBy.memosSound {model : Model} (h : model.ReachableBy Event.Faithful) :
    model.MemosSound := by
  induction h with
  | empty origin filters => exact .empty origin filters
  | event event hfaithful _ ih =>
      cases event with
      | operate operation =>
          have hfresh : operation.AttachesFresh := hfaithful
          rw [Event.after, operation.after_eq]
          split
          · exact ih
          · exact ih.effect (hfresh.soundIn _)
      | ask query => exact ih.settle _
      | copy origin => exact ih.copy origin
      | resolve table site => exact ih.settleIn hfaithful

/-! ## Built models -/

/-- Building sets the filters and nothing changes them. -/
theorem Model.build_filters {origin : Nat} {filters : Filters} {placeholders : Bool}
    {declarations : Declarations} {model : Model}
    (h : Model.build origin filters placeholders declarations = .ok model) :
    model.filters = filters := by
  obtain ⟨operations, hbuilds, rfl⟩ := Model.build_eq_run h
  suffices hkept : ∀ model : Model, (model.run operations).filters = model.filters from hkept _
  clear h
  induction operations with
  | nil => exact fun _ => rfl
  | cons operation operations ih =>
      intro model
      have hrest := ih (fun other hother => hbuilds other (by simp [hother]))
        (operation.after model)
      refine hrest.trans ?_
      rw [operation.after_eq]
      split
      · rfl
      · rw [operation.filters_effect]
        split
        · exact (hbuilds _ List.mem_cons_self).1.elim
        · rfl

/-- Building attaches nothing but fresh references. -/
theorem Model.build_faithful {origin : Nat} {filters : Filters} {placeholders : Bool}
    {declarations : Declarations} {model : Model}
    (h : Model.build origin filters placeholders declarations = .ok model) :
    model.ReachableBy Event.Faithful :=
  build_reachableBy h fun _ _ hbuilds => hbuilds.1.attachesFresh

/-- A model that is built is sound. -/
theorem Model.Sound.build {origin : Nat} {filters : Filters} {placeholders : Bool}
    {declarations : Declarations} {model : Model} (hpure : filters.Pure)
    (h : Model.build origin filters placeholders declarations = .ok model) : model.Sound where
  memos := (build_faithful h).memosSound
  filters := by rwa [build_filters h]

end TypeGraph
