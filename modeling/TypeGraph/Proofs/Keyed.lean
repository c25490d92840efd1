import Mathlib.Data.Finset.Dedup
import TypeGraph.Proofs.Blueprint
import TypeGraph.Proofs.Mirror

/-!
# TypeGraph.Proofs.Keyed

Types told by the keys of their names.  Handles depend on the order in which
types are created, and keys do not:

1. `Model.Indexed` — every type is found by its key, so no two types share one;
2. `Model.Twins` — two models have the same types under different handles;
   `Model.twin` leads from a type of one to the type of the other that has its
   key, and `Twins.mirrors` says that this makes the second model an image of the
   first;
3. `Model.AgreesByKey` — key by key, two models answer alike.
-/

namespace TypeGraph

/-- What a type is by itself, under its key instead of its name. -/
def TypeNode.keyed (node : TypeNode) : TypeNode := { node.face with name := symbolKey node.name }

namespace Model

variable {model image : Model} {key : String} {ty ty' : TypeId}

/-! ## Keys -/

/-- The types, each found by its key and by no other one. -/
def Indexed (model : Model) : Prop :=
  ∀ key ty, model.symbols[key]? = some ty ↔ model.keyOf ty = some key

/-- The groups of types that depend on each other in a circle, as sets of
keys. -/
def cycleKeys (model : Model) : Finset (Finset String) :=
  (model.dependencyCycles.map fun group => (group.filterMap model.keyOf).toFinset).toFinset

/-- The key of a type is part of what is seen without its handle. -/
theorem keyOf_eq_map_keyed (model : Model) (ty : TypeId) :
    model.keyOf ty = ((model.type? ty).map (·.keyed)).map (·.name) := by
  rw [keyOf, Option.map_map]
  rfl

/-- Only types have keys. -/
theorem isSome_type?_of_keyOf (h : model.keyOf ty = some key) : (model.type? ty).isSome = true := by
  rw [keyOf, Option.map_eq_some_iff] at h
  obtain ⟨node, hnode, -⟩ := h
  simp [hnode]

/-- A model whose names have different keys is indexed by them. -/
theorem SymbolsFirst.indexed (h : model.SymbolsFirst)
    (hkeys : (model.typeNames.map symbolKey).Nodup) : model.Indexed := by
  intro key ty
  have hkey : model.keyOf ty = (model.typeNames.map symbolKey)[ty.index]? := by
    rw [List.getElem?_map, keyOf_eq]
  have hfind : model.typeNames.findIdx? (symbolKey · == key) =
      (model.typeNames.map symbolKey).findIdx? (· == key) := by
    rw [List.findIdx?_map]
    rfl
  rw [h key, hkey, hfind, Option.map_eq_some_iff]
  constructor
  · rintro ⟨i, hi, rfl⟩
    obtain ⟨hlt, heq, -⟩ := List.findIdx?_eq_some_iff_getElem.1 hi
    rw [List.getElem?_eq_getElem hlt, ← eq_of_beq heq]
  · intro hget
    obtain ⟨hlt, heq⟩ := List.getElem?_eq_some_iff.1 hget
    refine ⟨ty.index, List.findIdx?_eq_some_iff_getElem.2 ⟨hlt, by simp [heq], fun j hj => ?_⟩, rfl⟩
    -- a type before it with the same key would be the same type
    have hne := List.nodup_iff_getElem?_ne_getElem?.1 hkeys j ty.index hj hlt
    rw [hget, List.getElem?_eq_getElem (Nat.lt_trans hj hlt)] at hne
    simpa using hne

/-- No two types of an indexed model have one key. -/
theorem Indexed.eq_of_keyOf (h : model.Indexed) (hty : model.keyOf ty = some key)
    (hty' : model.keyOf ty' = some key) : ty = ty' := by
  rw [← h] at hty hty'
  exact Option.some_inj.1 (hty.symm.trans hty')

/-! ## Two models with the same types -/

/-- What building leaves: an indexed model without filters, in which no reference
has been followed. -/
structure Untouched (model : Model) : Prop where
  numbered : model.Numbered
  indexed : model.Indexed
  memo : ∀ ty, ∀ reference ∈ model.dependencies ty, reference.memo = none
  filters : model.filters = .empty

/-- A reference that nobody has followed points at what its key stands for. -/
theorem Untouched.resolve_eq (h : model.Untouched) {reference : TypeReference}
    (hreference : reference ∈ model.dependencies ty) :
    model.resolve reference = model.symbols[symbolKey reference.name]? := by
  rw [resolve, TypeReference.target?, h.memo ty reference hreference]
  rfl

/-- The type of another model that has the key of a type. -/
def twin (model image : Model) (ty : TypeId) : TypeId :=
  ((model.keyOf ty).bind (image.symbols[·]?)).getD ty

/-- Two models that have the same types, told by their keys. -/
structure Twins (model image : Model) : Prop where
  left : model.Untouched
  right : image.Untouched
  same : ∀ face, (∃ ty, (model.type? ty).map (·.keyed) = some face) ↔
    ∃ ty, (image.type? ty).map (·.keyed) = some face

namespace Twins

theorem symm (h : model.Twins image) : image.Twins model where
  left := h.right
  right := h.left
  same face := (h.same face).symm

/-- The twin of a type is the same under its own handle. -/
theorem keyed_twin (h : model.Twins image) (hty : (model.type? ty).isSome = true) :
    (image.type? (model.twin image ty)).map (·.keyed) = (model.type? ty).map (·.keyed) := by
  obtain ⟨node, hnode⟩ := Option.isSome_iff_exists.1 hty
  obtain ⟨other, hother⟩ := (h.same node.keyed).1 ⟨ty, by rw [hnode, Option.map_some]⟩
  have hkey : model.keyOf ty = some (symbolKey node.name) := by
    rw [keyOf, hnode, Option.map_some]
  have hkey' : image.keyOf other = some (symbolKey node.name) := by
    rw [keyOf_eq_map_keyed, hother]
    rfl
  have htwin : model.twin image ty = other := by
    rw [twin, hkey, Option.bind_some, (h.right.indexed _ other).2 hkey', Option.getD_some]
  rw [htwin, hother, hnode, Option.map_some]

/-- A twin has the same key. -/
theorem keyOf_twin (h : model.Twins image) (hty : (model.type? ty).isSome = true) :
    image.keyOf (model.twin image ty) = model.keyOf ty := by
  rw [keyOf_eq_map_keyed, keyOf_eq_map_keyed, h.keyed_twin hty]

/-- What a key stands for is a type. -/
theorem isSome_type? (h : model.Twins image) (hty : model.symbols[key]? = some ty) :
    (model.type? ty).isSome = true :=
  isSome_type?_of_keyOf ((h.left.indexed key ty).1 hty)

/-- A key leads to twins, or nowhere in both models. -/
theorem symbols_eq (h : model.Twins image) (key : String) :
    image.symbols[key]? = (model.symbols[key]?).map (model.twin image) := by
  cases hty : model.symbols[key]? with
  | some ty =>
      rw [Option.map_some, h.right.indexed, h.keyOf_twin (h.isSome_type? hty),
        ← h.left.indexed, hty]
  | none =>
      rw [Option.map_none, Option.eq_none_iff_forall_ne_some]
      intro ty' hty'
      -- a type with this key would have a twin
      have hback := h.symm.keyOf_twin (h.symm.isSome_type? hty')
      rw [(h.right.indexed key ty').1 hty', ← h.left.indexed, hty] at hback
      contradiction

/-- A twin is wired in the same way. -/
theorem wiring_twin (h : model.Twins image) (hty : (model.type? ty).isSome = true) :
    (image.type? (model.twin image ty)).map TypeNode.wiring =
      (model.type? ty).map TypeNode.wiring := by
  have hkeyed := congrArg (Option.map TypeNode.wiring) (h.keyed_twin hty)
  rwa [Option.map_map, Option.map_map] at hkeyed

theorem mem_dependencies_twin (h : model.Twins image) (hty : (model.type? ty).isSome = true)
    {reference : TypeReference} (hreference : reference ∈ model.dependencies ty) :
    reference ∈ image.dependencies (model.twin image ty) := by
  rw [dependencies_eq_wiring, h.wiring_twin hty, ← dependencies_eq_wiring]
  exact hreference

/-- Under the handles of twins, the second model is an image of the first. -/
theorem mirrors (h : model.Twins image) :
    model.Mirrors image (fun ty => (model.type? ty).isSome) (model.twin image) where
  injective {ty ty'} hty hty' heq := by
    obtain ⟨key, hkey⟩ : ∃ key, model.keyOf ty = some key := by
      rwa [← Option.isSome_iff_exists, keyOf, Option.isSome_map]
    have hkey' : model.keyOf ty' = some key := by
      rw [← h.keyOf_twin hty', ← heq, h.keyOf_twin hty, hkey]
    exact h.left.indexed.eq_of_keyOf hkey hkey'
  wiring hty := h.wiring_twin hty
  resolve {ty} hty reference hreference := by
    have hreference' := h.mem_dependencies_twin hty hreference
    rw [h.left.resolve_eq hreference, h.right.resolve_eq hreference', h.symbols_eq]
    cases hfound : model.symbols[symbolKey reference.name]? with
    | none => rfl
    | some target => simp [Option.filter, h.isSome_type? hfound]
  visible {ty} hty := by
    have hkeyed := congrArg Option.isSome (h.keyed_twin hty)
    rw [Option.isSome_map, Option.isSome_map] at hkeyed
    rw [isVisible_of_filters_empty h.left.filters, isVisible_of_filters_empty h.right.filters,
      hkeyed]
  hidden hty := by rwa [isVisible_of_filters_empty h.left.filters]
  dead {ty} hty := by
    have hnone : model.type? ty = none := by simpa using hty
    rw [dependencies, hnone]

/-- Twins have their keys in common, wherever they are listed. -/
theorem map_keyOf_twin (h : model.Twins image) {types : List TypeId}
    (htypes : ∀ ty ∈ types, model.isVisible ty = true) :
    (types.map (model.twin image)).map image.keyOf = types.map model.keyOf := by
  rw [List.map_map]
  refine List.map_congr_left fun ty hty => h.keyOf_twin ?_
  exact h.mirrors.alive_of_isVisible (htypes ty hty)

/-- Every circle of the first model is one of the second. -/
theorem cycleKeys_subset (h : model.Twins image) : model.cycleKeys ⊆ image.cycleKeys := by
  intro keys hkeys
  simp only [cycleKeys, List.mem_toFinset, List.mem_map] at hkeys ⊢
  obtain ⟨group, hgroup, rfl⟩ := hkeys
  obtain ⟨group', hgroup', hmem⟩ :=
    h.mirrors.exists_image_group h.left.numbered h.right.numbered hgroup
  have hkeyOf : ∀ ty ∈ group, image.keyOf (model.twin image ty) = model.keyOf ty := fun ty hty =>
    h.keyOf_twin (h.mirrors.alive_of_isVisible (h.left.numbered.isVisible_of_mem_group hgroup hty))
  refine ⟨group', hgroup', Finset.ext fun key => ?_⟩
  simp only [List.mem_toFinset, List.mem_filterMap, hmem]
  constructor
  · rintro ⟨_, ⟨ty, hty, rfl⟩, hkey⟩
    exact ⟨ty, hty, by rw [← hkeyOf ty hty, hkey]⟩
  · rintro ⟨ty, hty, hkey⟩
    exact ⟨model.twin image ty, ⟨ty, hty, rfl⟩, by rw [hkeyOf ty hty, hkey]⟩

end Twins

/-! ## Answers by key -/

/-- A type of one model and a type of another one that the same key leads to. -/
def Namesakes (model model' : Model) (ty ty' : TypeId) : Prop :=
  ∃ key : String, model.symbols[key]? = some ty ∧ model'.symbols[key]? = some ty'

/-- Key by key, two models have the same types and answer alike. -/
structure AgreesByKey (model model' : Model) : Prop where
  /-- Each type is found by its key, in both models. -/
  indexed : model.Indexed ∧ model'.Indexed
  declared : ∀ key : String, (model.symbols[key]?).isSome = (model'.symbols[key]?).isSome
  kind : ∀ {ty ty'}, model.Namesakes model' ty ty' → model.typeKind ty = model'.typeKind ty'
  userDefined : ∀ {ty ty'}, model.Namesakes model' ty ty' →
    model.isUserDefined ty = model'.isUserDefined ty'
  modifiers : ∀ {ty ty'}, model.Namesakes model' ty ty' → model.modifiers ty = model'.modifiers ty'
  interfaces : ∀ {ty ty'}, model.Namesakes model' ty ty' →
    (model.interfaces ty).map model.keyOf = (model'.interfaces ty').map model'.keyOf
  ancestors : ∀ {ty ty'}, model.Namesakes model' ty ty' →
    (model.ancestors ty).map model.keyOf = (model'.ancestors ty').map model'.keyOf
  resolvedDependencies : ∀ {ty ty'}, model.Namesakes model' ty ty' →
    (model.resolvedDependencies ty).map model.keyOf =
      (model'.resolvedDependencies ty').map model'.keyOf
  isSubtypeOf : ∀ {ty ty' other other'}, model.Namesakes model' ty ty' →
    model.Namesakes model' other other' → model.isSubtypeOf ty other = model'.isSubtypeOf ty' other'
  cycleKeys : model.cycleKeys = model'.cycleKeys

namespace Twins

/-- Whoever has the same key in the other model is the twin. -/
theorem of_namesakes (h : model.Twins image) (hnamesakes : model.Namesakes image ty ty') :
    (model.type? ty).isSome = true ∧ model.twin image ty = ty' := by
  obtain ⟨key, hty, hty'⟩ := hnamesakes
  have hkey := (h.left.indexed key ty).1 hty
  rw [twin, hkey, Option.bind_some, hty', Option.getD_some]
  exact ⟨isSome_type?_of_keyOf hkey, rfl⟩

/-- Models with the same types answer alike. -/
theorem agreesByKey (h : model.Twins image) : model.AgreesByKey image where
  indexed := ⟨h.left.indexed, h.right.indexed⟩
  declared key := by rw [h.symbols_eq, Option.isSome_map]
  kind hsame := by
    obtain ⟨hty, rfl⟩ := h.of_namesakes hsame
    exact (h.mirrors.typeKind_eq hty).symm
  userDefined hsame := by
    obtain ⟨hty, rfl⟩ := h.of_namesakes hsame
    have hkeyed := congrArg (Option.any (·.userDefined)) (h.keyed_twin hty)
    rw [Option.any_map, Option.any_map] at hkeyed
    exact hkeyed.symm
  modifiers hsame := by
    obtain ⟨hty, rfl⟩ := h.of_namesakes hsame
    have hkeyed := congrArg (Option.map TypeNode.modifiers) (h.keyed_twin hty)
    rw [Option.map_map, Option.map_map] at hkeyed
    exact congrArg (Option.getD · .none) hkeyed.symm
  interfaces hsame := by
    obtain ⟨hty, rfl⟩ := h.of_namesakes hsame
    rw [h.mirrors.interfaces_eq hty, h.map_keyOf_twin fun _ hx => (mem_interfaces.1 hx).2.1]
  ancestors hsame := by
    obtain ⟨hty, rfl⟩ := h.of_namesakes hsame
    rw [h.mirrors.ancestors_eq hty, h.map_keyOf_twin fun _ hx => (mem_ancestors.1 hx).1.isVisible]
  resolvedDependencies hsame := by
    obtain ⟨hty, rfl⟩ := h.of_namesakes hsame
    rw [h.mirrors.resolvedDependencies_eq hty,
      h.map_keyOf_twin fun _ hx => isVisible_of_mem_resolvedDependencies hx]
  isSubtypeOf hsame hother := by
    obtain ⟨hty, rfl⟩ := h.of_namesakes hsame
    obtain ⟨hty', rfl⟩ := h.of_namesakes hother
    exact (h.mirrors.isSubtypeOf_eq hty hty').symm
  cycleKeys := h.cycleKeys_subset.antisymm h.symm.cycleKeys_subset

end Twins

end Model

end TypeGraph
