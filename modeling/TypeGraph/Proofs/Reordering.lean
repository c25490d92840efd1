import Mathlib.Data.List.Forall2
import Mathlib.Data.List.Perm.Basic
import TypeGraph.Proofs.Keyed
import TypeGraph.Proofs.Memo
import TypeGraph.Proofs.Missing

/-!
# TypeGraph.Proofs.Reordering

The order of declarations.  Handles and the spelling of placeholders follow the
order of packages and of the types in them; everything else does not:

1. `Reordered.fault?_eq_none_iff` — whether there is a fault;
2. `Reordered.mem_expected_iff` — which types there are, told by their keys;
   a placeholder is made from all references that have its key at once;
3. `Model.build_reordered` — so the models agree on every key.
-/

namespace TypeGraph

/-! ## Reordered declarations -/

/-- The same package with its types in another order. -/
structure PackageDeclaration.Reordered (package package' : PackageDeclaration) : Prop where
  name : package.name = package'.name
  classes : package.classes.Perm package'.classes
  interfaces : package.interfaces.Perm package'.interfaces
  functions : package.functions = package'.functions

/-- The same packages in another order, each with its types in another order. -/
def Declarations.Reordered (declarations declarations' : Declarations) : Prop :=
  ∃ packages, List.Forall₂ PackageDeclaration.Reordered declarations.packages packages ∧
    packages.Perm declarations'.packages

/-- A reordered package declares the same entries. -/
theorem PackageDeclaration.Reordered.entries {package package' : PackageDeclaration}
    (h : package.Reordered package') : package.entries.Perm package'.entries := by
  rw [PackageDeclaration.entries, PackageDeclaration.entries, h.name]
  exact (h.classes.map _).append (h.interfaces.map _)

/-! ## Expected types -/

/-- A type for which there are only references, told by its key: an interface if
one of them asks for an interface. -/
def TypeNode.wanted (references : List TypeReference) (key : String) : TypeNode :=
  .bare ⟨0⟩ 0 key
    (if references.any fun r => symbolKey r.name == key && r.kind == .interfaceType then
      .interfaceType
    else .classType)

namespace MissingType.Notes

variable {missing : List MissingType} {references : List TypeReference}

/-- The keys of the outlines are those that have been noted. -/
theorem outlineKeys_eq (h : Notes missing references) :
    Model.outlineKeys (missing.map MissingType.outline) = missing.map (·.key) := by
  rw [Model.outlineKeys, List.map_map]
  refine List.map_congr_left fun m hm => ?_
  exact (symbolKey_unrooted m.name).trans (h.key_eq hm)

/-- The outline of a missing type is what its key and the references ask for. -/
theorem keyed_outline (h : Notes missing references) {m : MissingType} (hm : m ∈ missing) :
    m.outline.face.keyed = .wanted references m.key := by
  have hkey : symbolKey (unrooted m.name) = m.key := by
    rw [symbolKey_unrooted, h.key_eq hm]
  have hkind : m.kind = if references.any fun r =>
      symbolKey r.name == m.key && r.kind == .interfaceType then .interfaceType
      else .classType := by
    have hiff := h.kind_iff m hm
    split
    · rename_i hany
      rw [hiff]
      simpa using hany
    · rename_i hnone
      cases hkind : m.kind with
      | classType => rfl
      | interfaceType =>
          rw [hiff] at hkind
          exact absurd (by simpa using hkind) hnone
  rw [TypeNode.wanted, ← hkind, ← hkey]
  rfl

/-- The missing types are those that the references want, each mentioned once or
more. -/
theorem mem_map_keyed_iff (h : Notes missing references) (face : TypeNode) :
    face ∈ (missing.map MissingType.outline).map (·.face.keyed) ↔
      face ∈ references.map fun reference => .wanted references (symbolKey reference.name) := by
  have hwanted : (missing.map MissingType.outline).map (·.face.keyed) =
      (missing.map (·.key)).map (.wanted references) := by
    rw [List.map_map, List.map_map]
    exact List.map_congr_left fun m hm => h.keyed_outline hm
  rw [hwanted, h.keys, List.mem_map]
  simp

end MissingType.Notes

namespace Declarations

variable {declarations declarations' : Declarations}

/-- The references that placeholders are made for, if they are asked for. -/
def unmet (placeholders : Bool) (declarations : Declarations) : List TypeReference :=
  if placeholders then Model.dangling (declarations.entries.map Entry.outline) else []

/-- The types that building makes, told by their keys. -/
def expected (placeholders : Bool) (declarations : Declarations) : List TypeNode :=
  declarations.entries.map (·.outline.face.keyed) ++
    (declarations.unmet placeholders).map fun reference =>
      .wanted (declarations.unmet placeholders) (symbolKey reference.name)

/-- A reference to a declared key is met. -/
theorem not_mem_outlineKeys_of_unmet {placeholders : Bool} {key : String}
    (h : key ∈ (declarations.unmet placeholders).map (symbolKey ·.name)) :
    key ∉ Model.outlineKeys (declarations.entries.map Entry.outline) := by
  rw [unmet] at h
  cases placeholders with
  | false => simp at h
  | true =>
      simp only [if_true, Model.dangling, List.mem_map, List.mem_filter] at h
      obtain ⟨reference, ⟨-, hnew⟩, rfl⟩ := h
      simpa using hnew

namespace Reordered

/-- Reordered declarations have the same entries. -/
theorem entries (h : declarations.Reordered declarations') :
    declarations.entries.Perm declarations'.entries := by
  have heach {before after : List PackageDeclaration}
      (h : List.Forall₂ PackageDeclaration.Reordered before after) :
      (before.flatMap (·.entries)).Perm (after.flatMap (·.entries)) := by
    induction h with
    | nil => exact .nil
    | cons hpackage _ ih => exact hpackage.entries.append ih
  obtain ⟨packages, hinside, hpackages⟩ := h
  exact (heach hinside).trans (hpackages.flatMap fun _ _ => .refl _)

/-- Declarations are at fault in any order, or in none. -/
theorem fault?_eq_none_iff (h : declarations.Reordered declarations') :
    declarations.fault? = none ↔ declarations'.fault? = none := by
  simp only [Declarations.fault?_eq_none_iff, h.entries.mem_iff]

/-- The references that no declaration meets are the same. -/
theorem unmet (h : declarations.Reordered declarations') (placeholders : Bool) :
    (declarations.unmet placeholders).Perm (declarations'.unmet placeholders) := by
  have houtlines := h.entries.map Entry.outline
  have hknown (key : String) :
      (Model.outlineKeys (declarations.entries.map Entry.outline)).contains key =
        (Model.outlineKeys (declarations'.entries.map Entry.outline)).contains key := by
    rw [Bool.eq_iff_iff, List.contains_iff_mem, List.contains_iff_mem]
    exact (houtlines.map _).mem_iff
  rw [Declarations.unmet, Declarations.unmet]
  cases placeholders with
  | false => exact .nil
  | true =>
      simp only [if_true, Model.dangling, hknown]
      exact (houtlines.flatMap fun _ _ => .refl _).filter _

/-- The same types are expected. -/
theorem mem_expected_iff (h : declarations.Reordered declarations') (placeholders : Bool)
    (face : TypeNode) :
    face ∈ declarations.expected placeholders ↔ face ∈ declarations'.expected placeholders := by
  have hunmet := h.unmet placeholders
  have hwanted (key : String) : TypeNode.wanted (declarations.unmet placeholders) key =
      .wanted (declarations'.unmet placeholders) key := by
    rw [TypeNode.wanted, TypeNode.wanted, hunmet.any_eq]
  simp only [expected, hwanted]
  exact ((h.entries.map _).append (hunmet.map _)).mem_iff

end Reordered

end Declarations

/-! ## Built models -/

namespace Model

variable {model : Model} {outlines : List Outline}

/-- A model that depicts outlines with different keys is indexed by them. -/
theorem Depicts.indexed (h : model.Depicts outlines) (hfirst : model.SymbolsFirst)
    (hkeys : (outlineKeys outlines).Nodup) : model.Indexed := by
  refine hfirst.indexed ?_
  rw [h.typeNames_eq, List.map_map]
  exact hkeys

/-- A type of the model is an outline, and the other way round. -/
theorem Depicts.exists_keyed_iff (h : model.Depicts outlines) (face : TypeNode) :
    (∃ ty, (model.type? ty).map (·.keyed) = some face) ↔
      face ∈ outlines.map (·.face.keyed) := by
  have hkeyed (ty : TypeId) : (model.type? ty).map (·.keyed) =
      (outlines.map (·.face.keyed))[ty.index]? := by
    have hface := congrArg (Option.map TypeNode.keyed) (h.face ty)
    rw [Option.map_map, Option.map_map] at hface
    rw [List.getElem?_map]
    exact hface
  simp only [hkeyed, List.mem_iff_getElem?]
  exact ⟨fun ⟨ty, hty⟩ => ⟨ty.index, hty⟩, fun ⟨i, hi⟩ => ⟨⟨i⟩, hi⟩⟩

/-- The outlines of a model that is built, placeholders included. -/
theorem exists_outlines {origin : Nat} {filters : Filters} {placeholders : Bool}
    {declarations : Declarations}
    (h : Model.build origin filters placeholders declarations = .ok model) :
    ∃ missing, MissingType.Notes missing (declarations.unmet placeholders) ∧
      model.Depicts (declarations.entries.map Entry.outline ++
        missing.map MissingType.outline) := by
  have hwired := depicts_wired origin filters declarations
  cases placeholders with
  | false =>
      obtain ⟨-, rfl⟩ := (build_eq_wired_iff origin filters declarations).1 h
      exact ⟨[], .empty, by simpa using hwired⟩
  | true =>
      obtain ⟨hfault, rfl⟩ := (build_eq_completed_iff origin filters declarations).1 h
      have hplain := (build_eq_wired_iff origin filters declarations).2 ⟨hfault, rfl⟩
      exact ⟨_, hwired.notes (build_reachable hplain).symbolsFirst,
        (depicts_completed origin filters declarations).1⟩

section

variable {placeholders : Bool} {declarations : Declarations} {missing : List MissingType}

/-- Placeholders have keys of their own. -/
theorem nodup_outlineKeys (h : MissingType.Notes missing (declarations.unmet placeholders))
    (hkeys : (declarations.entries.map (symbolKey ·.declaration.name)).Nodup) :
    (outlineKeys (declarations.entries.map Entry.outline ++
      missing.map MissingType.outline)).Nodup := by
  have hdeclared : outlineKeys (declarations.entries.map Entry.outline) =
      declarations.entries.map (symbolKey ·.declaration.name) := by
    rw [outlineKeys, List.map_map]
    rfl
  have happend : outlineKeys (declarations.entries.map Entry.outline ++
      missing.map MissingType.outline) =
        outlineKeys (declarations.entries.map Entry.outline) ++ missing.map (·.key) := by
    rw [← h.outlineKeys_eq]
    exact List.map_append
  rw [happend, List.nodup_append]
  refine ⟨hdeclared ▸ hkeys, h.nodup, fun key hkey other hother heq => ?_⟩
  exact Declarations.not_mem_outlineKeys_of_unmet (h.mem_keys.1 hother) (heq ▸ hkey)

/-- No reference of a built model has been followed. -/
theorem memo_of_mem_outlines {outline : Outline} {reference : TypeReference}
    (houtline : outline ∈ declarations.entries.map Entry.outline ++
      missing.map MissingType.outline)
    (hreference : reference ∈ outline.face.references) : reference.memo = none := by
  obtain hmem | hmem := List.mem_append.1 houtline
  · obtain ⟨entry, -, rfl⟩ := List.mem_map.1 hmem
    exact Entry.memo_eq_none hreference
  · obtain ⟨m, -, rfl⟩ := List.mem_map.1 hmem
    exact absurd hreference List.not_mem_nil

/-- Building types with different keys leaves them untouched. -/
theorem untouched_build {origin : Nat}
    (hkeys : (declarations.entries.map (symbolKey ·.declaration.name)).Nodup)
    (h : Model.build origin .empty placeholders declarations = .ok model) : model.Untouched := by
  obtain ⟨missing, hnotes, hdepicts⟩ := exists_outlines h
  have hreachable := build_reachable h
  have hmemo (ty : TypeId) : ∀ reference ∈ model.dependencies ty, reference.memo = none := by
    intro reference hreference
    rw [hdepicts.dependencies_eq] at hreference
    cases houtline : (declarations.entries.map Entry.outline ++
        missing.map MissingType.outline)[ty.index]? with
    | none => simp [houtline] at hreference
    | some outline =>
        rw [houtline] at hreference
        exact memo_of_mem_outlines (List.mem_of_getElem? houtline) hreference
  exact {
    numbered := hreachable.numbered
    indexed := hdepicts.indexed hreachable.symbolsFirst (nodup_outlineKeys hnotes hkeys)
    memo := hmemo
    filters := build_filters h }

/-- Building makes the expected types and no others. -/
theorem mem_expected_iff {origin : Nat} {filters : Filters}
    (h : Model.build origin filters placeholders declarations = .ok model) (face : TypeNode) :
    (∃ ty, (model.type? ty).map (·.keyed) = some face) ↔
      face ∈ declarations.expected placeholders := by
  obtain ⟨missing, hnotes, hdepicts⟩ := exists_outlines h
  rw [hdepicts.exists_keyed_iff, Declarations.expected, List.map_append, List.mem_append,
    List.mem_append, hnotes.mem_map_keyed_iff, List.map_map]
  rfl

end

/-- **Order**: declarations of types with different keys are refused in every
order or in none, and what is built from them agrees on every key. -/
theorem build_reordered (origin origin' : Nat) (placeholders : Bool)
    {declarations declarations' : Declarations} (hreordered : declarations.Reordered declarations')
    (hkeys : (declarations.entries.map (symbolKey ·.declaration.name)).Nodup) :
    (∃ error error', Model.build origin .empty placeholders declarations = .error error ∧
      Model.build origin' .empty placeholders declarations' = .error error') ∨
    ∃ model model', Model.build origin .empty placeholders declarations = .ok model ∧
      Model.build origin' .empty placeholders declarations' = .ok model' ∧
        model.AgreesByKey model' := by
  have hbuild := build_eq origin .empty declarations placeholders
  have hbuild' := build_eq origin' .empty declarations' placeholders
  have hfault := hreordered.fault?_eq_none_iff
  have hkeys' : (declarations'.entries.map (symbolKey ·.declaration.name)).Nodup :=
    (hreordered.entries.map _).nodup_iff.1 hkeys
  cases hcase : declarations.fault? with
  | some error =>
      obtain ⟨error', hcase'⟩ : ∃ error', declarations'.fault? = some error' := by
        rw [← Option.ne_none_iff_exists', ne_eq, ← hfault, hcase]
        exact Option.some_ne_none error
      rw [hcase] at hbuild
      rw [hcase'] at hbuild'
      exact .inl ⟨error, error', hbuild, hbuild'⟩
  | none =>
      rw [hcase] at hbuild
      rw [hfault.1 hcase] at hbuild'
      have htwins : Twins _ _ := {
        left := untouched_build hkeys hbuild
        right := untouched_build hkeys' hbuild'
        same := fun face => by
          rw [mem_expected_iff hbuild, mem_expected_iff hbuild', hreordered.mem_expected_iff] }
      exact .inr ⟨_, _, hbuild, hbuild', htwins.agreesByKey⟩

/-- Two packages that refer to each other and to a type that is not declared,
under two spellings. -/
theorem build_reordered_two_packages :
    let declare (name : String) (parent : Option String) (interfaces : List String) :
        TypeDeclaration := ⟨name, parent, interfaces, [], [], [], none⟩
    let dog := declare "Dog" (some "Animal") []
    let cat := declare "Cat" (some "Ext\\Named") []
    let animal := declare "Animal" none ["\\ext\\named"]
    let declarations : Declarations := ⟨[⟨"App", [dog, cat], [], []⟩, ⟨"Lib", [animal], [], []⟩]⟩
    let declarations' : Declarations := ⟨[⟨"Lib", [animal], [], []⟩, ⟨"App", [cat, dog], [], []⟩]⟩
    declarations.Reordered declarations' ∧
      (declarations.entries.map (symbolKey ·.declaration.name)).Nodup ∧
      ∃ model model', Model.build 0 .empty true declarations = .ok model ∧
        Model.build 1 .empty true declarations' = .ok model' ∧ model.AgreesByKey model' := by
  intro declare dog cat animal declarations declarations'
  have hreordered : declarations.Reordered declarations' := by
    refine ⟨[⟨"App", [cat, dog], [], []⟩, ⟨"Lib", [animal], [], []⟩], ?_, .swap _ _ _⟩
    exact .cons ⟨rfl, .swap _ _ _, .refl _, rfl⟩ (.cons ⟨rfl, .refl _, .refl _, rfl⟩ .nil)
  have hkeys : (declarations.entries.map (symbolKey ·.declaration.name)).Nodup := by decide
  have hfault : declarations.fault? = none := by decide
  have hbuild := build_eq 0 .empty declarations true
  rw [hfault] at hbuild
  obtain ⟨error, -, hrefused, -⟩ | hbuilt := build_reordered 0 1 true hreordered hkeys
  · rw [hbuild] at hrefused
    contradiction
  · exact ⟨hreordered, hkeys, hbuilt⟩

end Model

end TypeGraph
