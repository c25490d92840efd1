import TypeGraph.Proofs.BuildOutcome
import TypeGraph.Proofs.Interfaces

/-!
# TypeGraph.Proofs.Missing

Which types are missing, given the references that lead nowhere: one for each
key, by first mention, with the name that is mentioned first, and an interface
if it is asked for as one at least once (`MissingType.notes_foldl`).

`Model.Depicts.notes` reads the references off the outlines of a model.
-/

namespace TypeGraph

namespace MissingType

/-- The types that are missing if the references lead nowhere. -/
structure Notes (missing : List MissingType) (references : List TypeReference) : Prop where
  keys : missing.map (·.key) = (references.map (symbolKey ·.name)).eraseDups
  name : ∀ m ∈ missing, (references.find? (symbolKey ·.name == m.key)).map (·.name) = some m.name
  kind_iff : ∀ m ∈ missing, m.kind = .interfaceType ↔
    ∃ reference ∈ references, symbolKey reference.name = m.key ∧ reference.kind = .interfaceType

/-- The missing type, once a reference with its key has been met again. -/
def again (reference : TypeReference) (m : MissingType) : MissingType :=
  if m.key = symbolKey reference.name ∧ reference.kind = .interfaceType then
    { m with kind := .interfaceType }
  else m

/-- A further mention does not change the key. -/
theorem key_again (reference : TypeReference) (m : MissingType) :
    (again reference m).key = m.key := by
  rw [again]
  split <;> rfl

theorem name_again (reference : TypeReference) (m : MissingType) :
    (again reference m).name = m.name := by
  rw [again]
  split <;> rfl

/-- One mention as an interface makes an interface of it. -/
theorem kind_again (reference : TypeReference) (m : MissingType) :
    (again reference m).kind = .interfaceType ↔ m.kind = .interfaceType ∨
      m.key = symbolKey reference.name ∧ reference.kind = .interfaceType := by
  rw [again]
  split
  · rename_i hboth
    simp [hboth]
  · rename_i hnot
    simp [hnot]

variable {missing : List MissingType} {references : List TypeReference}

/-- A mention of a known key may change the kind, and nothing else. -/
theorem note_of_known {reference : TypeReference}
    (hknown : symbolKey reference.name ∈ missing.map (·.key)) :
    note missing reference = missing.map (again reference) := by
  have hany : missing.any (·.key == symbolKey reference.name) = true := by
    simpa using hknown
  rw [note, if_pos hany]
  split
  · rename_i hkind
    simp [again, hkind]
  · rename_i hkind
    have hsame : again reference = id := by
      funext m
      simp [again, hkind]
    rw [hsame, List.map_id]

/-- A mention of a new key is noted with its spelling and kind. -/
theorem note_of_unknown {reference : TypeReference}
    (hunknown : symbolKey reference.name ∉ missing.map (·.key)) :
    note missing reference =
      missing ++ [⟨symbolKey reference.name, reference.name, reference.kind⟩] := by
  have hany : ¬ missing.any (·.key == symbolKey reference.name) = true := by
    simpa using hunknown
  rw [note, if_neg hany]

namespace Notes

/-- A key is noted once. -/
theorem nodup (h : Notes missing references) : (missing.map (·.key)).Nodup := by
  rw [h.keys]
  exact Model.nodup_eraseDups _

/-- The keys that are noted are those that are mentioned. -/
theorem mem_keys (h : Notes missing references) {key : String} :
    key ∈ missing.map (·.key) ↔ key ∈ references.map (symbolKey ·.name) := by
  rw [h.keys, List.mem_eraseDups]

/-- What is noted has the key of its spelling. -/
theorem key_eq (h : Notes missing references) {m : MissingType} (hm : m ∈ missing) :
    symbolKey m.name = m.key := by
  obtain ⟨reference, hreference, hname⟩ := Option.map_eq_some_iff.1 (h.name m hm)
  rw [← hname]
  simpa using List.find?_some hreference

theorem empty : Notes [] [] where
  keys := rfl
  name _ h := absurd h List.not_mem_nil
  kind_iff _ h := absurd h List.not_mem_nil

/-- A reference whose key has been met changes the kind at most. -/
theorem known (h : Notes missing references) {reference : TypeReference}
    (hknown : symbolKey reference.name ∈ missing.map (·.key)) :
    Notes (missing.map (again reference)) (references ++ [reference]) := by
  have hkeys : (missing.map (again reference)).map (·.key) = missing.map (·.key) := by
    simp [Function.comp_def, key_again]
  constructor
  · rw [hkeys, h.keys, List.map_append, List.map_singleton, eraseDups_concat,
      if_pos (h.mem_keys.1 hknown)]
  · intro m hm
    obtain ⟨before, hbefore, rfl⟩ := List.mem_map.1 hm
    obtain ⟨first, hfirst, hname⟩ := Option.map_eq_some_iff.1 (h.name before hbefore)
    rw [key_again, name_again, List.find?_append, hfirst]
    exact congrArg some hname
  · intro m hm
    obtain ⟨before, hbefore, rfl⟩ := List.mem_map.1 hm
    rw [kind_again, key_again, h.kind_iff before hbefore]
    simp only [List.mem_append, List.mem_singleton, or_and_right, exists_or, exists_eq_left]
    simp only [eq_comm]

/-- A reference whose key is new is a new missing type. -/
theorem unknown (h : Notes missing references) {reference : TypeReference}
    (hunknown : symbolKey reference.name ∉ missing.map (·.key)) :
    Notes (missing ++ [⟨symbolKey reference.name, reference.name, reference.kind⟩])
      (references ++ [reference]) := by
  have hnew := mt h.mem_keys.2 hunknown
  have hnone : references.find? (symbolKey ·.name == symbolKey reference.name) = none := by
    simpa using hnew
  constructor
  · rw [List.map_append, List.map_append, h.keys, List.map_singleton, List.map_singleton,
      eraseDups_concat, if_neg hnew]
  · intro m hm
    rw [List.find?_append]
    obtain hm | hm := List.mem_append.1 hm
    · obtain ⟨first, hfirst, hname⟩ := Option.map_eq_some_iff.1 (h.name m hm)
      rw [hfirst]
      exact congrArg some hname
    · obtain rfl := List.mem_singleton.1 hm
      simp [hnone]
  · intro m hm
    obtain hm | hm := List.mem_append.1 hm
    · have hne : symbolKey reference.name ≠ m.key := fun heq =>
        hunknown (heq ▸ List.mem_map_of_mem hm)
      rw [h.kind_iff m hm]
      simp [or_and_right, exists_or, hne]
    · obtain rfl := List.mem_singleton.1 hm
      have hother : ∀ other ∈ references, symbolKey other.name ≠ symbolKey reference.name := by
        simpa using hnew
      constructor
      · exact fun hkind => ⟨reference, by simp, rfl, hkind⟩
      · rintro ⟨other, hmem, hkey, hkind⟩
        obtain hmem | hmem := List.mem_append.1 hmem
        · exact absurd hkey (hother other hmem)
        · rwa [← List.mem_singleton.1 hmem]

theorem note (h : Notes missing references) (reference : TypeReference) :
    Notes (note missing reference) (references ++ [reference]) := by
  by_cases hknown : symbolKey reference.name ∈ missing.map (·.key)
  · rw [note_of_known hknown]
    exact h.known hknown
  · rw [note_of_unknown hknown]
    exact h.unknown hknown

end Notes

/-- **Missing types** are noted as the references mention them. -/
theorem notes_foldl (references : List TypeReference) :
    Notes (references.foldl note []) references := by
  induction references using List.reverseRecOn with
  | nil => exact .empty
  | append_singleton references reference ih =>
      rw [List.foldl_append]
      exact ih.note reference

end MissingType

namespace Model

variable {model : Model} {outlines : List Outline}

def outlineKeys (outlines : List Outline) : List String := outlines.map (symbolKey ·.face.name)

/-- The references of the outlined types to names that none of them has. -/
def dangling (outlines : List Outline) : List TypeReference :=
  (outlines.flatMap (·.face.references)).filter fun reference =>
    !(outlineKeys outlines).contains (symbolKey reference.name)

/-- A name does not resolve if no outline has its key. -/
theorem Depicts.lookup_eq_none_iff (h : model.Depicts outlines) (hfirst : model.SymbolsFirst)
    {name : String} : model.lookup name = none ↔ symbolKey name ∉ outlineKeys outlines := by
  have hlookup : model.lookup name = model.symbols[symbolKey name]? := rfl
  rw [hlookup, hfirst, h.typeNames_eq, Option.map_eq_none_iff, List.findIdx?_eq_none_iff,
    outlineKeys]
  simp

/-- All references of the types, in order, are those of the outlines. -/
theorem Depicts.flatMap_references (h : model.Depicts outlines) :
    model.types.toList.flatMap (·.references) = outlines.flatMap (·.face.references) := by
  have hfaces : model.types.toList.map (·.face) = outlines.map (·.face) := by
    apply List.ext_getElem?
    intro i
    rw [List.getElem?_map, List.getElem?_map, Array.getElem?_toList]
    exact h.face ⟨i⟩
  have hflat := congrArg (List.flatMap TypeNode.references) hfaces
  rwa [List.flatMap_map, List.flatMap_map] at hflat

/-- The missing types of an outlined model are those that its references
mention in vain. -/
theorem Depicts.notes (h : model.Depicts outlines) (hfirst : model.SymbolsFirst) :
    MissingType.Notes model.missingTypes (dangling outlines) := by
  have hdangling : (model.types.toList.flatMap (·.references)).filter
      (fun reference => (model.lookup reference.name).isNone) = dangling outlines := by
    rw [h.flatMap_references, dangling]
    refine List.filter_congr fun reference _ => ?_
    rw [Bool.eq_iff_iff, Option.isNone_iff_eq_none, h.lookup_eq_none_iff hfirst]
    simp
  rw [missingTypes, hdangling]
  exact MissingType.notes_foldl _

end Model

end TypeGraph
