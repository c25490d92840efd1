import Std.Data.HashSet
import TypeGraph.Handle

/-!
# TypeGraph.Unvisited

The measure by which walks over a model end: how many of its handles a walk
has not visited yet.  Visiting a handle of the model for the first time makes
it smaller.
-/

namespace TypeGraph

/-- How many of the first `size` handles are not in the set. -/
def unvisited (size : Nat) (visited : Std.HashSet TypeId) : Nat :=
  (List.range size).countP fun i => !visited.contains ⟨i⟩

theorem countP_lt_countP {α : Type} {p q : α → Bool} {l : List α} {a : α} (ha : a ∈ l)
    (hq : q a = true) (hp : p a = false) (himp : ∀ x ∈ l, p x = true → q x = true) :
    l.countP p < l.countP q := by
  induction l with
  | nil => cases ha
  | cons x l ih =>
    have hle : l.countP p ≤ l.countP q :=
      List.countP_mono_left fun y hy => himp y (List.mem_cons_of_mem x hy)
    rcases List.mem_cons.1 ha with rfl | ha
    · rw [List.countP_cons_of_neg (by simp [hp]), List.countP_cons_of_pos hq]
      omega
    · have hlt := ih ha fun y hy => himp y (List.mem_cons_of_mem x hy)
      have hx := himp x List.mem_cons_self
      by_cases h : p x = true
      · rw [List.countP_cons_of_pos h, List.countP_cons_of_pos (hx h)]
        omega
      · rw [List.countP_cons_of_neg h, List.countP_cons]
        omega

/-- The first visit to a handle leaves fewer to visit. -/
theorem unvisited_insert_lt {size : Nat} {visited : Std.HashSet TypeId} {ty : TypeId}
    (hsize : ty.index < size) (hnew : visited.contains ty = false) :
    unvisited size (visited.insert ty) < unvisited size visited := by
  refine countP_lt_countP (List.mem_range.2 hsize) (by simp [hnew]) (by simp) ?_
  intro i _ h
  simp only [Std.HashSet.contains_insert, Bool.not_eq_true', Bool.or_eq_false_iff] at h
  simp [h.2]

end TypeGraph
