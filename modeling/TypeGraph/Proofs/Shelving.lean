import Mathlib.Data.List.Sort
import TypeGraph.Handle

/-!
# TypeGraph.Proofs.Shelving

Pointers and lists, for things of any one sort.  A thing points at a package or
at none, and every package lists some things:

1. `Shelving.unlist` takes a thing off one list, and its pointer away if that
   names the package of the list;
2. `Shelving.put` points a thing at a package and lists it there;
3. `Shelving.move` does both, so a thing leaves the package that it points at;
4. `Shelving.Agrees.unlist`, `Shelving.Agrees.move` — neither of them lets lists
   and pointers part;
5. `Shelving.Agrees.places` — a thing is then where it points, and nowhere else;
6. `Shelving.Sorted.list_eq` — pointers leave no choice in lists that are in order;
7. `Shelving.Within.move` — what is pointed at and what is listed stays of one sort.
-/

namespace TypeGraph

/-- Where things point, and which things each package lists. -/
structure Shelving (α : Type) where
  pointer : α → Option PackageId
  list : PackageId → List α

namespace Shelving

variable {α : Type} [DecidableEq α]

/-! ## Changes -/

/-- The shelving without the first listing of a thing in a package, and without
the pointer of the thing if that names the package. -/
def unlist (s : Shelving α) (package : PackageId) (a : α) : Shelving α where
  pointer x := if a = x ∧ s.pointer x = some package then none else s.pointer x
  list other := if package = other then (s.list other).erase a else s.list other

/-- The shelving in which a thing points at a package and is listed last in it. -/
def put (s : Shelving α) (package : PackageId) (a : α) : Shelving α where
  pointer x := if a = x then some package else s.pointer x
  list other := s.list other ++ if package = other then [a] else []

/-- The shelving in which a thing has moved from the package that it points at
to another one. -/
def move (s : Shelving α) (package : PackageId) (a : α) : Shelving α :=
  match s.pointer a with
  | none => s.put package a
  | some previous => (s.unlist previous a).put package a

/-! ## Lists that say what the pointers say -/

/-- Every package lists what points at it, once each, and nothing else. -/
def Agrees (s : Shelving α) : Prop :=
  ∀ a package, (s.list package).count a = if s.pointer a = some package then 1 else 0

/-- A thing is where it points: once in that list and in no other one, or in none
at all if it points nowhere. -/
def Places (s : Shelving α) (a : α) : Prop :=
  match s.pointer a with
  | none => ∀ package, a ∉ s.list package
  | some package =>
    (s.list package).count a = 1 ∧ ∀ other, other ≠ package → a ∉ s.list other

variable {s : Shelving α}

namespace Agrees

/-- Taking a thing off a shelf keeps lists and pointers in agreement. -/
theorem unlist (h : s.Agrees) (package : PackageId) (a : α) : (s.unlist package a).Agrees := by
  intro x other
  have hcount := h x other
  unfold Shelving.unlist
  dsimp only
  by_cases hx : a = x
  · subst hx
    by_cases hother : package = other
    · subst hother
      simp only [if_true, true_and, List.count_erase_self, hcount]
      by_cases hpointer : s.pointer a = some package <;> simp [hpointer]
    · by_cases hpointer : s.pointer a = some package
      · simp [hcount, hpointer, hother]
      · simp [hcount, hpointer, hother]
  · have hlist : (if package = other then (s.list other).erase a else s.list other).count x =
        (s.list other).count x := by
      split
      · exact List.count_erase_of_ne (Ne.symm hx)
      · rfl
    simp [hlist, hcount, hx]

theorem put (h : s.Agrees) {a : α} (ha : s.pointer a = none) (package : PackageId) :
    (s.put package a).Agrees := by
  intro x other
  have hcount := h x other
  unfold Shelving.put
  dsimp only
  rw [List.count_append, hcount]
  by_cases hx : a = x
  · subst hx
    by_cases hother : package = other <;> simp [ha, hother]
  · have hadded : (if package = other then [a] else []).count x = 0 := by
      split <;> simp [hx]
    simp [hadded, hx]

theorem move (h : s.Agrees) (package : PackageId) (a : α) : (s.move package a).Agrees := by
  unfold Shelving.move
  cases hpointer : s.pointer a with
  | none => exact h.put hpointer package
  | some previous =>
      have hgone : (s.unlist previous a).pointer a = none := by simp [Shelving.unlist, hpointer]
      exact (h.unlist previous a).put hgone package

/-- Where a thing points, it is listed. -/
theorem mem (h : s.Agrees) {a : α} {package : PackageId} :
    a ∈ s.list package ↔ s.pointer a = some package := by
  rw [← List.count_pos_iff, h a package]
  by_cases hpointer : s.pointer a = some package <;> simp [hpointer]

/-- Where they agree, a thing is listed once where its pointer says and nowhere else. -/
theorem places (h : s.Agrees) (a : α) : s.Places a := by
  unfold Places
  cases hpointer : s.pointer a with
  | none => simp [h.mem, hpointer]
  | some package =>
      have honce : (s.list package).count a = 1 := by rw [h a package, if_pos hpointer]
      have helsewhere (other : PackageId) (hother : other ≠ package) : a ∉ s.list other := by
        rw [h.mem, hpointer, Option.some_inj]
        exact Ne.symm hother
      exact ⟨honce, helsewhere⟩

/-- The pointers say what is listed, but for the order. -/
theorem perm {t : Shelving α} (h : s.Agrees) (h' : t.Agrees) (hpointer : t.pointer = s.pointer)
    (package : PackageId) : (t.list package).Perm (s.list package) := by
  rw [List.perm_iff_count]
  intro a
  rw [h a, h' a, hpointer]

end Agrees

/-! ## Lists in order -/

/-- Every package lists what points at it and nothing else, in ascending order of
the index; so it lists each thing once. -/
structure Sorted (s : Shelving α) (index : α → Nat) : Prop where
  mem_iff : ∀ a package, a ∈ s.list package ↔ s.pointer a = some package
  ascending : ∀ package, (s.list package).Pairwise fun a b => index a < index b

omit [DecidableEq α] in
/-- Sorted shelves with the same pointers list the same things in the same order. -/
theorem Sorted.list_eq {t : Shelving α} {index : α → Nat} (h : s.Sorted index)
    (h' : t.Sorted index) (hpointer : t.pointer = s.pointer) (package : PackageId) :
    t.list package = s.list package := by
  have hirrefl : Std.Irrefl fun a b : α => index a < index b := ⟨fun a => Nat.lt_irrefl (index a)⟩
  have hantisymm : Std.Antisymm fun a b : α => index a < index b :=
    ⟨fun _ _ hab hba => absurd hab (Nat.lt_asymm hba)⟩
  refine (h'.ascending package).eq_of_mem_iff (h.ascending package) fun a => ?_
  rw [h.mem_iff, h'.mem_iff, hpointer]

/-! ## Bounds -/

/-- Pointers lead to packages of some sort only, and only things of some sort are
listed. -/
structure Within (s : Shelving α) (packages : PackageId → Prop) (things : α → Prop) : Prop where
  pointer : ∀ a package, s.pointer a = some package → packages package
  list : ∀ package, ∀ a ∈ s.list package, things a

namespace Within

variable {packages packages' : PackageId → Prop} {things things' : α → Prop}

omit [DecidableEq α] in
theorem mono (h : s.Within packages things)
    (hpackages : ∀ package, packages package → packages' package)
    (hthings : ∀ a, things a → things' a) : s.Within packages' things' where
  pointer a package hpointer := hpackages package (h.pointer a package hpointer)
  list package a ha := hthings a (h.list package a ha)

theorem unlist (h : s.Within packages things) (package : PackageId) (a : α) :
    (s.unlist package a).Within packages things where
  pointer x other hother := by
    unfold Shelving.unlist at hother
    dsimp only at hother
    split at hother
    · contradiction
    · exact h.pointer x other hother
  list other x hx := by
    unfold Shelving.unlist at hx
    dsimp only at hx
    split at hx
    · exact h.list other x (List.mem_of_mem_erase hx)
    · exact h.list other x hx

/-- Putting a known thing on a known shelf stays within bounds. -/
theorem put (h : s.Within packages things) {package : PackageId} {a : α}
    (hpackage : packages package) (ha : things a) : (s.put package a).Within packages things where
  pointer x other hother := by
    unfold Shelving.put at hother
    dsimp only at hother
    split at hother
    · rwa [← Option.some_inj.1 hother]
    · exact h.pointer x other hother
  list other x hx := by
    obtain hold | hnew := List.mem_append.1 hx
    · exact h.list other x hold
    · split at hnew
      · rwa [List.mem_singleton.1 hnew]
      · exact absurd hnew List.not_mem_nil

theorem move (h : s.Within packages things) {package : PackageId} {a : α}
    (hpackage : packages package) (ha : things a) : (s.move package a).Within packages things := by
  unfold Shelving.move
  cases s.pointer a with
  | none => exact h.put hpackage ha
  | some previous => exact (h.unlist previous a).put hpackage ha

end Within

end Shelving

end TypeGraph
