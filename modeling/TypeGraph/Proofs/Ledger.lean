import TypeGraph.Handle

/-!
# TypeGraph.Proofs.Ledger

Who holds a member, as a machine of its own.  Each member is unowned, or one
type holds it, once or several times:

1. `Holding.give` — a type that gets a copy has one more if it is the holder,
   and takes all copies from another holder otherwise;
2. `Holding.take` — the holder that gives back a copy has one less, and is no
   holder any more after the last; for any other type nothing happens;
3. `Ledger.record` does so for the member that changes hands.
-/

namespace TypeGraph

/-! ## Holdings -/

/-- The type that holds a member, and how many copies it has. -/
structure Holding where
  holder : TypeId
  copies : Nat
  copies_pos : 0 < copies

namespace Holding

/-- How many copies a type has; no holding is none. -/
def copiesIn (holding : Option Holding) (ty : TypeId) : Nat :=
  match holding with
  | none => 0
  | some h => if h.holder = ty then h.copies else 0

/-- The holding once a type has got a copy: one copy more if it is the holder,
the first copy otherwise. -/
def give (holding : Option Holding) (ty : TypeId) : Holding :=
  ⟨ty, copiesIn holding ty + 1, Nat.succ_pos _⟩

/-- The holding once a type has given back a copy: one copy less if it is the
holder, and nobody holds the member after the last; no change otherwise. -/
def take (holding : Option Holding) (ty : TypeId) : Option Holding :=
  match holding with
  | none => none
  | some h =>
    if h.holder = ty then
      if hmore : 1 < h.copies then some ⟨ty, h.copies - 1, Nat.sub_pos_of_lt hmore⟩ else none
    else some h

/-- Who is not the holder has no copies. -/
theorem copiesIn_eq_zero {holding : Option Holding} {ty : TypeId}
    (h : holding.map (·.holder) ≠ some ty) : copiesIn holding ty = 0 := by
  cases holding with
  | none => rfl
  | some held =>
      have hne : held.holder ≠ ty := fun heq => h (congrArg some heq)
      simp [copiesIn, hne]

/-- A transfer to a type gives it one copy more, and all others none. -/
theorem copiesIn_give (holding : Option Holding) (ty x : TypeId) :
    copiesIn (some (give holding ty)) x = if ty = x then copiesIn holding x + 1 else 0 := by
  by_cases h : ty = x
  · subst h
    simp [copiesIn, give]
  · simp [copiesIn, give, h]

/-- A type that gives back a copy has one less. -/
theorem copiesIn_take (holding : Option Holding) (ty x : TypeId) :
    copiesIn (take holding ty) x =
      if ty = x then copiesIn holding x - 1 else copiesIn holding x := by
  cases holding with
  | none => simp [take, copiesIn]
  | some held =>
      by_cases hty : held.holder = ty
      · subst hty
        have hpos := held.copies_pos
        by_cases hmore : 1 < held.copies
        · by_cases hx : held.holder = x <;> simp [take, copiesIn, hmore, hx]
        · have hlast : held.copies = 1 := by omega
          by_cases hx : held.holder = x <;> simp [take, copiesIn, hlast, hx]
      · by_cases hx : ty = x
        · subst hx
          simp [take, copiesIn, hty]
        · simp [take, hty, hx]

/-- A holder that gives back the only copy is the holder no more. -/
theorem holder_take (holding : Option Holding) (ty : TypeId) :
    (take holding ty).map (·.holder) =
      if copiesIn holding ty = 1 then none else holding.map (·.holder) := by
  cases holding with
  | none => simp [take]
  | some held =>
      by_cases hty : held.holder = ty
      · subst hty
        have hpos := held.copies_pos
        by_cases hmore : 1 < held.copies
        · have hne : held.copies ≠ 1 := by omega
          simp [take, copiesIn, hmore, hne]
        · have hlast : held.copies = 1 := by omega
          simp [take, copiesIn, hlast]
      · simp [take, copiesIn, hty]

end Holding

/-! ## Ledgers -/

/-- Who holds each member. -/
abbrev Ledger := MemberId → Option Holding

/-- A copy of a member that a type gets or gives back. -/
inductive Transfer where
  | give (owner : TypeId) (member : MemberId)
  | take (owner : TypeId) (member : MemberId)

def Transfer.owner : Transfer → TypeId
  | .give owner _ | .take owner _ => owner

def Transfer.member : Transfer → MemberId
  | .give _ member | .take _ member => member

namespace Ledger

def empty : Ledger := fun _ => none

/-- The ledger after a transfer. -/
def record (ledger : Ledger) : Transfer → Ledger
  | .give owner member => fun x =>
    if x = member then some (Holding.give (ledger x) owner) else ledger x
  | .take owner member => fun x =>
    if x = member then Holding.take (ledger x) owner else ledger x

/-- The ledger after some transfers in turn. -/
def recordAll (ledger : Ledger) (transfers : List Transfer) : Ledger :=
  transfers.foldl record ledger

/-- Transfers may be recorded in two parts. -/
theorem recordAll_append (ledger : Ledger) (first second : List Transfer) :
    ledger.recordAll (first ++ second) = (ledger.recordAll first).recordAll second :=
  List.foldl_append

end Ledger

end TypeGraph
