import TypeGraph.Proofs.PlainWalk

/-!
# TypeGraph.Proofs.Interfaces

Which interfaces a type has, and in which order they are listed:

* `interfaces_eq_plainWalk` — the list is the plain walk with first
  occurrences only, without the type itself and without what is hidden;
* `nodup_interfaces_and_mem_iff` — as a set it is the closure of the declared
  references: every visible interface, other than the type itself, of a type
  that can be reached, through hidden types as well.

Both hold of every model, however its references are tied into circles and
whatever they remember.
-/

namespace TypeGraph.Model

variable {model : Model}

/-! ## First occurrences -/

theorem nodup_eraseDups {α : Type} [BEq α] [LawfulBEq α] : (l : List α) → l.eraseDups.Nodup
  | [] => List.nodup_nil
  | a :: l => by
      rw [List.eraseDups_cons, List.nodup_cons, List.mem_eraseDups]
      exact ⟨by simp, nodup_eraseDups _⟩
termination_by l => l.length
decreasing_by exact Nat.lt_succ_of_le (List.length_filter_le ..)

/-- The first occurrences of what passes a test are what passes of the first
occurrences. -/
theorem eraseDups_filter {α : Type} [BEq α] [LawfulBEq α] (p : α → Bool) :
    (l : List α) → (l.filter p).eraseDups = l.eraseDups.filter p
  | [] => rfl
  | a :: l => by
      have ih := eraseDups_filter p (l.filter fun b => !b == a)
      have hcomm : (l.filter fun b => !b == a).filter p = (l.filter p).filter fun b => !b == a := by
        rw [List.filter_filter, List.filter_filter]
        simp only [Bool.and_comm]
      rw [List.eraseDups_cons]
      by_cases hp : p a = true
      · rw [List.filter_cons_of_pos hp, List.filter_cons_of_pos hp, List.eraseDups_cons, ← ih,
          hcomm]
      · have hself : (l.filter p).filter (fun b => !b == a) = l.filter p := by
          refine List.filter_eq_self.2 fun b hb => ?_
          rw [Bool.not_eq_true', beq_eq_false_iff_ne]
          rintro rfl
          exact hp (List.mem_filter.1 hb).2
        rw [List.filter_cons_of_neg hp, List.filter_cons_of_neg hp, ← ih, hcomm, hself]
termination_by l => l.length
decreasing_by exact Nat.lt_succ_of_le (List.length_filter_le ..)

/-! ## The walk from a type -/

theorem mem_singleton_iff {x ty : TypeId} : x ∈ ({ty} : Std.HashSet TypeId) ↔ x = ty := by
  rw [Std.HashSet.singleton_eq_insert, Std.HashSet.mem_insert, beq_iff_eq, eq_comm]
  exact or_iff_left Std.HashSet.not_mem_empty

/-- Before its first link a walk is inside the type it starts from. -/
theorem tracks_start (model : Model) (ty : TypeId) :
    Walk.Tracks model [ty] ⟨{ty}, {ty}, #[]⟩ where
  path_expanded := fun _ hx _ => mem_singleton_iff.2 (List.mem_singleton.1 hx)
  seen_expanded := fun _ hx _ => hx
  finished := fun _ hx hpath => (hpath (List.mem_singleton.2 (mem_singleton_iff.1 hx))).elim

/-- The walk from a type takes all links of the type. -/
theorem walkFrom_takes (model : Model) (ty : TypeId) :
    Takes model [ty] (model.links ty) ⟨{ty}, {ty}, #[]⟩ (model.walkFrom ty) :=
  follow_takes (model.links ty) _ (tracks_start model ty)

/-- A finished walk has met the start and what the plain walk lists. -/
theorem mem_seen_walkFrom {ty x : TypeId} :
    x ∈ (model.walkFrom ty).seen ↔ x = ty ∨ x ∈ model.plainWalk [ty] ty := by
  rw [(walkFrom_takes model ty).seen_eq, mem_seen_meetAll, mem_singleton_iff, plainWalk_eq]

/-- A finished walk has nothing left to do about any type that it expanded. -/
theorem done_walkFrom {ty x : TypeId} (hx : x ∈ (model.walkFrom ty).expanded) :
    ∀ link ∈ model.links x, link.Done model (model.walkFrom ty) := by
  have htakes := walkFrom_takes model ty
  by_cases heq : x = ty
  · exact heq ▸ htakes.done
  · exact htakes.tracks.finished x hx (mt List.mem_singleton.1 heq)

/-- A finished walk has expanded every type of the model that its start
reaches. -/
theorem mem_expanded_of_reaches {ty x : TypeId} (h : model.Reaches ty x)
    (hx : x.index < model.types.size) : x ∈ (model.walkFrom ty).expanded := by
  induction h with
  | refl => exact (walkFrom_takes model ty).expanded_subset ty (mem_singleton_iff.2 rfl)
  | tail _ hstep ih =>
      have hexp := ih (index_lt_of_leadsTo hstep)
      cases hstep with
      | interface hi =>
          have hseen := done_walkFrom hexp _ (interface_mem_links.2 hi)
          exact (walkFrom_takes model ty).tracks.seen_expanded _ hseen hx
      | parent hp => exact done_walkFrom hexp _ (parent_mem_links.2 hp) hx

/-- The plain walk lists every interface of every type that its start
reaches, but perhaps the start itself. -/
theorem mem_plainWalk_of_reaches {ty x y : TypeId} (hy : model.Reaches ty y)
    (hx : x ∈ model.declaredInterfaces y) (hne : x ≠ ty) : x ∈ model.plainWalk [ty] ty := by
  have hexp := mem_expanded_of_reaches hy (index_lt_of_leadsTo (.interface hx))
  have hseen := done_walkFrom hexp _ (interface_mem_links.2 hx)
  exact (mem_seen_walkFrom.1 hseen).resolve_left hne

/-! ## The list of interfaces -/

/-- The interfaces of a type are what the plain walk meets, first occurrences only,
without the type itself and what is hidden. -/
theorem interfaces_eq_filter (model : Model) (ty : TypeId) :
    model.interfaces ty =
      (((model.plainWalk [ty] ty).filter (· != ty)).eraseDups).filter model.isVisible := by
  have hstart : (fun x => !({ty} : Std.HashSet TypeId).contains x) = (· != ty) := by
    funext x
    rw [Bool.eq_iff_iff, Bool.not_eq_true', Std.HashSet.contains_eq_false_iff_not_mem,
      mem_singleton_iff, bne_iff_ne]
  rw [interfaces, (walkFrom_takes model ty).found_eq, found_meetAll, plainWalk_eq, hstart]
  rfl

/-- **Order**: the interfaces of a type are what the plain walk from it lists,
first occurrences only, without the type itself and without what is hidden or
foreign. -/
theorem interfaces_eq_plainWalk (model : Model) (ty : TypeId) :
    model.interfaces ty =
      (model.plainWalk [ty] ty).eraseDups.filter fun x => x != ty && model.isVisible x := by
  rw [interfaces_eq_filter, eraseDups_filter, List.filter_filter]
  simp only [Bool.and_comm]

/-- **Contents**: no interface is listed twice, and the interfaces of a type
are the visible types of the model, other than itself, that an interface
reference of some type that it reaches points at. -/
theorem nodup_interfaces_and_mem_iff (model : Model) (ty : TypeId) :
    (model.interfaces ty).Nodup ∧
      ∀ x, x ∈ model.interfaces ty ↔
        x ≠ ty ∧ model.isVisible x = true ∧
          ∃ y, model.Reaches ty y ∧ x ∈ model.declaredInterfaces y := by
  rw [interfaces_eq_filter]
  refine ⟨(nodup_eraseDups _).filter _, fun x => ?_⟩
  rw [List.mem_filter, List.mem_eraseDups, List.mem_filter, bne_iff_ne]
  constructor
  · rintro ⟨⟨hwalk, hne⟩, hvis⟩
    exact ⟨hne, hvis, exists_of_mem_plainWalk hwalk⟩
  · rintro ⟨hne, hvis, y, hy, hx⟩
    exact ⟨⟨mem_plainWalk_of_reaches hy hx hne, hne⟩, hvis⟩

end TypeGraph.Model
