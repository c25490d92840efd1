import TypeGraph.Proofs.Mirror
import TypeGraph.Proofs.Settled

/-!
# TypeGraph.Proofs.Hiding

Filters hide types without deleting them.  An answer under stricter filters is
the answer under more lenient ones, without what is hidden:

* `interfaces_withFilters` and its neighbours — a list is filtered, a single
  parent is passed on or withheld;
* `ancestors_withFilters` — the parent chain is different, it ends in front of
  the first type that is hidden;
* `Reachable.showsPartOf_unfiltered` — the most lenient filters are none, and
  when filters are removed, every question is answered as if they had never
  been there.

A walk goes through hidden types, so what it lists below them does not depend on
the filters.
-/

namespace TypeGraph

/-! ## Stricter filters -/

/-- Whatever passes these filters passes the others. -/
def Filters.StricterThan (strict lenient : Filters) : Prop :=
  ∀ node package, strict.accepts node package = true → lenient.accepts node package = true

/-- Any filters are stricter than none. -/
theorem Filters.stricterThan_empty (filters : Filters) : filters.StricterThan .empty :=
  fun _ _ _ => rfl

/-- One more filter makes a collection stricter. -/
theorem Filters.add_stricterThan (filters : Filters) (filter : Filter) :
    (filters.add filter).2.StricterThan filters := by
  intro node package h
  simp only [Filters.add, Filters.accepts, List.all_append, Bool.and_eq_true] at h
  exact h.1

theorem Filters.pure_empty : Filters.empty.Pure := fun _ hentry => nomatch hentry

namespace Model

variable {model : Model} {strict lenient : Filters}

def withFilters (model : Model) (filters : Filters) : Model := { model with filters }

def unfiltered (model : Model) : Model := model.withFilters .empty

theorem Numbered.withFilters (h : model.Numbered) (filters : Filters) :
    (model.withFilters filters).Numbered := h

/-! ## Visibility -/

section

variable (h : strict.StricterThan lenient)
include h

/-- What the stricter filters show, the others show. -/
theorem isVisible_of_stricterThan {ty : TypeId}
    (hty : (model.withFilters strict).isVisible ty = true) :
    (model.withFilters lenient).isVisible ty = true := by
  obtain ⟨node, hnode, haccepts⟩ := (Option.any_eq_true _ _).1 hty
  exact (Option.any_eq_true _ _).2 ⟨node, hnode, h node _ haccepts⟩

/-- Asking both is asking the stricter ones. -/
theorem isVisible_and_isVisible (ty : TypeId) :
    ((model.withFilters strict).isVisible ty && (model.withFilters lenient).isVisible ty) =
      (model.withFilters strict).isVisible ty := by
  rw [Bool.and_eq_left_iff_imp]
  exact isVisible_of_stricterThan h

/-- Filtering with both is filtering with the stricter ones. -/
theorem filter_isVisible (types : List TypeId) :
    (types.filter (model.withFilters lenient).isVisible).filter
        (model.withFilters strict).isVisible =
      types.filter (model.withFilters strict).isVisible := by
  rw [List.filter_filter]
  exact List.filter_congr fun ty _ => isVisible_and_isVisible h ty

/-- Visible types: those that stay visible. -/
theorem visibleTypes_withFilters :
    (model.withFilters strict).visibleTypes =
      (model.withFilters lenient).visibleTypes.filter (model.withFilters strict).isVisible :=
  (filter_isVisible h model.typeIds).symm

/-! ## Walks -/

/-- The parent class: none if it is hidden. -/
theorem parentClass_withFilters (ty : TypeId) :
    (model.withFilters strict).parentClass ty =
      ((model.withFilters lenient).parentClass ty).filter (model.withFilters strict).isVisible := by
  have hdeclared : (model.withFilters strict).declaredParent ty =
      (model.withFilters lenient).declaredParent ty := rfl
  rw [parentClass, parentClass, hdeclared, Option.filter_filter]
  congr 1
  funext parent
  rw [Bool.and_comm, isVisible_and_isVisible h]

omit h in
/-- The plain walk does not look at filters. -/
theorem plainWalk_withFilters (filters : Filters) (path : List TypeId) (ty : TypeId) :
    (model.withFilters filters).plainWalk path ty = model.plainWalk path ty := by
  have hsteps : model.MirrorsSteps (model.withFilters filters) (fun _ => true) id := {
    injective := fun _ _ heq => heq
    interfaces := fun {x} _ => by
      rw [List.map_id, List.filter_true]
      rfl
    parent := fun {x} _ => by
      have hsame : (model.withFilters filters).declaredParent x = model.declaredParent x := rfl
      cases hparent : model.declaredParent x <;> simp [hsame, hparent, Option.filter]
    dead := nofun }
  have hwalk : (model.withFilters filters).plainWalk (path.map id) (id ty) =
      ((model.plainWalk path ty).filter fun _ => true).map id :=
    hsteps.plainWalk_eq (fun _ _ => rfl) rfl
  simpa using hwalk

/-- Interfaces: those that stay visible, since the walk goes through hidden types all
the same. -/
theorem interfaces_withFilters (ty : TypeId) :
    (model.withFilters strict).interfaces ty =
      ((model.withFilters lenient).interfaces ty).filter (model.withFilters strict).isVisible := by
  rw [interfaces_eq_plainWalk, interfaces_eq_plainWalk, plainWalk_withFilters,
    plainWalk_withFilters, List.filter_filter]
  refine List.filter_congr fun x _ => ?_
  rw [Bool.and_left_comm, isVisible_and_isVisible h]

/-- The chain of parents, up to the first one that is hidden. -/
theorem ancestorsFrom_withFilters (visited : Std.HashSet TypeId) (ty : TypeId) :
    (model.withFilters strict).ancestorsFrom visited ty =
      ((model.withFilters lenient).ancestorsFrom visited ty).takeWhile
        (model.withFilters strict).isVisible := by
  have hparent (ty : TypeId) : (model.withFilters strict).parentClass ty =
      ((model.withFilters lenient).parentClass ty).filter (model.withFilters strict).isVisible :=
    parentClass_withFilters h ty
  induction visited, ty using ancestorsFrom.induct (model.withFilters lenient) with
  | case1 visited ty hnone =>
      have hstrict := hparent ty
      rw [hnone, Option.filter_none] at hstrict
      simp [ancestorsFrom_of_none hnone, ancestorsFrom_of_none hstrict]
  | case2 visited ty parent hsome hvisited =>
      have hstrict := hparent ty
      rw [hsome, Option.filter_some] at hstrict
      rw [ancestorsFrom_of_visited hsome hvisited, List.takeWhile_nil]
      split at hstrict
      · exact ancestorsFrom_of_visited hstrict hvisited
      · exact ancestorsFrom_of_none hstrict
  | case3 visited ty parent hsome hnew ih =>
      have hstrict := hparent ty
      rw [hsome, Option.filter_some] at hstrict
      rw [ancestorsFrom_of_new hsome hnew, List.takeWhile_cons, ← ih]
      split at hstrict
      · rename_i hvisible
        rw [if_pos hvisible]
        exact ancestorsFrom_of_new hstrict hnew
      · rename_i hhidden
        rw [if_neg hhidden]
        exact ancestorsFrom_of_none hstrict

/-- The parent chain ends in front of the first hidden type. -/
theorem ancestors_withFilters (ty : TypeId) :
    (model.withFilters strict).ancestors ty =
      ((model.withFilters lenient).ancestors ty).takeWhile (model.withFilters strict).isVisible :=
  ancestorsFrom_withFilters h {ty} ty

/-! ## Dependencies -/

omit h in
/-- Hidden elements are no obstacle to others, so it does not matter whether
they are left out before or after. -/
theorem firstUnseen_filter {α : Type} [DecidableEq α] (p : α → Bool) {seen seen' l : List α}
    (hseen : ∀ a, p a = true → (a ∈ seen' ↔ a ∈ seen)) :
    firstUnseen seen' (l.filter p) = (firstUnseen seen l).filter p := by
  induction l generalizing seen seen' with
  | nil => rfl
  | cons a l ih =>
      rw [firstUnseen]
      cases hp : p a with
      | false =>
          rw [List.filter_cons_of_neg (by simp [hp])]
          split
          · exact ih hseen
          · rw [List.filter_cons_of_neg (by simp [hp])]
            refine ih fun b hb => ?_
            have hne : b ≠ a := fun heq => by simp [heq, hp] at hb
            simp [hseen b hb, hne]
      | true =>
          rw [List.filter_cons_of_pos hp, firstUnseen]
          by_cases ha : a ∈ seen
          · rw [if_pos ha, if_pos ((hseen a hp).2 ha)]
            exact ih hseen
          · rw [if_neg ha, if_neg (mt (hseen a hp).1 ha), List.filter_cons_of_pos hp]
            congr 1
            exact ih fun b hb => by simp [hseen b hb]

/-- Resolved dependencies: those that stay visible. -/
theorem resolvedDependencies_withFilters (ty : TypeId) :
    (model.withFilters strict).resolvedDependencies ty =
      ((model.withFilters lenient).resolvedDependencies ty).filter
        (model.withFilters strict).isVisible := by
  rw [resolvedDependencies, resolvedDependencies, ← firstUnseen_filter _ (fun _ _ => Iff.rfl),
    filter_isVisible h]
  rfl

/-! ## Questions about all types -/

/-- Children: those that stay visible. -/
theorem childClasses_withFilters (hnumbered : model.Numbered) (ty : TypeId) :
    (model.withFilters strict).childClasses ty =
      ((model.withFilters lenient).childClasses ty).filter
        (model.withFilters strict).isVisible := by
  rw [(hnumbered.withFilters strict).childClasses_eq,
    (hnumbered.withFilters lenient).childClasses_eq, visibleTypes_withFilters h,
    List.filter_filter, List.filter_filter]
  exact List.filter_congr fun x _ => Bool.and_comm _ _

/-- A hidden interface has no implementors. -/
theorem implementors_withFilters (hnumbered : model.Numbered) (interface : TypeId) :
    (model.withFilters strict).implementors interface =
      if (model.withFilters strict).isVisible interface then
        ((model.withFilters lenient).implementors interface).filter
          (model.withFilters strict).isVisible
      else [] := by
  have hcontains (x : TypeId) :
      ((model.withFilters strict).interfaces x).contains interface =
        (((model.withFilters lenient).interfaces x).contains interface &&
          (model.withFilters strict).isVisible interface) := by
    rw [interfaces_withFilters h, Bool.eq_iff_iff]
    simp
  rw [(hnumbered.withFilters strict).implementors_eq,
    (hnumbered.withFilters lenient).implementors_eq, visibleTypes_withFilters h]
  simp only [List.filter_filter, hcontains]
  split
  · rename_i hvisible
    refine List.filter_congr fun x _ => ?_
    rw [hvisible, Bool.and_true, Bool.and_comm]
  · rename_i hhidden
    simp [hhidden]

/-- Who is a subtype under the stricter filters is one under the others. -/
theorem isSubtypeOf_of_withFilters {ty other : TypeId}
    (hsubtype : (model.withFilters strict).isSubtypeOf ty other = true) :
    (model.withFilters lenient).isSubtypeOf ty other = true := by
  rw [isSubtypeOf_iff, interfaces_withFilters h, ancestors_withFilters h] at hsubtype
  rw [isSubtypeOf_iff]
  obtain heq | ⟨hkind, hinterface⟩ | ⟨hkind, hkind', hancestor⟩ := hsubtype
  · exact .inl heq
  · exact .inr (.inl ⟨hkind, (List.mem_filter.1 hinterface).1⟩)
  · exact .inr (.inr ⟨hkind, hkind', (List.takeWhile_subset _) hancestor⟩)

end

/-! ## Hiding without deleting -/

/-- The first model answers as the second one does, without the types that are
hidden in it. -/
structure ShowsPartOf (part whole : Model) : Prop where
  parentClass : ∀ ty, part.parentClass ty = (whole.parentClass ty).filter part.isVisible
  interfaces : ∀ ty, part.interfaces ty = (whole.interfaces ty).filter part.isVisible
  ancestors : ∀ ty, part.ancestors ty = (whole.ancestors ty).takeWhile part.isVisible
  resolvedDependencies : ∀ ty,
    part.resolvedDependencies ty = (whole.resolvedDependencies ty).filter part.isVisible
  childClasses : ∀ ty, part.childClasses ty = (whole.childClasses ty).filter part.isVisible
  implementors : ∀ interface, part.implementors interface =
    if part.isVisible interface then (whole.implementors interface).filter part.isVisible else []
  isSubtypeOf : ∀ ty other, part.isSubtypeOf ty other = true → whole.isSubtypeOf ty other = true

/-- The answers under the stricter filters show a part of those under the others. -/
theorem Numbered.showsPartOf (hnumbered : model.Numbered) (h : strict.StricterThan lenient) :
    (model.withFilters strict).ShowsPartOf (model.withFilters lenient) where
  parentClass := parentClass_withFilters h
  interfaces := interfaces_withFilters h
  ancestors := ancestors_withFilters h
  resolvedDependencies := resolvedDependencies_withFilters h
  childClasses := childClasses_withFilters h hnumbered
  implementors := implementors_withFilters h hnumbered
  isSubtypeOf _ _ := isSubtypeOf_of_withFilters h

/-- Questions follow references in the same way without filters. -/
theorem unfiltered_settle (model : Model) (sites : List Site) :
    (model.settle sites).unfiltered = model.unfiltered.settle sites := by
  induction sites generalizing model with
  | nil => rfl
  | cons site sites ih =>
      refine (ih (model.settleAt site)).trans ?_
      cases site <;> rfl

/-- **Hiding**: whatever the filters are, the answers under them are those of the
unfiltered model without what is hidden; and when the filters are removed, be it
after any questions, every question is answered as if there had been none. -/
theorem Reachable.showsPartOf_unfiltered (h : model.Reachable) (filters : Filters) :
    (model.withFilters filters).ShowsPartOf model.unfiltered ∧
      ∀ (queries : List Query) (query : Query),
        query.answer (queries.foldl Model.after (model.withFilters filters)).unfiltered =
          query.answer model.unfiltered := by
  refine ⟨h.numbered.showsPartOf (Filters.stricterThan_empty filters), fun queries query => ?_⟩
  obtain ⟨sites, hsites⟩ := exists_settle_eq_foldl_after (model.withFilters filters) queries
  rw [hsites, unfiltered_settle]
  exact query.answer_settle Filters.pure_empty sites

/-- A class whose parent is not declared in the sources. -/
theorem showsPartOf_of_hidden_parent :
    let model := (Model.empty 0 .empty).run [
      .addType .classType "Square", .addType .classType "Shape", .setUserDefined ⟨0⟩,
      .setParent ⟨0⟩ ⟨.classType, "Shape", some ⟨1⟩⟩]
    let declared := model.withFilters (.ofList [.userDefined])
    model.Reachable ∧ declared.parentClass ⟨0⟩ = none ∧
      model.unfiltered.parentClass ⟨0⟩ = some ⟨1⟩ ∧ declared.ShowsPartOf model.unfiltered ∧
        ∀ (queries : List Query) (query : Query),
          query.answer (queries.foldl Model.after declared).unfiltered =
            query.answer model.unfiltered := by
  intro model declared
  have hreachable : model.Reachable := .run _ (.empty 0 .empty)
  exact ⟨hreachable, by decide, by decide, hreachable.showsPartOf_unfiltered _⟩

end Model

end TypeGraph
