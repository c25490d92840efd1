import Mathlib.Data.Option.Basic
import TypeGraph.Proofs.Filing

/-!
# TypeGraph.Proofs.Packages

Pointers and lists say the same as long as they are written together.  All
operations do so but one: `setPackage` writes a pointer alone, and the lists are
left behind until `rebuildIndex` makes them follow.

1. `Model.InStep.filed` — in a model whose lists have not been left behind every
   package lists the types that point at it, once each, and no others;
2. `Model.filedIn_addTypeToPackage_iff` — a type that is moved into a package is
   in this one and no other if it was listed where it pointed at most;
3. `Model.listed_twice_after_setPackage` — otherwise the package that listed it
   keeps it.
-/

namespace TypeGraph.Model

variable {model : Model}

/-! ## What lists should say -/

/-- The lists say what the pointers say. -/
def Filed (model : Model) : Prop :=
  ∀ ty package, (model.typesIn package).count ty = model.due ty package

/-- The type is listed where it points at most: no other package lists it, and
that one lists it no more than once. -/
def ListedAtPointer (model : Model) (ty : TypeId) : Prop :=
  ∀ package, (model.typesIn package).count ty ≤ model.due ty package

/-- The type is in the package and in no other one. -/
structure FiledIn (model : Model) (ty : TypeId) (package : PackageId) : Prop where
  pointer : model.packageOf ty = some package
  once : (model.typesIn package).count ty = 1
  nowhereElse : ∀ other, other ≠ package → ty ∉ model.typesIn other

/-- If lists say what pointers say, a type is listed where it points at most. -/
theorem Filed.listedAtPointer (h : model.Filed) (ty : TypeId) : model.ListedAtPointer ty :=
  fun package => Nat.le_of_eq (h ty package)

/-- Being in one package and no other, by counts. -/
theorem filedIn_iff {ty : TypeId} {package : PackageId} :
    model.FiledIn ty package ↔ model.packageOf ty = some package ∧
      ∀ other, (model.typesIn other).count ty = if package = other then 1 else 0 := by
  constructor
  · intro h
    refine ⟨h.pointer, fun other => ?_⟩
    by_cases hother : package = other
    · rw [if_pos hother, ← hother, h.once]
    · rw [if_neg hother, List.count_eq_zero.2 (h.nowhereElse other (Ne.symm hother))]
  · rintro ⟨hpointer, hcount⟩
    constructor
    · exact hpointer
    · rw [hcount, if_pos rfl]
    · intro other hother
      rw [← List.count_eq_zero, hcount, if_neg (Ne.symm hother)]

/-! ## Where pointers lead -/

/-- Every pointer leads to a package of the model. -/
def PointsInside (model : Model) : Prop :=
  ∀ ty package, model.packageOf ty = some package → (model.package? package).isSome

/-- An operation that moves a type has found the type and the package. -/
theorem found_of_addTypeToPackage {package : PackageId} {ty : TypeId}
    (h : (Operation.addTypeToPackage package ty).refusal? model = none) :
    (model.package? package).isSome ∧ (model.type? ty).isSome := by
  obtain ⟨hpackage, hrest⟩ := (Option.orElse_eq_none _ _).1 h
  obtain ⟨hty, -⟩ := (Option.orElse_eq_none _ _).1 hrest
  exact ⟨isSome_of_refuseForeign hpackage, isSome_of_refuseForeign hty⟩

/-- An operation that points a type at a package has found the package. -/
theorem found_of_setPackage (model : Model) {ty : TypeId} {package : PackageId}
    (h : (Operation.setPackage ty (some package)).refusal? model = none) :
    (model.package? package).isSome := by
  obtain ⟨hpackage, -⟩ := (Option.orElse_eq_none _ _).1 h
  exact isSome_of_refuseForeign hpackage

namespace PointsInside

theorem empty (origin : Nat) (filters : Filters) : (Model.empty origin filters).PointsInside := by
  intro ty package hty
  simp [packageOf, type?, Model.empty] at hty

/-- What leaves pointers alone. -/
theorem keepsFiling (h : model.PointsInside) {after : Model} (hkeeps : model.KeepsFiling after) :
    after.PointsInside := by
  intro ty package hty
  rw [hkeeps.packageOf] at hty
  exact hkeeps.package? package (h ty package hty)

/-- An operation points a type at packages that it has looked up. -/
theorem effect (h : model.PointsInside) {operation : Operation}
    (hrefusal : operation.refusal? model = none) : (operation.effect model).PointsInside := by
  obtain ⟨ty, target, rfl⟩ | ⟨package, ty, rfl⟩ | ⟨package, ty, rfl⟩ | rfl | hkeeps :=
    operation.filing_cases model
  · intro x package hx
    have hpointer : (if ty = x then (model.type? x).bind fun _ => target
        else model.packageOf x) = some package :=
      (packageOf_modifyType ty x fun node => { node with package := target }).symm.trans hx
    split at hpointer
    · obtain ⟨_, -, rfl⟩ := Option.bind_eq_some_iff.1 hpointer
      exact found_of_setPackage model hrefusal
    · exact h x package hpointer
  · obtain ⟨hpackage, hty⟩ := found_of_addTypeToPackage hrefusal
    intro x target hx
    rw [Operation.effect, packageOf_moveType hty] at hx
    rw [Operation.effect, isSome_package?_moveType]
    split at hx
    · obtain rfl := Option.some_inj.1 hx
      exact hpackage
    · exact h x target hx
  · intro x target hx
    rw [Operation.effect, packageOf_unlistType] at hx
    rw [Operation.effect, isSome_package?_unlistType]
    split at hx
    · contradiction
    · exact h x target hx
  · intro x target hx
    rw [Operation.effect, package?_rebuildIndex, Option.isSome_map]
    exact h x target hx
  · exact h.keepsFiling hkeeps

end PointsInside

/-- No pointer of a reachable model leads to a package of another one. -/
theorem Reachable.pointsInside (h : model.Reachable) : model.PointsInside :=
  h.invariant PointsInside.empty PointsInside.effect
    (fun hbefore table site => hbefore.keepsFiling (.settleIn _ table site))
    fun hbefore _ => hbefore

/-! ## Lists that say what pointers say -/

/-- The models whose lists have not been left behind: since the lists were
rebuilt, or from the start, no pointer has been written alone. -/
inductive InStep : Model → Prop where
  | empty (origin : Nat) (filters : Filters) : InStep (.empty origin filters)
  | event {model : Model} (event : Event) (hpaired : event.Obeys Operation.Paired model)
      (h : InStep model) : InStep (event.after model)
  | rebuild {model : Model} (h : model.Reachable) : InStep model.rebuildIndex

/-- Rebuilding is an operation, so these models are reachable. -/
theorem InStep.reachable (h : model.InStep) : model.Reachable := by
  induction h with
  | empty origin filters => exact .empty origin filters
  | event event _ _ ih => exact ih.event event
  | rebuild h => exact h.event (.operate .rebuildIndex)

/-- Where no pointer has been written alone at all. -/
theorem ReachableBy.inStep (h : model.ReachableBy (Event.Obeys Operation.Paired)) :
    model.InStep := by
  induction h with
  | empty origin filters => exact .empty origin filters
  | event event hpaired _ ih => exact ih.event event hpaired

namespace Filed

/-- What leaves pointers and lists alone. -/
theorem keepsFiling (h : model.Filed) {after : Model} (hkeeps : model.KeepsFiling after) :
    after.Filed := by
  intro ty package
  unfold due
  rw [hkeeps.typesIn, hkeeps.packageOf]
  exact h ty package

theorem agrees (h : model.Filed) : model.typeShelving.Agrees := h

theorem moveType (h : model.Filed) {package : PackageId} {ty : TypeId}
    (hpackage : (model.package? package).isSome) (hty : (model.type? ty).isSome) :
    (model.moveType package ty).Filed := by
  have hmoved := h.agrees.move package ty
  rwa [← typeShelving_moveType hpackage hty] at hmoved

theorem unlistType (h : model.Filed) (package : PackageId) (ty : TypeId) :
    (model.unlistType package ty).Filed := by
  have hunlisted := h.agrees.unlist package ty
  rwa [← typeShelving_unlistType] at hunlisted

/-- Rebuilt lists say what the pointers say, whatever was listed before. -/
theorem rebuildIndex (hnumbered : model.Numbered) (hinside : model.PointsInside) :
    model.rebuildIndex.Filed := by
  intro ty package
  have hdue : model.rebuildIndex.due ty package = model.due ty package := rfl
  rw [hdue, typesIn_rebuildIndex]
  split
  · exact hnumbered.count_pointingAt ty package
  · next hforeign =>
      have hpointer : model.packageOf ty ≠ some package := fun hpointer =>
        hforeign (hinside ty package hpointer)
      rw [due, if_neg hpointer]
      rfl

/-- Every operation but the one that writes a pointer alone. -/
theorem effect (h : model.Filed) (hreachable : model.Reachable) {operation : Operation}
    (hoperation : ∀ ty target, operation ≠ .setPackage ty target)
    (hrefusal : operation.refusal? model = none) : (operation.effect model).Filed := by
  obtain ⟨ty, target, rfl⟩ | ⟨package, ty, rfl⟩ | ⟨package, ty, rfl⟩ | rfl | hkeeps :=
    operation.filing_cases model
  · exact (hoperation ty target rfl).elim
  · obtain ⟨hpackage, hty⟩ := found_of_addTypeToPackage hrefusal
    exact h.moveType hpackage hty
  · exact h.unlistType package ty
  · exact rebuildIndex hreachable.numbered hreachable.pointsInside
  · exact h.keepsFiling hkeeps

end Filed

/-- As long as no pointer has been written alone, or since the lists were rebuilt,
lists say what pointers say. -/
theorem InStep.filed (h : model.InStep) : model.Filed := by
  induction h with
  | empty origin filters =>
      intro ty package
      simp [typesIn, due, packageOf, package?, type?, Model.empty]
  | event event hpaired hbefore ih =>
      cases event with
      | operate operation =>
          rw [Event.after, Operation.after_eq]
          cases hrefusal : operation.refusal? _ with
          | some error => exact ih
          | none => exact ih.effect hbefore.reachable hpaired hrefusal
      | ask query => exact ih.keepsFiling (.settle _ _)
      | copy origin => exact ih
      | resolve table site => exact ih.keepsFiling (.settleIn _ table site)
  | rebuild h => exact .rebuildIndex h.numbered h.pointsInside

/-! ## Moving a type into a package -/

/-- Moving a type takes it off one list, so it was on no other one if it is in
one package afterwards. -/
theorem filedIn_moveType_iff {package : PackageId} {ty : TypeId}
    (hpackage : (model.package? package).isSome) (hty : (model.type? ty).isSome) :
    (model.moveType package ty).FiledIn ty package ↔ model.ListedAtPointer ty := by
  rw [filedIn_iff, packageOf_moveType hty, if_pos rfl]
  simp only [count_typesIn_moveType hpackage, if_true, true_and]
  refine forall_congr' fun other => ?_
  omega

/-- A type that is not refused is moved, and is the reply. -/
theorem addTypeToPackage_eq_ok {package : PackageId} {ty : TypeId}
    (h : (Operation.addTypeToPackage package ty).refusal? model = none) :
    Edit.addTypeToPackage package ty model = .ok ty (model.moveType package ty) := by
  rw [Edit.addTypeToPackage_eq, h]
  rfl

/-- **Moving a type**: a type that is moved into a package points at it
afterwards, and it is in this package and no other one if and only if it was
listed, if at all, once and where it pointed.  That is so as long as no pointer
has been written alone since the lists were rebuilt. -/
theorem filedIn_addTypeToPackage_iff {package : PackageId} {ty reply : TypeId} {after : Model}
    (h : Edit.addTypeToPackage package ty model = .ok reply after) :
    after.packageOf ty = some package ∧
      (after.FiledIn ty package ↔ model.ListedAtPointer ty) ∧
      (model.InStep → after.FiledIn ty package) := by
  cases hrefusal : (Operation.addTypeToPackage package ty).refusal? model with
  | some error =>
      rw [Edit.addTypeToPackage_eq, hrefusal] at h
      contradiction
  | none =>
      obtain ⟨-, rfl⟩ := EStateM.Result.ok.inj ((addTypeToPackage_eq_ok hrefusal).symm.trans h)
      obtain ⟨hpackage, hty⟩ := found_of_addTypeToPackage hrefusal
      have hiff : (model.moveType package ty).FiledIn ty package ↔ model.ListedAtPointer ty :=
        filedIn_moveType_iff hpackage hty
      refine ⟨?_, hiff, fun hstep => hiff.2 (hstep.filed.listedAtPointer ty)⟩
      rw [packageOf_moveType hty, if_pos rfl]

/-- Two packages of different names and nothing else. -/
theorem run_addPackage_addPackage {first second : String} (h : first ≠ second) :
    (Model.empty 0 .empty).run [.addPackage first, .addPackage second] =
      { Model.empty 0 .empty with
        packages := #[⟨⟨0⟩, 0, first, [], []⟩, ⟨⟨1⟩, 0, second, [], []⟩]
        packageIndex :=
          (({} : Std.HashMap String PackageId).insert first ⟨0⟩).insert second ⟨1⟩ } := by
  simp [Model.run, Operation.after_eq, Operation.refusal?, Operation.effect, addPackage,
    findPackage, Model.empty, h]

/-- A class that moves from one package to another one. -/
theorem filedIn_of_move :
    let model := (Model.empty 0 .empty).run [.addPackage "Core", .addPackage "Util",
      .addType .classType "Logger", .addTypeToPackage ⟨0⟩ ⟨0⟩]
    let after := model.moveType ⟨1⟩ ⟨0⟩
    Edit.addTypeToPackage ⟨1⟩ ⟨0⟩ model = .ok ⟨0⟩ after ∧ model.InStep ∧
      after.FiledIn ⟨0⟩ ⟨1⟩ := by
  intro model after
  have hmodel : model = ((Model.empty 0 .empty).run [.addPackage "Core", .addPackage "Util"]).run
      [.addType .classType "Logger", .addTypeToPackage ⟨0⟩ ⟨0⟩] := rfl
  have hstep : model.InStep :=
    ((ReachableBy.empty 0 .empty).run (by simp [Event.Obeys, Operation.Paired])).inStep
  have hok : Edit.addTypeToPackage ⟨1⟩ ⟨0⟩ model = .ok ⟨0⟩ after := by
    apply addTypeToPackage_eq_ok
    rw [hmodel, run_addPackage_addPackage (by decide)]
    rfl
  exact ⟨hok, hstep, (filedIn_addTypeToPackage_iff hok).2.2 hstep⟩

/-- A class whose pointer has been written alone in between: the package that
lists it keeps it when it moves, since it is not the one that it points at. -/
theorem listed_twice_after_setPackage :
    let model := (Model.empty 0 .empty).run [.addPackage "Core", .addPackage "Util",
      .addType .classType "Logger", .addTypeToPackage ⟨0⟩ ⟨0⟩, .setPackage ⟨0⟩ (some ⟨1⟩)]
    let after := model.moveType ⟨1⟩ ⟨0⟩
    model.Reachable ∧ Edit.addTypeToPackage ⟨1⟩ ⟨0⟩ model = .ok ⟨0⟩ after ∧
      ⟨0⟩ ∈ after.typesIn ⟨0⟩ ∧ ⟨0⟩ ∈ after.typesIn ⟨1⟩ ∧ ¬ after.FiledIn ⟨0⟩ ⟨1⟩ := by
  intro model after
  have hmodel : model = ((Model.empty 0 .empty).run [.addPackage "Core", .addPackage "Util"]).run
      [.addType .classType "Logger", .addTypeToPackage ⟨0⟩ ⟨0⟩, .setPackage ⟨0⟩ (some ⟨1⟩)] := rfl
  rw [run_addPackage_addPackage (by decide)] at hmodel
  have hok : Edit.addTypeToPackage ⟨1⟩ ⟨0⟩ model = .ok ⟨0⟩ after := by
    apply addTypeToPackage_eq_ok
    rw [hmodel]
    rfl
  have hkept : after.typesIn ⟨0⟩ = [⟨0⟩] := by
    unfold after
    rw [hmodel]
    rfl
  have hmoved : after.typesIn ⟨1⟩ = [⟨0⟩] := by
    unfold after
    rw [hmodel]
    rfl
  have hfirst : ⟨0⟩ ∈ after.typesIn ⟨0⟩ := by simp [hkept]
  refine ⟨.run _ (.empty 0 .empty), hok, hfirst, by simp [hmoved], fun h => ?_⟩
  exact h.nowhereElse ⟨0⟩ (by decide) hfirst

end TypeGraph.Model
