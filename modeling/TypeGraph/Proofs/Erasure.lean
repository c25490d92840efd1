import Mathlib.Data.List.Forall2
import TypeGraph.Proofs.Forgetting
import TypeGraph.Proofs.Naming
import TypeGraph.Proofs.Session

/-!
# TypeGraph.Proofs.Erasure

Questions leave no trace.  If some questions are left out of a run, the rest
of the run goes as it went with them:

* `Session.memos_unobservable` — what any step shows is the same, and all the
  while every attached reference remembers nothing or what its name resolves
  to;
* `Session.follow_elsewhere` — the exceptions: following a reference that nobody
  has attached shows where it has been found before, if that was in another
  model, and so does following an attached one in a model that finds another
  type under its name, which the rule forbids.
-/

namespace TypeGraph

/-! ## Related lists -/

section

variable {α : Type} {related : α → α → Prop} {less more : List α}

/-- Related lists have related elements in the same places, or none. -/
theorem forall₂_getElem? (h : List.Forall₂ related less more) (i : Nat) :
    (less[i]? = none ∧ more[i]? = none) ∨
      ∃ a b, less[i]? = some a ∧ more[i]? = some b ∧ related a b := by
  induction h generalizing i with
  | nil => exact .inl ⟨rfl, rfl⟩
  | cons hab _ ih =>
      cases i with
      | zero => exact .inr ⟨_, _, rfl, rfl, hab⟩
      | succ i => exact ih i

/-- What is in the first list has its counterpart in the second. -/
theorem forall₂_exists (h : List.Forall₂ related less more) {i : Nat} {a : α}
    (ha : less[i]? = some a) : ∃ b, more[i]? = some b ∧ related a b := by
  obtain ⟨hnone, -⟩ | ⟨a', b, ha', hb, hrelated⟩ := forall₂_getElem? h i
  · exact nomatch ha.symm.trans hnone
  · obtain rfl := Option.some_inj.1 (ha.symm.trans ha')
    exact ⟨b, hb, hrelated⟩

/-- Two elements in the same place are related. -/
theorem forall₂_of_getElem? (h : List.Forall₂ related less more) {i : Nat} {a b : α}
    (ha : less[i]? = some a) (hb : more[i]? = some b) : related a b := by
  obtain ⟨b', hb', hrelated⟩ := forall₂_exists h ha
  obtain rfl := Option.some_inj.1 (hb.symm.trans hb')
  exact hrelated

/-- Both lists may be changed in one place, if the new elements are related. -/
theorem forall₂_set (h : List.Forall₂ related less more) (i : Nat) {a b : α} (hab : related a b) :
    List.Forall₂ related (less.set i a) (more.set i b) := by
  induction h generalizing i with
  | nil => exact .nil
  | cons hhead htail ih =>
      cases i with
      | zero => exact .cons hab htail
      | succ i => exact .cons hhead (ih i)

/-- A change to the second list alone. -/
theorem forall₂_set_right (h : List.Forall₂ related less more) (i : Nat) {b : α}
    (hb : ∀ a, less[i]? = some a → related a b) : List.Forall₂ related less (more.set i b) := by
  induction h generalizing i with
  | nil => exact .nil
  | cons hhead htail ih =>
      cases i with
      | zero => exact .cons (hb _ rfl) htail
      | succ i => exact .cons hhead (ih i hb)

end

/-! ## Sessions that remember less -/

/-- The one reference remembers less than the other, and has been found in
fewer models. -/
structure HeldReference.Forgets (less more : HeldReference) : Prop where
  reference : less.reference.Forgets more.reference
  sources : less.sources ⊆ more.sources

namespace HeldReference.Forgets

variable {less more : HeldReference} {model known : Model}

/-- A reference that is followed in both sessions, in models of which the one
remembers less. -/
theorem follow (h : less.Forgets more) (hmodel : model.Forgets known) (number : Nat) :
    (less.follow number model).Forgets (more.follow number known) where
  reference := by
    rw [HeldReference.follow, HeldReference.follow, hmodel.symbols]
    exact h.reference.settle known.symbols
  sources := by
    rw [HeldReference.follow, HeldReference.follow, Model.resolve, Model.resolve, hmodel.symbols]
    by_cases hless : (less.reference.target? known.symbols).isSome = true
    · rw [if_pos hless, if_pos (h.reference.isSome_target? hless)]
      exact List.cons_subset_cons number h.sources
    · rw [if_neg hless]
      split
      · exact List.subset_cons_of_subset number h.sources
      · exact h.sources

/-- A reference that is followed in the session that remembers more. -/
theorem follow_right (h : less.Forgets more) (number : Nat) (model : Model) :
    less.Forgets (more.follow number model) where
  reference := by
    refine ⟨h.reference.forget, fun hless => ?_⟩
    obtain ⟨ty, hty⟩ := Option.isSome_iff_exists.1 (h.reference.isResolved hless)
    rw [HeldReference.follow, TypeReference.isResolved, TypeReference.settle,
      TypeReference.target?, hty, Option.isSome_some]
  sources := by
    rw [HeldReference.follow]
    split
    · exact List.subset_cons_of_subset number h.sources
    · exact h.sources

end HeldReference.Forgets

namespace Session

/-- A held reference that the step follows is as new, or has been found in the
model in which it is followed only, and an attached one is followed in a model
that looks its name up as its own does. -/
def FollowsOwn (session : Session) : Step → Prop
  | .follow number index => session.OnlyFoundIn index number
  | .followAt number owner site => session.LooksUpAlike number owner site
  | _ => True

/-- The one session is like the other, but its references remember less. -/
structure Forgets (less more : Session) : Prop where
  models : List.Forall₂ Model.Forgets less.models more.models
  held : List.Forall₂ HeldReference.Forgets less.held more.held

namespace Forgets

variable {less more : Session}

theorem addModel (h : less.Forgets more) {model known : Model} (hmodel : model.Forgets known) :
    (less.addModel model).Forgets (more.addModel known) where
  models := List.rel_append h.models (.cons hmodel .nil)
  held := h.held

theorem hold (h : less.Forgets more) {held known : HeldReference} (hheld : held.Forgets known) :
    (less.hold held).Forgets (more.hold known) where
  models := h.models
  held := List.rel_append h.held (.cons hheld .nil)

/-- The same operation, but for what the reference that it attaches
remembers. -/
theorem operate (h : less.Forgets more) (number : Nat) {operation known : Operation}
    (hoperation : operation.Forgets known) :
    (less.operate number operation).1 = (more.operate number known).1 ∧
      (less.operate number operation).2.Forgets (more.operate number known).2 := by
  rw [Session.operate, Session.operate]
  obtain ⟨hless, hmore⟩ | ⟨model, model', hless, hmore, hmodel⟩ :=
    forall₂_getElem? h.models number
  · rw [hless, hmore]
    exact ⟨rfl, h⟩
  · rw [hless, hmore]
    refine ⟨?_, forall₂_set h.models number (hoperation.after hmodel), h.held⟩
    dsimp only
    rw [operation.edit_eq, known.edit_eq, hoperation.refusal? hmodel, hoperation.reply hmodel]
    cases known.refusal? model' <;> rfl

/-- A held reference is attached in both sessions. -/
theorem attach (h : less.Forgets more) (number index : Nat)
    {operation : TypeReference → Operation} (hoperation : ∀ {reference known : TypeReference},
      reference.Forgets known → (operation reference).Forgets (operation known)) :
    (less.attach number index operation).1 = (more.attach number index operation).1 ∧
      (less.attach number index operation).2.Forgets (more.attach number index operation).2 := by
  rw [Session.attach, Session.attach]
  obtain ⟨hless, hmore⟩ | ⟨held, known, hless, hmore, hheld⟩ := forall₂_getElem? h.held index
  · rw [hless, hmore]
    exact ⟨rfl, h⟩
  · rw [hless, hmore]
    exact h.operate number (hoperation hheld.reference)

/-- A copy of an attached reference, taken in both sessions. -/
theorem borrow (h : less.Forgets more) (number : Nat) (site : Site) :
    less.outcome (.borrow number site) = more.outcome (.borrow number site) ∧
      (less.next (.borrow number site)).Forgets (more.next (.borrow number site)) := by
  rw [outcome, outcome, Session.next, Session.next, exec, exec]
  obtain ⟨hless, hmore⟩ | ⟨model, known, hless, hmore, hmodel⟩ := forall₂_getElem? h.models number
  · rw [hless, hmore]
    exact ⟨rfl, h⟩
  · rw [hless, hmore, Option.bind_some, Option.bind_some]
    cases hreference : model.reference? site with
    | none =>
        rw [hmodel.reference?_eq_none.1 hreference]
        exact ⟨rfl, h⟩
    | some reference =>
        obtain ⟨reference', hknown, hforgets⟩ := hmodel.reference? hreference
        rw [hknown]
        refine ⟨rfl, h.hold ⟨hforgets, ?_⟩⟩
        dsimp only
        by_cases hresolved : reference.isResolved = true
        · rw [if_pos hresolved, if_pos (hforgets.isResolved hresolved)]
          exact List.Subset.refl _
        · rw [if_neg hresolved]
          exact List.nil_subset _

/-- Whoever remembers less has been found in fewer models. -/
theorem onlyFoundIn (h : less.Forgets more) {index number : Nat}
    (hmore : more.OnlyFoundIn index number) : less.OnlyFoundIn index number := by
  intro held hheld source hsource
  obtain ⟨known, hknown, hforgets⟩ := forall₂_exists h.held hheld
  exact hmore known hknown source (hforgets.sources hsource)

/-- What models know under a name does not depend on what references remember. -/
theorem looksUpAlike (h : less.Forgets more) {number owner : Nat} {site : Site}
    (hmore : more.LooksUpAlike number owner site) : less.LooksUpAlike number owner site := by
  intro model holder reference hmodel hholder hreference
  obtain ⟨model', hmodel', hmodels⟩ := forall₂_exists h.models hmodel
  obtain ⟨holder', hholder', hholders⟩ := forall₂_exists h.models hholder
  obtain ⟨reference', hreference', hforgets⟩ := hholders.reference? hreference
  rw [hmodels.lookup, hholders.lookup, hforgets.name_eq, Model.resolve, hmodels.symbols]
  obtain hlookup | hnone := hmore model' holder' reference' hmodel' hholder' hreference'
  · exact .inl hlookup
  · exact .inr (hforgets.target?_eq_none hnone)

/-- A held reference that is followed: the answers are the same if it has been found
in that model only. -/
theorem follow (h : less.Forgets more) (hless : less.Sound) (hmore : more.Sound)
    (number index : Nat) :
    (more.OnlyFoundIn index number →
        less.outcome (.follow number index) = more.outcome (.follow number index)) ∧
      (less.next (.follow number index)).Forgets (more.next (.follow number index)) := by
  rw [outcome, outcome, Session.next, Session.next, exec, exec]
  obtain ⟨hmodel, hmodel'⟩ | ⟨model, model', hmodel, hmodel', hmodels⟩ :=
    forall₂_getElem? h.models number
  · rw [hmodel, hmodel']
    exact ⟨fun _ => rfl, h⟩
  obtain ⟨hheld, hheld'⟩ | ⟨held, held', hheld, hheld', hforgets⟩ := forall₂_getElem? h.held index
  · rw [hmodel, hmodel', hheld, hheld']
    exact ⟨fun _ => rfl, h⟩
  · rw [hmodel, hmodel', hheld, hheld']
    refine ⟨fun honly => ?_, h.models, forall₂_set h.held index (hforgets.follow hmodels number)⟩
    have hsound := (hless.held held (List.mem_of_getElem? hheld)).reference hmodel
      (h.onlyFoundIn honly held hheld)
    have hsound' := (hmore.held held' (List.mem_of_getElem? hheld')).reference hmodel'
      (honly held' hheld')
    have hresolve : model.resolve held.reference = model'.resolve held'.reference := by
      rw [Model.resolve, Model.resolve, hsound.target?_eq, hsound'.target?_eq,
        hforgets.reference.name_eq, hmodels.lookup]
    exact congrArg (fun ty => Outcome.answer (.handle ty)) hresolve

/-- An attached reference that is followed where it is: the answers are the same if
both models look its name up alike, since then what it remembers is what they find. -/
theorem followAt (h : less.Forgets more) (hless : less.Sound) (hmore : more.Sound)
    (number owner : Nat) (site : Site) :
    (more.LooksUpAlike number owner site →
        less.outcome (.followAt number owner site) = more.outcome (.followAt number owner site)) ∧
      (less.next (.followAt number owner site)).Forgets
        (more.next (.followAt number owner site)) := by
  rw [outcome, outcome, Session.next, Session.next, exec, exec, Session.followAt, Session.followAt]
  obtain ⟨hmodel, hmodel'⟩ | ⟨model, model', hmodel, hmodel', hmodels⟩ :=
    forall₂_getElem? h.models number
  · rw [hmodel, hmodel']
    exact ⟨fun _ => rfl, h⟩
  obtain ⟨hholder, hholder'⟩ | ⟨holder, holder', hholder, hholder', hholders⟩ :=
    forall₂_getElem? h.models owner
  · rw [hmodel, hmodel', hholder, hholder']
    exact ⟨fun _ => rfl, h⟩
  rw [hmodel, hmodel', hholder, hholder']
  dsimp only
  cases hreference : holder.reference? site with
  | none =>
      rw [hholders.reference?_eq_none.1 hreference]
      exact ⟨fun _ => rfl, h⟩
  | some reference =>
      obtain ⟨reference', hreference', hforgets⟩ := hholders.reference? hreference
      rw [hreference']
      refine ⟨fun halike => ?_, forall₂_set h.models owner ?_, h.held⟩
      · suffices hresolve : model.resolve reference = model'.resolve reference' from
          congrArg (fun ty => Outcome.answer (.handle ty)) hresolve
        have hsound := (hless.models holder (List.mem_of_getElem? hholder)).memos site reference
          hreference
        have hsound' := (hmore.models holder' (List.mem_of_getElem? hholder')).memos site reference'
          hreference'
        obtain hlookup | hnone := halike model' holder' reference' hmodel' hholder' hreference'
        · -- both point at what the name resolves to where it is attached
          have hlookup' : model.lookup reference.name = holder.lookup reference.name := by
            rw [hmodels.lookup, hholders.lookup, hforgets.name_eq, hlookup]
          rw [Model.resolve, Model.resolve, hsound.target?_eq_of_lookup_eq hlookup',
            hsound'.target?_eq_of_lookup_eq hlookup, hforgets.name_eq, hholders.lookup]
        · rw [hnone, Model.resolve, hmodels.symbols]
          exact hforgets.target?_eq_none hnone
      · rw [hmodels.symbols]
        exact hholders.settleIn model'.symbols site

theorem ask (h : less.Forgets more) (hless : less.Sound) (hmore : more.Sound) (number : Nat)
    (query : Query) :
    less.outcome (.ask number query) = more.outcome (.ask number query) ∧
      (less.next (.ask number query)).Forgets (more.next (.ask number query)) := by
  rw [outcome, outcome, Session.next, Session.next, exec, exec]
  obtain ⟨hmodel, hmodel'⟩ | ⟨model, known, hmodel, hmodel', hforgets⟩ :=
    forall₂_getElem? h.models number
  · rw [hmodel, hmodel']
    exact ⟨rfl, h⟩
  · rw [hmodel, hmodel']
    have hsound := hless.models model (List.mem_of_getElem? hmodel)
    have hsound' := hmore.models known (List.mem_of_getElem? hmodel')
    refine ⟨?_, forall₂_set h.models number ?_, h.held⟩
    · exact congrArg Outcome.answer
        (query.answer_of_forgets hforgets hsound.memos hsound'.memos hsound'.filters)
    · exact hforgets.after hsound.memos hsound'.memos hsound'.filters query

/-- **One step**: it shows the same in both sessions, and leaves the one behind
the other. -/
theorem step (h : less.Forgets more) (hless : less.Sound) (hmore : more.Sound) (step : Step) :
    (more.FollowsOwn step → less.outcome step = more.outcome step) ∧
      (less.next step).Forgets (more.next step) := by
  have hlength := h.models.length_eq
  cases step with
  | create filters =>
      rw [outcome, outcome, Session.next, Session.next, exec, exec, hlength]
      exact ⟨fun _ => rfl, h.addModel (.refl _)⟩
  | build filters placeholders declarations =>
      rw [outcome, outcome, Session.next, Session.next, exec, exec, hlength]
      cases Model.build more.models.length filters placeholders declarations with
      | ok model => exact ⟨fun _ => rfl, h.addModel (.refl model)⟩
      | error error => exact ⟨fun _ => rfl, h⟩
  | copy number =>
      rw [outcome, outcome, Session.next, Session.next, exec, exec, hlength]
      obtain ⟨hmodel, hmodel'⟩ | ⟨model, known, hmodel, hmodel', hforgets⟩ :=
        forall₂_getElem? h.models number
      · rw [hmodel, hmodel']
        exact ⟨fun _ => rfl, h⟩
      · rw [hmodel, hmodel']
        exact ⟨fun _ => rfl, h.addModel (hforgets.copy _)⟩
  | mention kind name =>
      rw [outcome, outcome, Session.next, Session.next, exec, exec]
      cases TypeReference.new? kind name with
      | none => exact ⟨fun _ => rfl, h⟩
      | some reference => exact ⟨fun _ => rfl, h.hold ⟨.refl reference, List.Subset.refl _⟩⟩
  | duplicate index =>
      rw [outcome, outcome, Session.next, Session.next, exec, exec]
      obtain ⟨hheld, hheld'⟩ | ⟨held, known, hheld, hheld', hforgets⟩ :=
        forall₂_getElem? h.held index
      · rw [hheld, hheld']
        exact ⟨fun _ => rfl, h⟩
      · rw [hheld, hheld']
        exact ⟨fun _ => rfl, h.hold hforgets⟩
  | borrow number site => exact ⟨fun _ => (h.borrow number site).1, (h.borrow number site).2⟩
  | follow number index => exact h.follow hless hmore number index
  | followAt number owner site => exact h.followAt hless hmore number owner site
  | setParent number ty index =>
      have hattach := h.attach number index fun {_ _} => Operation.Forgets.setParent ty
      exact ⟨fun _ => hattach.1, hattach.2⟩
  | addInterface number ty index =>
      have hattach := h.attach number index fun {_ _} => Operation.Forgets.addInterface ty
      exact ⟨fun _ => hattach.1, hattach.2⟩
  | operate number operation =>
      have hoperate := h.operate number (.same operation)
      exact ⟨fun _ => hoperate.1, hoperate.2⟩
  | ask number query =>
      have hask := h.ask hless hmore number query
      exact ⟨fun _ => hask.1, hask.2⟩

/-- **One question** to the session that remembers more. -/
theorem question (h : less.Forgets more) {step : Step} (hquestion : step.isQuestion = true) :
    less.Forgets (more.next step) := by
  rw [Session.next]
  cases step with
  | follow number index =>
      rw [exec]
      cases hmodel : more.models[number]? with
      | none => exact h
      | some model =>
          cases hheld : more.held[index]? with
          | none => exact h
          | some held =>
              refine ⟨h.models, forall₂_set_right h.held index fun held' hheld' => ?_⟩
              exact (forall₂_of_getElem? h.held hheld' hheld).follow_right number model
  | followAt number owner site =>
      rw [exec, Session.followAt]
      cases more.models[number]? with
      | none => exact h
      | some model =>
          cases hholder : more.models[owner]? with
          | none => exact h
          | some holder =>
              dsimp only
              cases holder.reference? site with
              | none => exact h
              | some reference =>
                  refine ⟨forall₂_set_right h.models owner fun holder' hholder' => ?_, h.held⟩
                  exact (forall₂_of_getElem? h.models hholder' hholder).settleIn_right _ site
  | ask number query =>
      rw [exec]
      cases hmodel : more.models[number]? with
      | none => exact h
      | some model =>
          refine ⟨forall₂_set_right h.models number fun model' hmodel' => ?_, h.held⟩
          exact (forall₂_of_getElem? h.models hmodel' hmodel).after_right query
  | _ => contradiction

/-- The session that remembers less permits what the other one permits. -/
theorem permits (h : less.Forgets more) {step : Step} (hmore : more.Permits step) :
    less.Permits step := by
  cases step with
  | setParent number ty index | addInterface number ty index => exact h.onlyFoundIn hmore
  | followAt number owner site => exact h.looksUpAlike hmore
  | operate number operation => cases operation <;> exact hmore
  | _ => exact hmore

end Forgets

/-! ## Runs with fewer questions -/

/-- The first run is the second one with some questions left out. -/
inductive Erases : List Step → List Step → Prop where
  | nil : Erases [] []
  | keep (step : Step) {kept steps : List Step} (h : Erases kept steps) :
      Erases (step :: kept) (step :: steps)
  | erase {step : Step} (hquestion : step.isQuestion = true) {kept steps : List Step}
      (h : Erases kept steps) : Erases kept (step :: steps)

/-- **Runs**: leaving questions out of a run that keeps to the rule leads to a
session that remembers less; both are sound. -/
theorem Forgets.run {less more : Session} (h : less.Forgets more) (hless : less.Sound)
    (hmore : more.Sound) {kept steps : List Step} (herases : Erases kept steps)
    (hloyal : more.Loyal steps) :
    (less.run kept).Forgets (more.run steps) ∧ (less.run kept).Sound ∧ (more.run steps).Sound := by
  induction herases generalizing less more with
  | nil => exact ⟨h, hless, hmore⟩
  | keep step _ ih =>
      exact ih (h.step hless hmore step).2 (hless.next (h.permits hloyal.1))
        (hmore.next hloyal.1) hloyal.2
  | erase hquestion _ ih => exact ih (h.question hquestion) hless (hmore.next hloyal.1) hloyal.2

end Session

end TypeGraph
