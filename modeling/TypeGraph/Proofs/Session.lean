import TypeGraph.Proofs.Memo

/-!
# TypeGraph.Proofs.Session

A caller at work: several models side by side, the references that the caller
holds, and one step after another.

1. `Session.exec` says what a step does and what the caller gets to see;
2. `Session.Loyal` is the rule for references: one that is attached has been
   found by nobody, or only in the model that it is attached to, and from then on
   no model follows it where it is that would look its name up otherwise;
3. `Session.Sound.next` — under that rule the memos of all models stay sound.
-/

namespace TypeGraph

/-- A reference that a caller holds. -/
structure HeldReference where
  reference : TypeReference
  /-- The models in which following the reference has found a type. -/
  sources : List Nat

/-- The models that a caller has made and the references that the caller
holds, both by number in the order of creation. -/
structure Session where
  models : List Model
  held : List HeldReference

/-- A step of a caller.  Attaching takes a copy of a held reference. -/
inductive Step where
  | create (filters : Filters)
  | build (filters : Filters) (placeholders : Bool) (declarations : Declarations)
  | copy (model : Nat)
  /-- A new reference. -/
  | mention (kind : TypeKind) (name : String)
  /-- A copy of a held reference. -/
  | duplicate (held : Nat)
  /-- A copy of an attached reference. -/
  | borrow (model : Nat) (site : Site)
  /-- Follows a held reference in a model. -/
  | follow (model held : Nat)
  /-- Follows a reference in the first model that is attached in the second one,
  and leaves it there. -/
  | followAt (model owner : Nat) (site : Site)
  | setParent (model : Nat) (ty : TypeId) (held : Nat)
  | addInterface (model : Nat) (ty : TypeId) (held : Nat)
  | operate (model : Nat) (operation : Operation)
  | ask (model : Nat) (query : Query)

/-- Whether a step only asks for something. -/
def Step.isQuestion : Step → Bool
  | .follow _ _ | .followAt _ _ _ | .ask _ _ => true
  | _ => false

/-- What a caller gets to see of a step. -/
inductive Outcome where
  | done
  /-- There is no such model, reference or site. -/
  | absent
  | refused (error : ModelError)
  | reply (handle : Option Handle)
  | answer (answer : Answer)
  deriving DecidableEq, Repr

/-- The held reference once it has been followed in a model. -/
def HeldReference.follow (held : HeldReference) (number : Nat) (model : Model) : HeldReference where
  reference := held.reference.settle model.symbols
  sources := if (model.resolve held.reference).isSome then number :: held.sources else held.sources

namespace Session

/-- Nothing has been done yet. -/
def empty : Session := ⟨[], []⟩

/-- The session with one more model. -/
def addModel (session : Session) (model : Model) : Session :=
  { session with models := session.models ++ [model] }

/-- The session with one more held reference. -/
def hold (session : Session) (held : HeldReference) : Session :=
  { session with held := session.held ++ [held] }

/-- Carries out an operation on a model. -/
def operate (session : Session) (number : Nat) (operation : Operation) : Outcome × Session :=
  match session.models[number]? with
  | none => (.absent, session)
  | some model =>
    (match operation.edit model with
      | .ok reply _ => .reply reply
      | .error error _ => .refused error,
      { session with models := session.models.set number (operation.after model) })

/-- Carries out an operation with a held reference on a model. -/
def attach (session : Session) (number index : Nat) (operation : TypeReference → Operation) :
    Outcome × Session :=
  match session.held[index]? with
  | none => (.absent, session)
  | some held => session.operate number (operation held.reference)

/-- Follows a reference in one model that is attached in another one. -/
def followAt (session : Session) (number owner : Nat) (site : Site) : Outcome × Session :=
  match session.models[number]?, session.models[owner]? with
  | some model, some holder =>
    match holder.reference? site with
    | none => (.absent, session)
    | some reference =>
      (.answer (.handle (model.resolve reference)),
        { session with models := session.models.set owner (holder.settleIn model.symbols site) })
  | _, _ => (.absent, session)

/-- What a step shows, and the session after it. -/
def exec (session : Session) : Step → Outcome × Session
  | .create filters => (.done, session.addModel (.empty session.models.length filters))
  | .build filters placeholders declarations =>
    match Model.build session.models.length filters placeholders declarations with
    | .ok model => (.done, session.addModel model)
    | .error error => (.refused error, session)
  | .copy number =>
    match session.models[number]? with
    | none => (.absent, session)
    | some model => (.done, session.addModel (model.copy session.models.length))
  | .mention kind name =>
    match TypeReference.new? kind name with
    | none => (.refused (.blankName kind), session)
    | some reference => (.done, session.hold ⟨reference, []⟩)
  | .duplicate index =>
    match session.held[index]? with
    | none => (.absent, session)
    | some held => (.done, session.hold held)
  | .borrow number site =>
    match (session.models[number]?).bind (·.reference? site) with
    | none => (.absent, session)
    | some reference =>
      (.done, session.hold ⟨reference, if reference.isResolved then [number] else []⟩)
  | .follow number index =>
    match session.models[number]?, session.held[index]? with
    | some model, some held =>
      (.answer (.handle (model.resolve held.reference)),
        { session with held := session.held.set index (held.follow number model) })
    | _, _ => (.absent, session)
  | .followAt number owner site => session.followAt number owner site
  | .setParent number ty index => session.attach number index (.setParent ty)
  | .addInterface number ty index => session.attach number index (.addInterface ty)
  | .operate number operation => session.operate number operation
  | .ask number query =>
    match session.models[number]? with
    | none => (.absent, session)
    | some model =>
      (.answer (query.answer model),
        { session with models := session.models.set number (model.after query) })

/-- What a step shows. -/
def outcome (session : Session) (step : Step) : Outcome := (session.exec step).1

/-- The session after a step. -/
def next (session : Session) (step : Step) : Session := (session.exec step).2

/-- The session after some steps in turn. -/
def run (session : Session) (steps : List Step) : Session := steps.foldl next session

/-! ## The rule for references -/

/-- A held reference is as new, or has been found in one model only. -/
def OnlyFoundIn (session : Session) (index number : Nat) : Prop :=
  ∀ held, session.held[index]? = some held → ∀ source ∈ held.sources, source = number

/-- The first model looks the name of an attached reference up as the model does
that it is attached in, for example because it is the same one, or it does not
find it. -/
def LooksUpAlike (session : Session) (number owner : Nat) (site : Site) : Prop :=
  ∀ model holder reference, session.models[number]? = some model →
    session.models[owner]? = some holder → holder.reference? site = some reference →
      model.lookup reference.name = holder.lookup reference.name ∨ model.resolve reference = none

/-- The step attaches no reference that has been found in another model, follows
none where it is attached that another model finds elsewhere, and sets no impure
filters. -/
def Permits (session : Session) : Step → Prop
  | .create filters | .build filters _ _ => filters.Pure
  | .followAt number owner site => session.LooksUpAlike number owner site
  | .setParent number _ index | .addInterface number _ index => session.OnlyFoundIn index number
  | .operate _ (.setFilters filters) => filters.Pure
  | .operate _ operation => operation.Fresh
  | _ => True

/-- Every step of a run keeps to the rule. -/
def Loyal (session : Session) : List Step → Prop
  | [] => True
  | step :: steps => session.Permits step ∧ (session.next step).Loyal steps

end Session

/-! ## What stays known -/

/-- The models are still there, and what they resolve they resolve as before. -/
def Grows (before after : List Model) : Prop :=
  ∀ (number : Nat) (model : Model), before[number]? = some model →
    ∃ grown, after[number]? = some grown ∧
      ∀ name ty, model.lookup name = some ty → grown.lookup name = some ty

namespace Grows

variable {models : List Model}

/-- Another model takes no name away from one that was there. -/
theorem append (models : List Model) (model : Model) : Grows models (models ++ [model]) := by
  intro number old hold
  refine ⟨old, ?_, fun _ _ h => h⟩
  rw [List.getElem?_append_left (List.getElem?_eq_some_iff.1 hold).1]
  exact hold

theorem set {number : Nat} {model grown : Model} (hmodel : models[number]? = some model)
    (hgrown : ∀ name ty, model.lookup name = some ty → grown.lookup name = some ty) :
    Grows models (models.set number grown) := by
  intro other old hold
  by_cases h : number = other
  · subst h
    obtain rfl : model = old := Option.some_inj.1 (hmodel.symm.trans hold)
    refine ⟨grown, ?_, hgrown⟩
    rw [List.getElem?_set_self (List.getElem?_eq_some_iff.1 hold).1]
  · exact ⟨old, by rwa [List.getElem?_set_ne h], fun _ _ h => h⟩

end Grows

/-! ## Sound sessions -/

/-- What a held reference remembers, its name resolves to in one of the models
in which it has been found. -/
def HeldReference.SoundIn (held : HeldReference) (models : List Model) : Prop :=
  ∀ ty, held.reference.memo = some ty →
    ∃ number ∈ held.sources, ∃ model, models[number]? = some model ∧
      model.lookup held.reference.name = some ty

namespace HeldReference.SoundIn

variable {held : HeldReference} {models : List Model}

/-- A held reference stays sound while the models only learn names. -/
theorem mono (h : held.SoundIn models) {after : List Model} (hgrows : Grows models after) :
    held.SoundIn after := by
  intro ty hty
  obtain ⟨number, hnumber, model, hmodel, hlookup⟩ := h ty hty
  obtain ⟨grown, hgrown, hkeeps⟩ := hgrows number model hmodel
  exact ⟨number, hnumber, grown, hgrown, hkeeps _ ty hlookup⟩

/-- A reference that has been found in one model only is sound there. -/
theorem reference (h : held.SoundIn models) {number : Nat} {model : Model}
    (hmodel : models[number]? = some model) (honly : ∀ source ∈ held.sources, source = number) :
    held.reference.SoundIn model := by
  cases hmemo : held.reference.memo with
  | none => exact .inl hmemo
  | some ty =>
      obtain ⟨source, hsource, found, hfound, hlookup⟩ := h ty hmemo
      rw [honly source hsource, hmodel, Option.some_inj] at hfound
      exact .inr (by rw [hmemo, hfound, hlookup])

/-- Following a held reference in one more model keeps it sound. -/
theorem follow (h : held.SoundIn models) {number : Nat} {model : Model}
    (hmodel : models[number]? = some model) : (held.follow number model).SoundIn models := by
  intro ty hty
  have htarget : model.resolve held.reference = some ty := hty
  have hsources : (held.follow number model).sources = number :: held.sources := by
    rw [HeldReference.follow, htarget, Option.isSome_some, if_pos rfl]
  rw [hsources]
  cases hmemo : held.reference.memo with
  | none =>
      rw [Model.resolve, TypeReference.target?, hmemo] at htarget
      exact ⟨number, List.mem_cons_self, model, hmodel, htarget⟩
  | some found =>
      rw [Model.resolve, TypeReference.target?, hmemo] at htarget
      obtain ⟨source, hsource, rest⟩ := h found hmemo
      obtain rfl := Option.some_inj.1 htarget
      exact ⟨source, List.mem_cons_of_mem number hsource, rest⟩

end HeldReference.SoundIn

namespace Session

/-- Every model is sound, and so is every held reference. -/
structure Sound (session : Session) : Prop where
  models : ∀ model ∈ session.models, model.Sound
  held : ∀ held ∈ session.held, held.SoundIn session.models

namespace Sound

variable {session : Session}

theorem empty : Session.empty.Sound where
  models := fun _ h => absurd h List.not_mem_nil
  held := fun _ h => absurd h List.not_mem_nil

theorem addModel (h : session.Sound) {model : Model} (hmodel : model.Sound) :
    (session.addModel model).Sound where
  models other hother := by
    obtain hother | hother := List.mem_append.1 hother
    · exact h.models other hother
    · exact List.mem_singleton.1 hother ▸ hmodel
  held held hheld := (h.held held hheld).mono (.append session.models model)

theorem hold (h : session.Sound) {held : HeldReference} (hheld : held.SoundIn session.models) :
    (session.hold held).Sound where
  models := h.models
  held other hother := by
    obtain hother | hother := List.mem_append.1 hother
    · exact h.held other hother
    · exact List.mem_singleton.1 hother ▸ hheld

/-- A model may be replaced by one that is sound and has forgotten no name. -/
theorem setModel (h : session.Sound) {number : Nat} {model after : Model}
    (hmodel : session.models[number]? = some model) (hafter : after.Sound)
    (hlookup : ∀ name ty, model.lookup name = some ty → after.lookup name = some ty) :
    Sound { session with models := session.models.set number after } where
  models other hother := by
    obtain hother | rfl := List.mem_or_eq_of_mem_set hother
    · exact h.models other hother
    · exact hafter
  held held hheld := (h.held held hheld).mono (.set hmodel hlookup)

/-- A harmless operation keeps the session sound. -/
theorem operate (h : session.Sound) {number : Nat} {operation : Operation}
    (hoperation : ∀ model, session.models[number]? = some model → operation.Harmless model) :
    (session.operate number operation).2.Sound := by
  rw [Session.operate]
  cases hmodel : session.models[number]? with
  | none => exact h
  | some model =>
      have hsound := h.models model (List.mem_of_getElem? hmodel)
      exact h.setModel hmodel (hsound.after (hoperation model hmodel)) fun _ _ =>
        operation.lookup_after model

/-- Attaching a held reference keeps it sound if only this model has found a type for
it. -/
theorem attach (h : session.Sound) {number index : Nat} {operation : TypeReference → Operation}
    (hoperation : ∀ reference model, TypeReference.SoundIn reference model →
      (operation reference).Harmless model) (honly : session.OnlyFoundIn index number) :
    (session.attach number index operation).2.Sound := by
  rw [Session.attach]
  cases hheld : session.held[index]? with
  | none => exact h
  | some held =>
      refine h.operate fun model hmodel => hoperation held.reference model ?_
      exact (h.held held (List.mem_of_getElem? hheld)).reference hmodel (honly held hheld)

/-- A borrowed reference remembers at most what its model remembers. -/
theorem borrow (h : session.Sound) {number : Nat} {site : Site} {reference : TypeReference}
    (hreference : (session.models[number]?).bind (·.reference? site) = some reference) :
    (session.hold ⟨reference, if reference.isResolved then [number] else []⟩).Sound := by
  refine h.hold fun ty hty => ?_
  obtain ⟨model, hmodel, hsite⟩ := Option.bind_eq_some_iff.1 hreference
  have hresolved : reference.isResolved = true := Option.isSome_of_eq_some hty
  have hsound := (h.models model (List.mem_of_getElem? hmodel)).memos site reference hsite
  refine ⟨number, by simp [hresolved], model, hmodel, ?_⟩
  obtain hnone | hmemo := hsound
  · exact nomatch hty.symm.trans hnone
  · exact hmemo.symm.trans hty

/-- Following a held reference keeps the session sound. -/
theorem follow (h : session.Sound) {number index : Nat} {model : Model} {held : HeldReference}
    (hmodel : session.models[number]? = some model) (hheld : session.held[index]? = some held) :
    Sound { session with held := session.held.set index (held.follow number model) } where
  models := h.models
  held other hother := by
    obtain hother | rfl := List.mem_or_eq_of_mem_set hother
    · exact h.held other hother
    · exact (h.held held (List.mem_of_getElem? hheld)).follow hmodel

/-- Following an attached reference from elsewhere keeps it sound if both look alike. -/
theorem followAt (h : session.Sound) {number owner : Nat} {site : Site}
    (halike : session.LooksUpAlike number owner site) :
    (session.followAt number owner site).2.Sound := by
  rw [Session.followAt]
  cases hmodel : session.models[number]? with
  | none => exact h
  | some model =>
      cases hholder : session.models[owner]? with
      | none => exact h
      | some holder =>
          cases hreference : holder.reference? site with
          | none =>
              dsimp only
              rw [hreference]
              exact h
          | some reference =>
              dsimp only
              rw [hreference]
              have hsound := h.models holder (List.mem_of_getElem? hholder)
              have hagrees : holder.AgreesAt model.symbols site := by
                intro other hother
                obtain hlookup | hnone := halike model holder other hmodel hholder hother
                · exact .inr hlookup
                · exact .inl (TypeReference.target?_eq_none.1 hnone).2
              refine h.setModel hholder (hsound.settleIn hagrees) fun name ty hlookup => ?_
              rw [Model.lookup_settleIn]
              exact hlookup

/-- **Soundness**: a step that keeps to the rule leaves every memo sound. -/
theorem next (h : session.Sound) {step : Step} (hstep : session.Permits step) :
    (session.next step).Sound := by
  rw [Session.next]
  cases step with
  | create filters => exact h.addModel ⟨.empty _ filters, hstep⟩
  | build filters placeholders declarations =>
      rw [exec]
      cases hbuild : Model.build session.models.length filters placeholders declarations with
      | ok model => exact h.addModel (.build hstep hbuild)
      | error error => exact h
  | copy number =>
      rw [exec]
      cases hmodel : session.models[number]? with
      | none => exact h
      | some model =>
          have hsound := h.models model (List.mem_of_getElem? hmodel)
          exact h.addModel ⟨hsound.memos.copy _, hsound.filters⟩
  | mention kind name =>
      rw [exec, TypeReference.new?]
      by_cases hblank : isBlankName name = true
      · rw [if_pos hblank]
        exact h
      · rw [if_neg hblank]
        exact h.hold fun ty hty => (Option.some_ne_none ty hty.symm).elim
  | duplicate index =>
      rw [exec]
      cases hheld : session.held[index]? with
      | none => exact h
      | some held => exact h.hold (h.held held (List.mem_of_getElem? hheld))
  | borrow number site =>
      rw [exec]
      cases hreference : (session.models[number]?).bind (·.reference? site) with
      | none => exact h
      | some reference => exact h.borrow hreference
  | follow number index =>
      rw [exec]
      cases hmodel : session.models[number]? with
      | none => exact h
      | some model =>
          cases hheld : session.held[index]? with
          | none => exact h
          | some held => exact h.follow hmodel hheld
  | followAt number owner site => exact h.followAt hstep
  | setParent number ty index => exact h.attach (fun _ _ => .setParent ty) hstep
  | addInterface number ty index => exact h.attach (fun _ _ => .addInterface ty) hstep
  | operate number operation =>
      refine h.operate fun model _ => ?_
      cases operation with
      | setFilters filters => exact .setFilters hstep
      | _ => exact Operation.Fresh.harmless hstep
  | ask number query =>
      rw [exec]
      cases hmodel : session.models[number]? with
      | none => exact h
      | some model =>
          have hsound := h.models model (List.mem_of_getElem? hmodel)
          refine h.setModel hmodel (hsound.ask query) fun name ty hlookup => ?_
          rw [Model.after, Model.lookup_settle]
          exact hlookup

end Sound

end Session

end TypeGraph
