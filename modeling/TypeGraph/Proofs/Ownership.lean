import Mathlib.Data.Option.Basic
import TypeGraph.Proofs.Holdings
import TypeGraph.Proofs.Ledger

/-!
# TypeGraph.Proofs.Ownership

Owners and lists stay in step.  Every member operation is a transfer, which a
ledger can record, and the model never says anything but what the ledger says:

1. `Model.transfers` — the transfers that a history makes; an operation that is
   refused makes none;
2. `Ledger.Describes` — owners and lists of a model say what a ledger says;
3. `Model.ownership_refines` — after any events the model is described by the
   ledger in which their transfers have been recorded.
-/

namespace TypeGraph

/-! ## The transfers of a history -/

/-- The transfer that an operation asks for. -/
def Operation.transfer? : Operation → Option Transfer
  | .addMember owner member | .addMemberOfKind _ owner member => some (.give owner member)
  | .removeMember owner member | .removeMemberOfKind _ owner member => some (.take owner member)
  | _ => none

/-- The transfer that an event makes.  A refused operation makes none. -/
def Event.transfer? (model : Model) : Event → Option Transfer
  | .operate operation =>
    match operation.edit model with
    | .ok _ _ => operation.transfer?
    | .error _ _ => none
  | .ask _ | .copy _ | .resolve _ _ => none

/-- An operation that is carried out makes the transfer that it asks for. -/
theorem Event.transfer?_operate (model : Model) (operation : Operation) :
    (Event.operate operation).transfer? model =
      if (operation.refusal? model).isSome then none else operation.transfer? := by
  rw [Event.transfer?, operation.edit_eq]
  cases operation.refusal? model <;> rfl

/-- The transfers that events make, from a model on. -/
def Model.transfers (model : Model) : List Event → List Transfer
  | [] => []
  | event :: events => (event.transfer? model).toList ++ (event.after model).transfers events

/-- What an operation does to members and their holders: it adds a member that
nobody holds, it makes a transfer, or it leaves all of them alone. -/
theorem Operation.holding_cases (model : Model) (operation : Operation) :
    (∃ kind name modifiers value, operation.transfer? = none ∧
      operation.effect model = (model.addUnowned kind name modifiers value).2) ∨
    (∃ owner member, operation.transfer? = some (.give owner member) ∧
      operation.effect model = model.giveMember owner member) ∨
    (∃ owner member, operation.transfer? = some (.take owner member) ∧
      operation.effect model = model.takeMember owner member) ∨
    operation.transfer? = none ∧ model.KeepsHoldings (operation.effect model) := by
  cases operation with
  | newMethod name modifiers => exact .inl ⟨.method, name, modifiers, none, rfl, rfl⟩
  | newConstant name value => exact .inl ⟨.constant, name, .none, value, rfl, rfl⟩
  | addMember owner member | addMemberOfKind kind owner member =>
      exact .inr (.inl ⟨owner, member, rfl, rfl⟩)
  | removeMember owner member | removeMemberOfKind kind owner member =>
      exact .inr (.inr (.inl ⟨owner, member, rfl, rfl⟩))
  | addType kind name => exact .inr (.inr (.inr ⟨rfl, .addType model kind name⟩))
  | addPackage name => exact .inr (.inr (.inr ⟨rfl, .addPackage model name⟩))
  | setParent ty | addInterface ty | setPackage ty | setUserDefined ty | setModifiers ty
  | setSourceFile ty =>
      exact .inr (.inr (.inr ⟨rfl, .of_view rfl (.modifyType model ty fun _ => rfl)⟩))
  | addTypeToPackage package ty => exact .inr (.inr (.inr ⟨rfl, .moveType model package ty⟩))
  | removeTypeFromPackage package ty =>
      exact .inr (.inr (.inr ⟨rfl, .of_view rfl (.unlistType (fun _ _ => rfl) model package ty)⟩))
  | addFunctionToPackage package function =>
      exact .inr (.inr (.inr ⟨rfl, .moveFunction model package function⟩))
  | addFunction | removeFunctionFromPackage | rebuildIndex | setFilters =>
      exact .inr (.inr (.inr ⟨rfl, .of_types_eq rfl rfl⟩))

/-- An operation that is not refused has found what it is about. -/
theorem Operation.found_of_transfer {model : Model} {operation : Operation} {transfer : Transfer}
    (htransfer : operation.transfer? = some transfer) (h : operation.refusal? model = none) :
    (model.type? transfer.owner).isSome ∧ (model.member? transfer.member).isSome := by
  cases operation with
  | addMember owner member =>
      obtain rfl := Option.some_inj.1 htransfer
      obtain ⟨howner, hmember⟩ := (Option.orElse_eq_none _ _).1 h
      exact ⟨Model.isSome_of_refuseForeign howner, Model.isSome_of_refuseForeign hmember⟩
  | removeMember owner member =>
      obtain rfl := Option.some_inj.1 htransfer
      obtain ⟨hmember, howner⟩ := (Option.orElse_eq_none _ _).1 h
      exact ⟨Model.isSome_of_refuseForeign howner, Model.isSome_of_refuseForeign hmember⟩
  | addMemberOfKind kind owner member | removeMemberOfKind kind owner member =>
      obtain rfl := Option.some_inj.1 htransfer
      obtain ⟨hmember, hrest⟩ := (Option.orElse_eq_none _ _).1 h
      obtain ⟨-, howner⟩ := (Option.orElse_eq_none _ _).1 hrest
      exact ⟨Model.isSome_of_refuseForeign howner, Model.isSome_of_refuseForeign hmember⟩
  | _ => contradiction

/-- What an operation that is not refused does to members and their holders, with
what it has found. -/
theorem Operation.carried_cases {model : Model} {operation : Operation}
    (hrefusal : operation.refusal? model = none) :
    (∃ kind name modifiers value, operation.transfer? = none ∧
      operation.effect model = (model.addUnowned kind name modifiers value).2) ∨
    (∃ owner member node, operation.transfer? = some (.give owner member) ∧
      model.member? member = some node ∧ (model.type? owner).isSome ∧
      operation.effect model = model.giveMember owner member) ∨
    (∃ owner member node, operation.transfer? = some (.take owner member) ∧
      model.member? member = some node ∧
      operation.effect model = model.takeMember owner member) ∨
    operation.transfer? = none ∧ model.KeepsHoldings (operation.effect model) := by
  obtain hadds | ⟨owner, member, htransfer, heffect⟩ | ⟨owner, member, htransfer, heffect⟩ |
    hkeeps := operation.holding_cases model
  · exact .inl hadds
  · obtain ⟨howner, hmember⟩ := found_of_transfer htransfer hrefusal
    obtain ⟨node, hnode⟩ := Option.isSome_iff_exists.1 hmember
    exact .inr (.inl ⟨owner, member, node, htransfer, hnode, howner, heffect⟩)
  · obtain ⟨-, hmember⟩ := found_of_transfer htransfer hrefusal
    obtain ⟨node, hnode⟩ := Option.isSome_iff_exists.1 hmember
    exact .inr (.inr (.inl ⟨owner, member, node, htransfer, hnode, heffect⟩))
  · exact .inr (.inr (.inr hkeeps))

/-! ## Describing step by step -/

/-- Owners and lists of the model say what the ledger says. -/
structure Ledger.Describes (ledger : Ledger) (model : Model) : Prop where
  /-- The owner of a member is its holder. -/
  owner : ∀ member, model.ownerOf member = (ledger member).map (·.holder)
  /-- The copies of a member are in the list of its kind, and there are as many
  of them as the ledger says. -/
  count : ∀ member ty kind, (model.listed ty kind).count member =
    if model.kindOf member = some kind then Holding.copiesIn (ledger member) ty else 0

namespace Ledger.Describes

variable {ledger : Ledger} {model : Model}

theorem empty (origin : Nat) (filters : Filters) :
    Ledger.empty.Describes (Model.empty origin filters) where
  owner _ := by simp [Model.ownerOf, Model.member?, Model.empty, Ledger.empty]
  count _ _ _ := by
    simp [Model.listed, Model.kindOf, Model.type?, Model.member?, Model.empty]

/-- What leaves owners and lists alone needs no transfer. -/
theorem keepsHoldings (h : ledger.Describes model) {after : Model}
    (hkeeps : model.KeepsHoldings after) : ledger.Describes after where
  owner member := by
    have howner := h.owner member
    unfold Model.ownerOf at howner ⊢
    rw [hkeeps.member?, howner]
  count member ty kind := by
    have hcount := h.count member ty kind
    unfold Model.kindOf at hcount ⊢
    rw [hkeeps.member?, hkeeps.listed, hcount]

/-- A new member is unowned and in no list. -/
theorem addUnowned (h : ledger.Describes model) (kind : MemberKind) (name : String)
    (modifiers : Modifiers) (value : Option String) :
    ledger.Describes (model.addUnowned kind name modifiers value).2 := by
  have hforeign {x : MemberId} (hx : x.index = model.members.size) :
      (ledger x).map (·.holder) = none := by
    have hnone : model.member? x = none := Array.getElem?_eq_none (Nat.le_of_eq hx.symm)
    rw [← h.owner, Model.ownerOf, hnone]
    rfl
  constructor
  · intro x
    by_cases hx : x.index = model.members.size
    · rw [hforeign hx, Model.ownerOf, Model.member?_addUnowned, if_pos hx]
      rfl
    · rw [← h.owner, Model.ownerOf, Model.ownerOf, Model.member?_addUnowned, if_neg hx]
  · intro x ty other
    have hlisted : (model.addUnowned kind name modifiers value).2.listed ty other =
        model.listed ty other := rfl
    have hcount := h.count x ty other
    unfold Model.kindOf at hcount ⊢
    rw [hlisted, hcount, Model.member?_addUnowned]
    by_cases hx : x.index = model.members.size
    · have hcopies : Holding.copiesIn (ledger x) ty = 0 :=
        Holding.copiesIn_eq_zero (by rw [hforeign hx]; simp)
      simp [hcopies]
    · rw [if_neg hx]

/-- A type that gets a copy is the holder, and no other type keeps one. -/
theorem giveMember (h : ledger.Describes model) {owner : TypeId} {member : MemberId} {node : Member}
    (hnode : model.member? member = some node) (howner : (model.type? owner).isSome) :
    (ledger.record (.give owner member)).Describes (model.giveMember owner member) := by
  have hholder : node.owner = (ledger member).map (·.holder) := by
    rw [← h.owner, Model.ownerOf, hnode]
    rfl
  constructor
  · intro x
    have hx := h.owner x
    unfold Model.ownerOf at hx ⊢
    rw [Model.member?_giveMember hnode]
    by_cases hmember : member = x
    · subst hmember
      simp [record, Holding.give]
    · simp [record, hmember, Ne.symm hmember, hx]
  · intro x ty kind
    have hcount := h.count x ty kind
    unfold Model.kindOf at hcount ⊢
    rw [Model.listed_giveMember hnode howner, Model.member?_giveMember hnode, List.count_append]
    by_cases hmember : member = x
    · subst hmember
      rw [hnode] at hcount
      simp only [record, if_pos, Option.map_some, Option.some_inj,
        Holding.copiesIn_give] at hcount ⊢
      by_cases hty : owner = ty
      · -- the type lists one copy more, if this is the list of the kind
        subst hty
        by_cases hkind : node.kind = kind <;> simp [hcount, hkind]
      · -- the type has lost all copies, or had none
        by_cases hprevious : node.owner = some ty
        · have hlost : ((model.listed ty kind).filter (· != member)).count member = 0 :=
            List.count_eq_zero.2 (by simp)
          simp [hprevious, Ne.symm hty, hty, hlost]
        · have hnone : Holding.copiesIn (ledger member) ty = 0 :=
            Holding.copiesIn_eq_zero (hholder ▸ hprevious)
          simp [hprevious, hty, hcount, hnone]
    · have hfilter : ((model.listed ty kind).filter (· != member)).count x =
          (model.listed ty kind).count x := List.count_filter (by simp [Ne.symm hmember])
      have hsingle : (if owner = ty ∧ node.kind = kind then [member] else []).count x = 0 := by
        split <;> simp [hmember]
      rw [hsingle, Nat.add_zero, if_neg hmember]
      simp only [record, if_neg (Ne.symm hmember)]
      split
      · rw [hfilter, hcount]
      · exact hcount

/-- A type that gives back a copy has one less, and no owner is left after the
last one. -/
theorem takeMember (h : ledger.Describes model) {owner : TypeId} {member : MemberId} {node : Member}
    (hnode : model.member? member = some node) :
    (ledger.record (.take owner member)).Describes (model.takeMember owner member) := by
  have hcopies : (model.listed owner node.kind).count member =
      Holding.copiesIn (ledger member) owner := by
    rw [h.count, Model.kindOf, hnode]
    simp
  constructor
  · intro x
    have hx := h.owner x
    unfold Model.ownerOf at hx ⊢
    rw [Model.member?_takeMember hnode, hcopies]
    by_cases hmember : member = x
    · subst hmember
      simp only [record, if_pos, true_and, Holding.holder_take]
      split
      · rfl
      · exact hx
    · simp [record, hmember, Ne.symm hmember, hx]
  · intro x ty kind
    have hcount := h.count x ty kind
    have hkindOf : (model.takeMember owner member).kindOf x = model.kindOf x := by
      unfold Model.kindOf
      rw [Model.member?_takeMember hnode]
      split
      · rename_i hlast
        rw [← hlast.1, hnode]
        rfl
      · rfl
    rw [Model.listed_takeMember hnode, hkindOf]
    by_cases hmember : member = x
    · subst hmember
      have hkind : model.kindOf member = some node.kind := by rw [Model.kindOf, hnode]; rfl
      rw [hkind] at hcount ⊢
      simp only [record, if_pos, Option.some_inj, Holding.copiesIn_take] at hcount ⊢
      by_cases hty : owner = ty <;> by_cases hlist : node.kind = kind <;>
        simp [hty, hlist, hcount, List.count_erase_self]
    · have herase : ((model.listed ty kind).erase member).count x =
          (model.listed ty kind).count x := List.count_erase_of_ne (Ne.symm hmember)
      simp only [record, if_neg (Ne.symm hmember)]
      split
      · rw [herase, hcount]
      · exact hcount

/-! ## Histories -/

/-- What an operation that is not refused does, its transfer says. -/
theorem effect (h : ledger.Describes model) {operation : Operation}
    (hrefusal : operation.refusal? model = none) :
    (ledger.recordAll operation.transfer?.toList).Describes (operation.effect model) := by
  obtain ⟨kind, name, modifiers, value, htransfer, heffect⟩ |
    ⟨owner, member, node, htransfer, hnode, howner, heffect⟩ |
    ⟨owner, member, node, htransfer, hnode, heffect⟩ | ⟨htransfer, hkeeps⟩ :=
    Operation.carried_cases hrefusal
  · rw [htransfer, heffect]
    exact h.addUnowned kind name modifiers value
  · rw [htransfer, heffect]
    exact h.giveMember hnode howner
  · rw [htransfer, heffect]
    exact h.takeMember hnode
  · rw [htransfer]
    exact h.keepsHoldings hkeeps

/-- One event: the model keeps to the ledger in which its transfer is recorded. -/
theorem event (h : ledger.Describes model) (event : Event) :
    (ledger.recordAll (event.transfer? model).toList).Describes (event.after model) := by
  cases event with
  | operate operation =>
      rw [Event.transfer?_operate, Event.after, operation.after_eq]
      cases hrefusal : operation.refusal? model with
      | some error => exact h
      | none => exact h.effect hrefusal
  | ask query => exact h.keepsHoldings (.settle model _)
  | copy origin => exact h.keepsHoldings (.of_types_eq rfl rfl)
  | resolve table site => exact h.keepsHoldings (.settleIn model table site)

/-- Any events: the model keeps to the ledger in which their transfers are
recorded. -/
theorem replay (h : ledger.Describes model) (events : List Event) :
    (ledger.recordAll (model.transfers events)).Describes (model.replay events) := by
  induction events generalizing ledger model with
  | nil => exact h
  | cons event events ih =>
      rw [Model.transfers, recordAll_append]
      exact ih (h.event event)

/-- A member has an owner if it is in a list of the owner, and it is in no list
of another type. -/
theorem ownerOf_eq_some_iff (h : ledger.Describes model) {member : MemberId} {ty : TypeId} :
    model.ownerOf member = some ty ↔ ∃ kind, member ∈ model.listed ty kind := by
  have howner := h.owner member
  have hcount := h.count member ty
  constructor
  · intro hty
    -- whoever has an owner is a member of the model, so there is a list of its kind
    have hkind : ∃ kind, model.kindOf member = some kind := by
      unfold Model.ownerOf at hty
      obtain ⟨node, hnode, -⟩ := Option.bind_eq_some_iff.1 hty
      exact ⟨node.kind, by rw [Model.kindOf, hnode]; rfl⟩
    obtain ⟨kind, hkind⟩ := hkind
    obtain ⟨holding, hholding, rfl⟩ := Option.map_eq_some_iff.1 (howner.symm.trans hty)
    have hpos := holding.copies_pos
    refine ⟨kind, List.count_pos_iff.1 ?_⟩
    rw [hcount, if_pos hkind, hholding]
    simpa [Holding.copiesIn] using hpos
  · rintro ⟨kind, hmem⟩
    have hpos := List.count_pos_iff.2 hmem
    rw [hcount] at hpos
    rw [howner]
    refine Decidable.byContradiction fun hne => ?_
    rw [Holding.copiesIn_eq_zero hne] at hpos
    simp at hpos

end Ledger.Describes

/-! ## Other members -/

/-- Without a value nothing tells a list from the one that has lost a copy of
it. -/
theorem filter_bne_erase {α : Type} [BEq α] [LawfulBEq α] (l : List α) (a : α) :
    (l.erase a).filter (· != a) = l.filter (· != a) := by
  induction l with
  | nil => rfl
  | cons b l ih =>
      by_cases h : b = a
      · subst h
        simp
      · simp [h, ih]

/-- A transfer moves the copies of its member only: what else a type lists stays
in place. -/
theorem Operation.listed_filter_after (model : Model) {operation : Operation} {transfer : Transfer}
    (htransfer : operation.transfer? = some transfer) (ty : TypeId) (kind : MemberKind) :
    ((operation.after model).listed ty kind).filter (· != transfer.member) =
      (model.listed ty kind).filter (· != transfer.member) := by
  rw [operation.after_eq]
  cases hrefusal : operation.refusal? model with
  | some error => rfl
  | none =>
      rw [if_neg (by simp)]
      obtain ⟨_, _, _, _, hnone, -⟩ | ⟨owner, member, node, hgive, hnode, howner, heffect⟩ |
        ⟨owner, member, node, htake, hnode, heffect⟩ | ⟨hnone, -⟩ :=
        Operation.carried_cases hrefusal
      · exact nomatch htransfer.symm.trans hnone
      · obtain rfl := Option.some_inj.1 (htransfer.symm.trans hgive)
        have hadded : (if owner = ty ∧ node.kind = kind then [member] else []).filter
            (· != member) = [] := by
          split <;> simp
        simp only [Transfer.member]
        rw [heffect, Model.listed_giveMember hnode howner, List.filter_append, hadded,
          List.append_nil]
        split
        · rw [List.filter_filter]
          simp
        · rfl
      · obtain rfl := Option.some_inj.1 (htransfer.symm.trans htake)
        simp only [Transfer.member]
        rw [heffect, Model.listed_takeMember hnode]
        split
        · exact filter_bne_erase (model.listed ty kind) member
        · rfl
      · exact nomatch htransfer.symm.trans hnone

/-- **Ownership**: after any events the owners and lists of a model are those of
the ledger in which the transfers have been recorded, a member has an owner if
it is listed there, and an operation on a member, carried out or refused,
leaves the rest of every list in place. -/
theorem Model.ownership_refines (origin : Nat) (filters : Filters) (events : List Event) :
    let start := Model.empty origin filters
    let model := start.replay events
    (Ledger.empty.recordAll (start.transfers events)).Describes model ∧
      (∀ member ty, model.ownerOf member = some ty ↔ ∃ kind, member ∈ model.listed ty kind) ∧
      ∀ operation transfer, Operation.transfer? operation = some transfer → ∀ ty kind,
        ((operation.after model).listed ty kind).filter (· != transfer.member) =
          (model.listed ty kind).filter (· != transfer.member) := by
  intro start model
  have hdescribes : (Ledger.empty.recordAll (start.transfers events)).Describes model :=
    (Ledger.Describes.empty origin filters).replay events
  refine ⟨hdescribes, fun _ _ => hdescribes.ownerOf_eq_some_iff, ?_⟩
  intro operation transfer htransfer
  exact operation.listed_filter_after model htransfer

/-- Two copies that one type holds are gone once another type has got one. -/
example :
    let model := (Model.empty 0 .empty).run [.addType .classType "A", .addType .classType "B",
      .newMethod "run" .none, .addMember ⟨0⟩ ⟨0⟩, .addMember ⟨0⟩ ⟨0⟩, .addMember ⟨1⟩ ⟨0⟩]
    model.listed ⟨0⟩ .method = [] ∧ model.listed ⟨1⟩ .method = [⟨0⟩] ∧
      model.ownerOf ⟨0⟩ = some ⟨1⟩ := by
  decide

end TypeGraph
