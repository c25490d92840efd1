import TypeGraph.Proofs.Run

/-!
# TypeGraph.Proofs.Holdings

The two places in which a model keeps who holds a member: the owner of the
member, and the lists of the types.

1. `Model.listed_giveMember`, `Model.member?_giveMember` — both of them after a
   type has got a copy of a member;
2. `Model.listed_takeMember`, `Model.member?_takeMember` — both of them after a
   type has given back a copy;
3. `Model.KeepsHoldings` — what all other changes have in common.
-/

namespace TypeGraph

/-! ## Owners, kinds and lists -/

namespace Model

/-- The owner of a member; a foreign one has none. -/
def ownerOf (model : Model) (member : MemberId) : Option TypeId :=
  (model.member? member).bind (·.owner)

/-- The kind of a member; a foreign one has none. -/
def kindOf (model : Model) (member : MemberId) : Option MemberKind :=
  (model.member? member).map (·.kind)

/-- The members of a kind that a type lists; a foreign type lists none. -/
def listed (model : Model) (ty : TypeId) (kind : MemberKind) : List MemberId :=
  match model.type? ty with
  | none => []
  | some node => node.memberList kind

end Model

/-! ## Lists and owners after a change -/

/-- A list that has been put there is the list of its kind. -/
theorem TypeNode.memberList_withMemberList (node : TypeNode) (kind other : MemberKind)
    (members : List MemberId) : (node.withMemberList kind members).memberList other =
      if kind = other then members else node.memberList other := by
  cases kind <;> cases other <;> rfl

/-- A type without a member lists all the others. -/
theorem TypeNode.memberList_withoutMember (node : TypeNode) (member : MemberId)
    (kind : MemberKind) :
    (node.withoutMember member).memberList kind = (node.memberList kind).filter (· != member) := by
  cases kind <;> rfl

namespace Model

variable {model : Model}

/-- A change to a member shows in that member only. -/
theorem member?_modifyMember (member x : MemberId) (change : Member → Member) :
    (model.modifyMember member change).member? x =
      if member = x then (model.member? x).map change else model.member? x :=
  getElem?_modify_index (congrArg MemberId.mk) model.members member x change

/-- A member that is added has no owner. -/
theorem member?_addUnowned (kind : MemberKind) (name : String) (modifiers : Modifiers)
    (value : Option String) (x : MemberId) :
    (model.addUnowned kind name modifiers value).2.member? x =
      if x.index = model.members.size then
        some ⟨⟨model.members.size⟩, model.origin, name, kind, modifiers, value, none⟩
      else model.member? x := by
  rw [member?, member?, addUnowned, Array.getElem?_push]

/-- A change to one type that does the same to its list, be it empty. -/
theorem listed_modifyType {kind : MemberKind} {change : TypeNode → TypeNode}
    {onList : List MemberId → List MemberId}
    (hchange : ∀ node, (change node).memberList kind = onList (node.memberList kind))
    (hnil : onList [] = []) (ty x : TypeId) : (model.modifyType ty change).listed x kind =
      if ty = x then onList (model.listed x kind) else model.listed x kind := by
  unfold listed
  rw [type?_modifyType]
  by_cases h : ty = x
  · rw [if_pos h, if_pos h]
    cases model.type? x with
    | none => exact hnil.symm
    | some node => exact hchange node
  · rw [if_neg h, if_neg h]

/-- A type that loses a member, because another one gets it, loses every copy. -/
theorem listed_release (owner : TypeId) (previous : Option TypeId) (member : MemberId) (x : TypeId)
    (kind : MemberKind) : (model.release owner previous member).listed x kind =
      if previous = some x ∧ x ≠ owner then (model.listed x kind).filter (· != member)
      else model.listed x kind := by
  unfold release
  cases previous with
  | none => simp
  | some holder =>
      by_cases hholder : holder = owner
      · have hx : ¬ (some holder = some x ∧ x ≠ owner) := by
          rintro ⟨heq, hne⟩
          exact hne (Option.some_inj.1 heq ▸ hholder)
        simp only [if_pos hholder, if_neg hx]
      · dsimp only
        rw [if_neg hholder, listed_modifyType
          (fun node => node.memberList_withoutMember member kind) rfl]
        by_cases hx : holder = x
        · have hne : x ≠ owner := hx ▸ hholder
          simp [hx, hne]
        · simp [hx]

/-- A member that is attached stands at the end of the list of its kind. -/
theorem listed_attach {owner : TypeId} (howner : (model.type? owner).isSome) (kind : MemberKind)
    (member : MemberId) (x : TypeId) (other : MemberKind) :
    (model.attach owner kind member).listed x other =
      model.listed x other ++ if owner = x ∧ kind = other then [member] else [] := by
  unfold attach listed
  rw [type?_modifyType]
  change (match if owner = x then (model.type? x).map _ else model.type? x with
    | none => []
    | some node => node.memberList other) = _
  by_cases hx : owner = x
  · subst hx
    obtain ⟨node, hnode⟩ := Option.isSome_iff_exists.1 howner
    rw [if_pos rfl, hnode]
    dsimp only [Option.map_some]
    rw [TypeNode.pushMember, TypeNode.memberList_withMemberList]
    by_cases hkind : kind = other
    · simp [hkind]
    · simp [hkind]
  · simp [hx]

/-- What a type lists once a type has got a copy of a member. -/
theorem listed_giveMember {owner : TypeId} {member : MemberId} {node : Member}
    (hnode : model.member? member = some node) (howner : (model.type? owner).isSome) (x : TypeId)
    (kind : MemberKind) : (model.giveMember owner member).listed x kind =
      (if node.owner = some x ∧ x ≠ owner then (model.listed x kind).filter (· != member)
        else model.listed x kind) ++ if owner = x ∧ node.kind = kind then [member] else [] := by
  have hkeeps := KeepsView.release TypeNode.skeleton_withMemberList model owner node.owner member
  have hreleased : ((model.release owner node.owner member).type? owner).isSome := by
    rw [← Option.isSome_map, hkeeps, Option.isSome_map]
    exact howner
  unfold giveMember
  rw [hnode]
  dsimp only
  rw [listed_attach hreleased, listed_release]

/-- The member after a type has got a copy of it. -/
theorem member?_giveMember {owner : TypeId} {member : MemberId} {node : Member}
    (hnode : model.member? member = some node) (x : MemberId) :
    (model.giveMember owner member).member? x =
      if member = x then some { node with owner := some owner } else model.member? x := by
  have hreleased : (model.release owner node.owner member).members = model.members := by
    unfold release
    split
    · rfl
    · split <;> rfl
  have hattached : (model.giveMember owner member).member? x =
      (model.modifyMember member fun m => { m with owner := some owner }).member? x := by
    unfold giveMember
    rw [hnode]
    simp [attach, modifyType, modifyMember, member?, hreleased]
  rw [hattached, member?_modifyMember]
  by_cases h : member = x
  · rw [if_pos h, if_pos h, ← h, hnode]
    rfl
  · rw [if_neg h, if_neg h]

/-- What taking a copy does, by how many copies there are. -/
theorem takeMember_eq {owner : TypeId} {member : MemberId} {node : Member}
    (hnode : model.member? member = some node) : model.takeMember owner member =
      match (model.listed owner node.kind).count member with
      | 0 => model
      | 1 => (model.detach owner node.kind member).disown member
      | _ => model.detach owner node.kind member := by
  unfold takeMember listed
  rw [hnode]
  cases model.type? owner with
  | none => rfl
  | some holder =>
      dsimp only
      generalize holder.memberList node.kind = held
      have hheld : held.contains member = true ↔ 0 < held.count member := by
        rw [List.contains_iff_mem, List.count_pos_iff]
      have hmore : (held.erase member).contains member = true ↔ 1 < held.count member := by
        rw [List.contains_iff_mem, ← List.count_pos_iff, List.count_erase_self]
        omega
      cases hcount : held.count member with
      | zero =>
          rw [if_neg (by rw [hheld]; omega)]
          rfl
      | succ more =>
          rw [if_pos (by rw [hheld]; omega)]
          cases more with
          | zero =>
              rw [if_neg (by rw [hmore]; omega)]
              rfl
          | succ =>
              rw [if_pos (by rw [hmore]; omega)]
              rfl

/-- What a type lists once a type has given back a copy of a member. -/
theorem listed_takeMember {owner : TypeId} {member : MemberId} {node : Member}
    (hnode : model.member? member = some node) (x : TypeId) (kind : MemberKind) :
    (model.takeMember owner member).listed x kind =
      if owner = x ∧ node.kind = kind then (model.listed x kind).erase member
      else model.listed x kind := by
  have herase (holder : TypeNode) : (holder.eraseMember node.kind member).memberList kind =
      (if node.kind = kind then (·.erase member) else id) (holder.memberList kind) := by
    rw [TypeNode.eraseMember, TypeNode.memberList_withMemberList]
    by_cases hkind : node.kind = kind
    · subst hkind
      simp
    · simp [hkind]
  have hdetach : (model.detach owner node.kind member).listed x kind =
      if owner = x ∧ node.kind = kind then (model.listed x kind).erase member
      else model.listed x kind := by
    unfold detach
    rw [listed_modifyType herase (by by_cases hkind : node.kind = kind <;> simp [hkind])]
    by_cases hx : owner = x <;> by_cases hkind : node.kind = kind <;> simp [hx, hkind]
  rw [takeMember_eq hnode]
  split
  · rename_i hcount
    by_cases hx : owner = x ∧ node.kind = kind
    · obtain ⟨rfl, rfl⟩ := hx
      rw [if_pos ⟨rfl, rfl⟩, List.erase_of_not_mem (List.count_eq_zero.1 hcount)]
    · rw [if_neg hx]
  · exact hdetach
  · exact hdetach

/-- The member after a type has given back a copy of it. -/
theorem member?_takeMember {owner : TypeId} {member : MemberId} {node : Member}
    (hnode : model.member? member = some node) (x : MemberId) :
    (model.takeMember owner member).member? x =
      if member = x ∧ (model.listed owner node.kind).count member = 1 then
        some { node with owner := none }
      else model.member? x := by
  rw [takeMember_eq hnode]
  split
  · rename_i hcount
    simp [hcount]
  · rename_i hcount
    unfold disown
    rw [member?_modifyMember, hcount]
    by_cases hx : member = x
    · subst hx
      have hsame : (model.detach owner node.kind member).member? member = some node := hnode
      simp [hsame]
    · simp only [hx, false_and, if_false]
      rfl
  · rename_i hcount
    rw [if_neg fun h => hcount h.2]
    rfl

end Model

/-! ## What leaves holdings alone -/

/-- The change leaves members and the lists of members alone. -/
structure Model.KeepsHoldings (before after : Model) : Prop where
  member? : ∀ member, after.member? member = before.member? member
  listed : ∀ ty kind, after.listed ty kind = before.listed ty kind

namespace Model.KeepsHoldings

variable {before after : Model}

theorem of_view (hmembers : after.members = before.members)
    (hview : KeepsView TypeNode.memberList before after) : KeepsHoldings before after where
  member? member := by unfold Model.member?; rw [hmembers]
  listed ty kind := by
    have hlists (model : Model) : model.listed ty kind =
        ((model.type? ty).map TypeNode.memberList).elim [] (· kind) := by
      unfold Model.listed
      cases model.type? ty <;> rfl
    rw [hlists, hlists, hview]

theorem of_types_eq (hmembers : after.members = before.members)
    (htypes : after.types = before.types) : KeepsHoldings before after :=
  of_view hmembers (.of_types_eq htypes)

theorem addType (model : Model) (kind : TypeKind) (name : String) :
    KeepsHoldings model (model.addType kind name).2 where
  member? _ := rfl
  listed x memberKind := by
    unfold Model.listed
    rw [type?_addType]
    by_cases hx : x.index = model.types.size
    · have hnone : model.type? x = none := Array.getElem?_eq_none (Nat.le_of_eq hx.symm)
      rw [if_pos hx, hnone]
      cases memberKind <;> rfl
    · rw [if_neg hx]

theorem addPackage (model : Model) (name : String) :
    KeepsHoldings model (model.addPackage name).2 := by
  unfold Model.addPackage
  cases model.findPackage name <;> exact of_types_eq rfl rfl

theorem moveType (model : Model) (package : PackageId) (ty : TypeId) :
    KeepsHoldings model (model.moveType package ty) := by
  refine of_view ?_ (.moveType (fun _ _ => rfl) model package ty)
  unfold Model.moveType
  cases model.packageOf ty <;> rfl

theorem moveFunction (model : Model) (package : PackageId) (function : FunctionId) :
    KeepsHoldings model (model.moveFunction package function) := by
  unfold Model.moveFunction
  cases model.packageOfFunction function <;> exact of_types_eq rfl rfl

/-- Following a reference changes nothing but what it remembers. -/
theorem settleIn (model : Model) (table : SymbolTable) (site : Site) :
    KeepsHoldings model (model.settleIn table site) :=
  of_view (by rw [settleIn_rest]) (.settleIn (fun _ _ _ => rfl) model table site)

/-- A question changes nothing but what references remember. -/
theorem settle (model : Model) (sites : List Site) : KeepsHoldings model (model.settle sites) :=
  of_view (by rw [settle_rest]) (.settle (fun _ _ _ => rfl) model sites)

end Model.KeepsHoldings

end TypeGraph
