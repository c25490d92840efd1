import TypeGraph.Model.Basic

/-!
# TypeGraph.Model.Ownership

Which type holds a member.  A member is in the lists of one type at most, but
it may be there several times: adding appends without looking, moving to
another type takes every occurrence, removing takes the first one, and the
owner is forgotten with the last.
-/

namespace TypeGraph

namespace TypeNode

/-- The type without any occurrence of a member. -/
def withoutMember (node : TypeNode) (member : MemberId) : TypeNode :=
  { node with
    methods := node.methods.filter (· != member)
    constants := node.constants.filter (· != member) }

/-- The type with a member appended to the list of its kind. -/
def pushMember (node : TypeNode) (kind : MemberKind) (member : MemberId) : TypeNode :=
  node.withMemberList kind (node.memberList kind ++ [member])

/-- The type without the first occurrence of a member in the list of its kind. -/
def eraseMember (node : TypeNode) (kind : MemberKind) (member : MemberId) : TypeNode :=
  node.withMemberList kind ((node.memberList kind).erase member)

end TypeNode

namespace Model

/-- The model in which no type but `owner` holds a member that `previous`
holds so far. -/
def release (model : Model) (owner : TypeId) (previous : Option TypeId) (member : MemberId) :
    Model :=
  match previous with
  | none => model
  | some holder =>
    if holder = owner then model else model.modifyType holder (·.withoutMember member)

/-- The model in which a type holds one occurrence more of a member. -/
def attach (model : Model) (owner : TypeId) (kind : MemberKind) (member : MemberId) : Model :=
  (model.modifyMember member fun m => { m with owner := some owner }).modifyType owner
    (·.pushMember kind member)

/-- The model in which a type holds one occurrence less of a member. -/
def detach (model : Model) (owner : TypeId) (kind : MemberKind) (member : MemberId) : Model :=
  model.modifyType owner (·.eraseMember kind member)

/-- The model in which a member has no owner. -/
def disown (model : Model) (member : MemberId) : Model :=
  model.modifyMember member fun m => { m with owner := none }

end Model

namespace Edit

/-- Lets a type hold a member, which another type then no longer does. -/
def addMember (owner : TypeId) (id : MemberId) : Edit MemberId := do
  let _ ← type owner
  let node ← member id
  modify fun model => (model.release owner node.owner id).attach owner node.kind id
  pure id

/-- Takes one occurrence of a member from a type, and its owner from the
member if that was the last.  Nothing happens if the type does not hold it. -/
def removeMember (owner : TypeId) (id : MemberId) : Edit Unit := do
  let node ← member id
  let holder ← type owner
  let held := holder.memberList node.kind
  if held.contains id then
    modify (·.detach owner node.kind id)
    unless (held.erase id).contains id do
      modify (·.disown id)

/-- Refuses a member of the other kind. -/
def expectKind (id : MemberId) (kind : MemberKind) : Edit Unit := do
  let node ← member id
  if node.kind ≠ kind then
    throw (.wrongMemberKind id node.kind kind)

/-- Like `addMember`, for members of one kind only. -/
def addMemberOfKind (kind : MemberKind) (owner : TypeId) (id : MemberId) : Edit MemberId := do
  expectKind id kind
  addMember owner id

/-- Like `removeMember`, for members of one kind only. -/
def removeMemberOfKind (kind : MemberKind) (owner : TypeId) (id : MemberId) : Edit Unit := do
  expectKind id kind
  removeMember owner id

end Edit

end TypeGraph
