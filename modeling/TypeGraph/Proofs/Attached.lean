import TypeGraph.Proofs.Run

/-!
# TypeGraph.Proofs.Attached

What is attached where, what names resolve to and which filters there are,
after an operation and after a question:

1. `Operation.reference?_effect` — an operation attaches a reference at one
   site, or it leaves all sites alone; `Model.reference?_settleIn` — following a
   reference changes no more than what it remembers;
2. `Operation.lookup_effect` — a name that resolves keeps its type for good.
-/

namespace TypeGraph

/-! ## Attached references -/

namespace Site

/-- The type at which a site is. -/
def owner : Site → TypeId
  | .parent ty => ty
  | .interface ty _ => ty

/-- What a type has at a site of its own. -/
def read : Site → TypeNode → Option TypeReference
  | .parent _, node => node.parent
  | .interface _ position, node => node.interfaces[position]?

/-- A skeleton keeps what is attached. -/
theorem read_skeleton (site : Site) (node : TypeNode) :
    site.read node.skeleton = site.read node := by
  cases site <;> rfl

end Site

namespace Model

variable {model : Model}

/-- What is attached at a site, the type says to which it belongs. -/
theorem reference?_eq (site : Site) :
    model.reference? site = (model.type? site.owner).bind site.read := by
  cases site <;> rfl

/-- A change to one type shows at the sites of that type only. -/
theorem reference?_modifyType (ty : TypeId) (change : TypeNode → TypeNode) (site : Site) :
    (model.modifyType ty change).reference? site =
      if ty = site.owner then (model.type? ty).bind fun node => site.read (change node)
      else model.reference? site := by
  rw [reference?_eq, reference?_eq, type?_modifyType]
  split
  · rename_i howner
    rw [Option.bind_map, howner]
    rfl
  · rfl

/-- A change to a type that is not in the model shows nowhere. -/
theorem reference?_modifyType_foreign {ty : TypeId} (hty : model.type? ty = none)
    (change : TypeNode → TypeNode) (site : Site) :
    (model.modifyType ty change).reference? site = model.reference? site := by
  rw [reference?_modifyType, hty]
  split
  · rename_i howner
    rw [reference?_eq, ← howner, hty]
    rfl
  · rfl

/-- A change to one type that changes what is attached at one site of it. -/
theorem reference?_modifyType_site {ty : TypeId} {node : TypeNode}
    (hnode : model.type? ty = some node) {change : TypeNode → TypeNode} {target : Site}
    {reference : Option TypeReference} (htarget : target.owner = ty)
    (hread : target.read (change node) = reference)
    (hothers : ∀ site, site.owner = ty → target ≠ site → site.read (change node) = site.read node)
    (site : Site) :
    (model.modifyType ty change).reference? site =
      if target = site then reference else model.reference? site := by
  rw [reference?_modifyType, hnode, Option.bind_some]
  by_cases hsite : target = site
  · rw [if_pos hsite, ← hsite, if_pos htarget.symm, hread]
  · rw [if_neg hsite]
    split
    · rename_i howner
      rw [reference?_eq, ← howner, hnode, Option.bind_some, hothers site howner.symm hsite]
    · rfl

/-- What leaves the skeletons alone leaves every reference alone. -/
theorem KeepsSkeletons.reference? {after : Model} (h : model.KeepsSkeletons after) (site : Site) :
    after.reference? site = model.reference? site := by
  have hread : site.read = fun node => site.read node.skeleton :=
    funext fun node => (site.read_skeleton node).symm
  rw [reference?_eq, reference?_eq, hread]
  exact (Option.bind_map ..).symm.trans
    ((congrArg (Option.bind · site.read) (h.type? site.owner)).trans (Option.bind_map ..))

/-- A new type has no references. -/
theorem reference?_addType (kind : TypeKind) (name : String) (site : Site) :
    (model.addType kind name).2.reference? site = model.reference? site := by
  rw [reference?_eq, reference?_eq, type?_addType]
  split
  · rename_i hnew
    have hnone : model.type? site.owner = none := by
      rw [type?]
      exact Array.getElem?_eq_none (Nat.le_of_eq hnew.symm)
    rw [hnone]
    cases site <;> rfl
  · rfl

end Model

/-- What is attached where after an operation. -/
theorem Operation.reference?_effect (model : Model) (operation : Operation) (site : Site) :
    (operation.effect model).reference? site =
      match operation.attaches model with
      | some (target, reference) =>
        if target = site then some reference else model.reference? site
      | none => model.reference? site := by
  obtain ⟨kind, name, rfl⟩ | ⟨ty, reference, rfl⟩ |
    ⟨ty, reference, rfl⟩ | ⟨hattaches, hkeeps⟩ := operation.effect_cases model
  · exact Model.reference?_addType kind name site
  · rw [effect, attaches]
    cases hnode : model.type? ty with
    | none => exact Model.reference?_modifyType_foreign hnode ..
    | some node =>
        refine Model.reference?_modifyType_site hnode rfl rfl (fun other howner hother => ?_) site
        cases other with
        | parent x => exact (hother (congrArg Site.parent howner.symm)).elim
        | interface x position => rfl
  · rw [effect, attaches]
    cases hnode : model.type? ty with
    | none => exact Model.reference?_modifyType_foreign hnode ..
    | some node =>
        refine Model.reference?_modifyType_site hnode rfl (by simp [Site.read])
          (fun other howner hother => ?_) site
        cases other with
        | parent x => rfl
        | interface x position =>
            obtain rfl : x = ty := howner
            have hposition : position ≠ node.interfaces.length := fun heq =>
              hother (congrArg (Site.interface x) heq.symm)
            show (node.interfaces ++ [reference])[position]? = node.interfaces[position]?
            obtain hlt | hgt := Nat.lt_or_gt_of_ne hposition
            · exact List.getElem?_append_left hlt
            · rw [List.getElem?_eq_none (by simpa using Nat.succ_le_of_lt hgt),
                List.getElem?_eq_none (Nat.le_of_lt hgt)]
  · rw [hattaches]
    exact hkeeps.reference? site

/-- Following a reference changes what is attached at its site only. -/
theorem Model.reference?_settleIn (model : Model) (table : SymbolTable) (target site : Site) :
    (model.settleIn table target).reference? site =
      if target = site then (model.reference? site).map (·.settle table)
      else model.reference? site := by
  cases hnode : model.type? target.owner with
  | none =>
      have hsame : (model.settleIn table target).reference? site = model.reference? site := by
        cases target <;> exact reference?_modifyType_foreign hnode ..
      rw [hsame]
      split
      · rename_i hsite
        rw [reference?_eq, ← hsite, hnode]
        rfl
      · rfl
  | some node =>
      have hread : (if target = site then (model.reference? site).map (·.settle table)
          else model.reference? site) = if target = site then
            (target.read node).map (·.settle table) else model.reference? site := by
        split
        · rename_i hsite
          rw [reference?_eq, ← hsite, hnode]
          rfl
        · rfl
      rw [hread]
      cases target with
      | parent ty =>
          refine reference?_modifyType_site hnode rfl rfl (fun other howner hother => ?_) site
          cases other with
          | parent x => exact (hother (congrArg Site.parent howner.symm)).elim
          | interface x position => rfl
      | interface ty position =>
          refine reference?_modifyType_site hnode rfl (List.getElem?_modify_eq ..)
            (fun other howner hother => ?_) site
          cases other with
          | parent x => rfl
          | interface x other =>
              obtain rfl : x = ty := howner
              exact List.getElem?_modify_ne _ _ fun heq => hother (congrArg (Site.interface x) heq)

/-! ## Lookups -/

/-- No operation changes what a name that resolves resolves to. -/
theorem Operation.lookup_effect (model : Model) (operation : Operation) {name : String}
    {ty : TypeId} (h : model.lookup name = some ty) :
    (operation.effect model).lookup name = some ty := by
  obtain ⟨kind, declared, rfl⟩ | ⟨owner, reference, rfl⟩ |
    ⟨owner, reference, rfl⟩ | ⟨-, hkeeps⟩ := operation.effect_cases model
  · have hmem : symbolKey name ∈ model.symbols := by
      rw [Std.HashMap.mem_iff_isSome_getElem?]
      exact Option.isSome_of_eq_some h
    show (model.symbols.insertIfNew (symbolKey declared) _)[symbolKey name]? = some ty
    rw [Std.HashMap.getElem?_insertIfNew, if_neg]
    · exact h
    · rintro ⟨hkey, hnew⟩
      exact hnew (eq_of_beq hkey ▸ hmem)
  · exact h
  · exact h
  · rw [Model.lookup, hkeeps.symbols]
    exact h

/-- No operation, carried out or refused, changes what a name that resolves resolves
to. -/
theorem Operation.lookup_after (model : Model) (operation : Operation) {name : String} {ty : TypeId}
    (h : model.lookup name = some ty) : (operation.after model).lookup name = some ty := by
  rw [operation.after_eq]
  split
  · exact h
  · exact operation.lookup_effect model h

/-- Whoever follows a reference, names resolve as before. -/
theorem Model.lookup_settleIn (model : Model) (table : SymbolTable) (site : Site) (name : String) :
    (model.settleIn table site).lookup name = model.lookup name := by
  cases site <;> rfl

/-- Questions do not change what names resolve to. -/
theorem Model.lookup_settle (model : Model) (sites : List Site) (name : String) :
    (model.settle sites).lookup name = model.lookup name := by
  rw [lookup, lookup, settle_rest]

/-! ## Filters -/

/-- Giving a member to a type leaves the filters alone. -/
theorem Model.filters_giveMember (model : Model) (owner : TypeId) (member : MemberId) :
    (model.giveMember owner member).filters = model.filters := by
  rw [Model.giveMember]
  cases model.member? member with
  | none => rfl
  | some node =>
      have hrelease : (model.release owner node.owner member).filters = model.filters := by
        cases node.owner with
        | none => rfl
        | some holder =>
            rw [release]
            split <;> rfl
      exact hrelease

/-- Taking a member from a type leaves the filters alone. -/
theorem Model.filters_takeMember (model : Model) (owner : TypeId) (member : MemberId) :
    (model.takeMember owner member).filters = model.filters := by
  rw [Model.takeMember]
  split
  · dsimp only
    split
    · split <;> rfl
    · rfl
  · rfl

/-- The filters after an operation. -/
theorem Operation.filters_effect (model : Model) (operation : Operation) :
    (operation.effect model).filters = match operation with
      | .setFilters filters => filters
      | _ => model.filters := by
  cases operation with
  | addPackage name =>
      rw [effect, Model.addPackage]
      cases model.findPackage name <;> rfl
  | addMember owner member | addMemberOfKind kind owner member =>
      exact model.filters_giveMember owner member
  | removeMember owner member | removeMemberOfKind kind owner member =>
      exact model.filters_takeMember owner member
  | addTypeToPackage package ty =>
      rw [effect, Model.moveType]
      cases model.packageOf ty <;> rfl
  | addFunctionToPackage package function =>
      rw [effect, Model.moveFunction]
      cases model.packageOfFunction function <;> rfl
  | _ => rfl

end TypeGraph
