import Mathlib.Data.List.Nodup
import TypeGraph.Proofs.Run
import TypeGraph.Proofs.Shelving

/-!
# TypeGraph.Proofs.Filing

The two places in which a model keeps where a type belongs: the pointer of the
type, and the lists of the packages.

1. `Model.packageOf_unlistType`, `Model.typesIn_unlistType` — both of them after
   a type has been taken off a list;
2. `Model.packageOf_moveType`, `Model.typesIn_moveType` — both of them after a
   type has moved;
3. `Model.package?_rebuildIndex` — a package after the lists have been rebuilt;
4. `Model.KeepsFiling` — what all other changes have in common, but for the one
   that writes a pointer alone (`Operation.filing_cases`).
-/

namespace TypeGraph

/-! ## Pointers and lists -/

namespace Model

/-- The types that a package lists; a foreign one lists none. -/
def typesIn (model : Model) (package : PackageId) : List TypeId :=
  match model.package? package with
  | none => []
  | some node => node.types

/-- The types that point at a package, in the order of creation. -/
def pointingAt (model : Model) (package : PackageId) : List TypeId :=
  (model.types.toList.filter (·.package == some package)).map (·.id)

/-- Where the types point, and which ones each package lists. -/
def typeShelving (model : Model) : Shelving TypeId := ⟨model.packageOf, model.typesIn⟩

/-- How often a package has to list a type: once if the type points at it. -/
def due (model : Model) (ty : TypeId) (package : PackageId) : Nat :=
  if model.packageOf ty = some package then 1 else 0

variable {model : Model}

/-! ## One package after a change -/

/-- A change to a package shows in that package only. -/
theorem package?_modifyPackage (package other : PackageId) (change : Package → Package) :
    (model.modifyPackage package change).package? other =
      if package = other then (model.package? other).map change else model.package? other :=
  getElem?_modify_index (congrArg PackageId.mk) model.packages package other change

/-- It neither adds a package nor removes one. -/
theorem isSome_package?_modifyPackage (package other : PackageId) (change : Package → Package) :
    ((model.modifyPackage package change).package? other).isSome =
      (model.package? other).isSome :=
  isSome_getElem?_modify model.packages package.index other.index change

/-- A change to a type shows in the pointer of that type only. -/
theorem packageOf_modifyType (ty x : TypeId) (change : TypeNode → TypeNode) :
    (model.modifyType ty change).packageOf x =
      if ty = x then (model.type? x).bind fun node => (change node).package
      else model.packageOf x := by
  unfold packageOf
  rw [type?_modifyType]
  by_cases h : ty = x
  · rw [if_pos h, if_pos h, Option.bind_map]
    rfl
  · rw [if_neg h, if_neg h]

/-! ### Taking a type off a list -/

/-- Taking a type out of a package clears its pointer if that is where it points. -/
theorem packageOf_unlistType (package : PackageId) (ty x : TypeId) :
    (model.unlistType package ty).packageOf x =
      if ty = x ∧ model.packageOf x = some package then none else model.packageOf x := by
  have hsame : (model.unlistType package ty).packageOf x =
      if ty = x then (model.type? x).bind fun node =>
        (if node.package = some package then { node with package := none } else node).package
      else model.packageOf x := packageOf_modifyType ty x _
  rw [hsame]
  by_cases hx : ty = x
  · unfold packageOf
    cases model.type? x with
    | none => simp
    | some node => by_cases hpackage : node.package = some package <;> simp [hx, hpackage]
  · simp [hx]

/-- It is taken off the list of that package, once. -/
theorem typesIn_unlistType (package other : PackageId) (ty : TypeId) :
    (model.unlistType package ty).typesIn other =
      if package = other then (model.typesIn other).erase ty else model.typesIn other := by
  have hsame : (model.unlistType package ty).package? other =
      (model.modifyPackage package fun p => { p with types := p.types.erase ty }).package? other :=
    rfl
  unfold typesIn
  rw [hsame, package?_modifyPackage]
  by_cases h : package = other
  · rw [if_pos h, if_pos h]
    cases model.package? other <;> rfl
  · rw [if_neg h, if_neg h]

/-- No package goes with it. -/
theorem isSome_package?_unlistType (package other : PackageId) (ty : TypeId) :
    ((model.unlistType package ty).package? other).isSome = (model.package? other).isSome :=
  isSome_package?_modifyPackage package other _

theorem isSome_type?_unlistType (package : PackageId) (ty x : TypeId) :
    ((model.unlistType package ty).type? x).isSome = (model.type? x).isSome := by
  unfold unlistType
  exact isSome_type?_modifyType ty x _

/-! ### Putting a type onto a list -/

/-- A type that is listed points at the package. -/
theorem packageOf_listType {ty : TypeId} (hty : (model.type? ty).isSome) (package : PackageId)
    (x : TypeId) : (model.listType package ty).packageOf x =
      if ty = x then some package else model.packageOf x := by
  have hsame : (model.listType package ty).packageOf x =
      (model.modifyType ty fun node => { node with package := some package }).packageOf x := rfl
  rw [hsame, packageOf_modifyType]
  by_cases hx : ty = x
  · subst hx
    obtain ⟨node, hnode⟩ := Option.isSome_iff_exists.1 hty
    simp [hnode]
  · rw [if_neg hx, if_neg hx]

/-- It is at the end of the list, and in no other one than before. -/
theorem typesIn_listType {package : PackageId} (hpackage : (model.package? package).isSome)
    (ty : TypeId) (other : PackageId) : (model.listType package ty).typesIn other =
      model.typesIn other ++ if package = other then [ty] else [] := by
  have hsame : (model.listType package ty).package? other =
      (model.modifyPackage package fun p => { p with types := p.types ++ [ty] }).package? other :=
    rfl
  unfold typesIn
  rw [hsame, package?_modifyPackage]
  by_cases h : package = other
  · subst h
    obtain ⟨node, hnode⟩ := Option.isSome_iff_exists.1 hpackage
    simp [hnode]
  · simp [h]

/-! ### Moving a type -/

section Moving

variable {package : PackageId} {ty : TypeId}

/-- Moving a type leaves all packages there. -/
theorem isSome_package?_moveType (other : PackageId) :
    ((model.moveType package ty).package? other).isSome = (model.package? other).isSome := by
  have hlist (model : Model) :
      ((model.listType package ty).package? other).isSome = (model.package? other).isSome :=
    isSome_package?_modifyPackage package other _
  unfold moveType
  cases model.packageOf ty with
  | none => exact hlist model
  | some previous =>
      dsimp only
      rw [hlist, isSome_package?_unlistType]

/-- A type that has been moved points at the package, whatever it was in before. -/
theorem packageOf_moveType (hty : (model.type? ty).isSome) (x : TypeId) :
    (model.moveType package ty).packageOf x =
      if ty = x then some package else model.packageOf x := by
  unfold moveType
  cases model.packageOf ty with
  | none => exact packageOf_listType hty package x
  | some previous =>
      dsimp only
      rw [packageOf_listType (by rwa [isSome_type?_unlistType]), packageOf_unlistType]
      by_cases hx : ty = x <;> simp [hx]

/-- A type that moves leaves the package that it points at and no other one. -/
theorem typesIn_moveType (hpackage : (model.package? package).isSome) (other : PackageId) :
    (model.moveType package ty).typesIn other =
      (if model.packageOf ty = some other then (model.typesIn other).erase ty
        else model.typesIn other) ++ if package = other then [ty] else [] := by
  unfold moveType
  cases model.packageOf ty with
  | none => simp [typesIn_listType hpackage]
  | some previous =>
      dsimp only
      rw [typesIn_listType (by rwa [isSome_package?_unlistType]), typesIn_unlistType]
      simp only [Option.some_inj]

/-- The pointers and lists of the types after a type has been taken off a list. -/
theorem typeShelving_unlistType (package : PackageId) (ty : TypeId) :
    (model.unlistType package ty).typeShelving = model.typeShelving.unlist package ty := by
  unfold typeShelving Shelving.unlist
  congr 1
  · exact funext fun x => packageOf_unlistType package ty x
  · exact funext fun other => typesIn_unlistType package other ty

/-- Listing a type is putting it there, and writing its pointer. -/
theorem typeShelving_listType (hpackage : (model.package? package).isSome)
    (hty : (model.type? ty).isSome) :
    (model.listType package ty).typeShelving = model.typeShelving.put package ty := by
  unfold typeShelving Shelving.put
  congr 1
  · exact funext fun x => packageOf_listType hty package x
  · exact funext fun other => typesIn_listType hpackage ty other

/-- The pointers and lists of the types after a type has moved. -/
theorem typeShelving_moveType (hpackage : (model.package? package).isSome)
    (hty : (model.type? ty).isSome) :
    (model.moveType package ty).typeShelving = model.typeShelving.move package ty := by
  have hpointer : model.typeShelving.pointer ty = model.packageOf ty := rfl
  unfold moveType Shelving.move
  rw [hpointer]
  cases model.packageOf ty with
  | none => exact typeShelving_listType hpackage hty
  | some previous =>
      dsimp only
      rw [typeShelving_listType, typeShelving_unlistType]
      · rwa [isSome_package?_unlistType]
      · rwa [isSome_type?_unlistType]

/-- The listings that a moving type had before and has after, package by
package. -/
theorem count_typesIn_moveType (hpackage : (model.package? package).isSome) (x : TypeId)
    (other : PackageId) : ((model.moveType package ty).typesIn other).count x =
      if ty = x then
        (model.typesIn other).count x - model.due x other + if package = other then 1 else 0
      else (model.typesIn other).count x := by
  rw [typesIn_moveType hpackage, List.count_append]
  by_cases hx : ty = x
  · subst hx
    have hpushed : (if package = other then [ty] else []).count ty =
        if package = other then 1 else 0 := by
      split <;> simp
    unfold due
    rw [if_pos rfl, hpushed]
    split
    · rw [List.count_erase_self]
    · rfl
  · have hpushed : (if package = other then [ty] else []).count x = 0 := by
      split <;> simp [hx]
    rw [if_neg hx, hpushed, Nat.add_zero]
    split
    · exact List.count_erase_of_ne (Ne.symm hx)
    · rfl

end Moving

end Model

/-! ### Rebuilding the lists -/

/-- The package without its lists. -/
def Package.emptied (package : Package) : Package := { package with types := [], functions := [] }

def Package.pushType (package : Package) (ty : TypeId) : Package :=
  { package with types := package.types ++ [ty] }

def Package.pushFunction (package : Package) (function : FunctionId) : Package :=
  { package with functions := package.functions ++ [function] }

namespace Model

variable {model : Model}

section Rebuilding

variable {α β ν : Type}

/-- Entries that are put into slots one after another: every slot gets its own
entries, in turn. -/
theorem getElem?_foldl_modify (put : α → β → α) (entries : List (PackageId × β)) (slots : Array α)
    (package : PackageId) :
    (entries.foldl (fun slots entry => slots.modify entry.1.index (put · entry.2)) slots)[
        package.index]? =
      slots[package.index]?.map fun slot =>
        ((entries.filter (·.1 == package)).map (·.2)).foldl put slot := by
  induction entries generalizing slots with
  | nil => simp
  | cons entry entries ih =>
      rw [List.foldl_cons, ih, getElem?_modify_index (congrArg PackageId.mk)]
      by_cases h : entry.1 = package
      · rw [if_pos h, Option.map_map, List.filter_cons_of_pos (by simpa using h)]
        rfl
      · rw [if_neg h, List.filter_cons_of_neg (by simpa using h)]

/-- The entries of a package come from what points at it. -/
theorem entries_filterMap (pointer : ν → Option PackageId) (handle : ν → β) (nodes : List ν)
    (package : PackageId) :
    ((nodes.filterMap fun node => (pointer node).map (·, handle node)).filter
        (·.1 == package)).map (·.2) =
      (nodes.filter (pointer · == some package)).map handle := by
  induction nodes with
  | nil => rfl
  | cons node nodes ih =>
      cases hpointer : pointer node with
      | none => simp [hpointer, ih]
      | some target => by_cases h : target = package <;> simp [hpointer, h, ih]

/-- The nodes that point at a package: the list of their handles has each once,
and no other ones. -/
theorem count_pointing [DecidableEq β] {nodes : Array ν} {handle : ν → β} {mk : Nat → β}
    {index : β → Nat} (hindex : ∀ i, index (mk i) = i)
    (hmk : ∀ a, mk (index a) = a)
    (hnodes : ∀ i node, nodes[i]? = some node → handle node = mk i)
    (pointer : ν → Option PackageId) (a : β) (package : PackageId) :
    ((nodes.toList.filter (pointer · == some package)).map handle).count a =
      if (nodes[index a]?).bind pointer = some package then 1 else 0 := by
  have hnodup : ((nodes.toList.filter (pointer · == some package)).map handle).Nodup := by
    have hall : (nodes.toList.map handle).Nodup := by
      rw [map_handle_eq_range hnodes]
      exact List.nodup_range.map (Function.LeftInverse.injective hindex)
    exact hall.sublist (List.filter_sublist.map _)
  have hmem : a ∈ (nodes.toList.filter (pointer · == some package)).map handle ↔
      (nodes[index a]?).bind pointer = some package := by
    simp only [List.mem_map, List.mem_filter, beq_iff_eq, Option.bind_eq_some_iff]
    constructor
    · rintro ⟨node, ⟨hnode, hpointer⟩, rfl⟩
      obtain ⟨i, hi⟩ := Array.mem_iff_getElem?.1 (Array.mem_toList_iff.1 hnode)
      have hi' : index (handle node) = i := by rw [hnodes i node hi, hindex]
      exact ⟨node, hi' ▸ hi, hpointer⟩
    · rintro ⟨node, hnode, hpointer⟩
      have hmem : node ∈ nodes.toList := Array.mem_toList_iff.2 (Array.mem_of_getElem? hnode)
      exact ⟨node, ⟨hmem, hpointer⟩, (hnodes _ node hnode).trans (hmk a)⟩
  rw [hnodup.count]
  simp only [hmem]

theorem foldl_pushType (types : List TypeId) (package : Package) :
    types.foldl Package.pushType package = { package with types := package.types ++ types } := by
  induction types generalizing package with
  | nil => simp
  | cons ty types ih => simp [ih, Package.pushType]

theorem foldl_pushFunction (functions : List FunctionId) (package : Package) :
    functions.foldl Package.pushFunction package =
      { package with functions := package.functions ++ functions } := by
  induction functions generalizing package with
  | nil => simp
  | cons function functions ih => simp [ih, Package.pushFunction]

end Rebuilding

/-- A package lists what points at it, in the order of creation. -/
theorem package?_rebuildIndex (model : Model) (package : PackageId) :
    model.rebuildIndex.package? package = (model.package? package).map fun p => { p with
      types := model.pointingAt package
      functions := (model.functions.toList.filter (·.package == some package)).map (·.id) } := by
  refine (getElem?_foldl_modify Package.pushFunction _ _ package).trans ?_
  rw [entries_filterMap]
  refine (congrArg _ (getElem?_foldl_modify Package.pushType _ _ package)).trans ?_
  rw [entries_filterMap, Array.getElem?_map, Option.map_map, Option.map_map]
  unfold package?
  congr 1
  funext p
  simp [foldl_pushType, foldl_pushFunction, pointingAt]

/-- A rebuilt list has the types that point at the package. -/
theorem typesIn_rebuildIndex (model : Model) (package : PackageId) :
    model.rebuildIndex.typesIn package =
      if (model.package? package).isSome then model.pointingAt package else [] := by
  unfold typesIn
  rw [package?_rebuildIndex]
  cases model.package? package <;> rfl

/-- Each of those is in it once. -/
theorem Numbered.count_pointingAt (h : model.Numbered) (ty : TypeId) (package : PackageId) :
    (model.pointingAt package).count ty = model.due ty package :=
  count_pointing (fun _ => rfl) (fun _ => rfl) (fun i node => h ⟨i⟩ node) _ ty package

/-! ## What leaves filing alone -/

/-- The change leaves pointers and lists alone and drops no package. -/
structure KeepsFiling (before after : Model) : Prop where
  packageOf : ∀ ty, after.packageOf ty = before.packageOf ty
  typesIn : ∀ package, after.typesIn package = before.typesIn package
  package? : ∀ package, (before.package? package).isSome → (after.package? package).isSome

namespace KeepsFiling

variable {before middle after : Model}

theorem trans (h : KeepsFiling before middle) (h' : KeepsFiling middle after) :
    KeepsFiling before after where
  packageOf ty := (h'.packageOf ty).trans (h.packageOf ty)
  typesIn package := (h'.typesIn package).trans (h.typesIn package)
  package? package hpackage := h'.package? package (h.package? package hpackage)

/-- Pointers and lists are the same. -/
theorem typeShelving_eq (h : KeepsFiling before after) :
    after.typeShelving = before.typeShelving := by
  unfold Model.typeShelving
  congr 1
  · exact funext h.packageOf
  · exact funext h.typesIn

theorem of_view (hpackages : after.packages = before.packages)
    (hview : KeepsView TypeNode.package before after) : KeepsFiling before after where
  packageOf ty := by
    have hpointer (model : Model) : model.packageOf ty =
        ((model.type? ty).map TypeNode.package).join := by
      unfold Model.packageOf
      cases model.type? ty <;> rfl
    rw [hpointer, hpointer, hview]
  typesIn package := by unfold Model.typesIn Model.package?; rw [hpackages]
  package? package hpackage := by unfold Model.package? at *; rwa [hpackages]

theorem of_types_eq (hpackages : after.packages = before.packages)
    (htypes : after.types = before.types) : KeepsFiling before after :=
  of_view hpackages (.of_types_eq htypes)

theorem modifyPackage (model : Model) (package : PackageId) {change : Package → Package}
    (hchange : ∀ node, (change node).types = node.types) :
    KeepsFiling model (model.modifyPackage package change) where
  packageOf _ := rfl
  typesIn other := by
    unfold Model.typesIn
    rw [package?_modifyPackage]
    by_cases hother : package = other
    · rw [if_pos hother]
      cases model.package? other with
      | none => rfl
      | some node => exact hchange node
    · rw [if_neg hother]
  package? other hother := by rwa [isSome_package?_modifyPackage]

theorem addType (model : Model) (kind : TypeKind) (name : String) :
    KeepsFiling model (model.addType kind name).2 where
  packageOf x := by
    unfold Model.packageOf
    rw [type?_addType]
    by_cases hx : x.index = model.types.size
    · have hnone : model.type? x = none := Array.getElem?_eq_none (Nat.le_of_eq hx.symm)
      rw [if_pos hx, hnone]
      rfl
    · rw [if_neg hx]
  typesIn _ := rfl
  package? _ h := h

theorem addPackage (model : Model) (name : String) :
    KeepsFiling model (model.addPackage name).2 := by
  unfold Model.addPackage
  cases model.findPackage name with
  | some package => exact of_types_eq rfl rfl
  | none =>
      constructor
      · exact fun _ => rfl
      · intro package
        unfold Model.typesIn Model.package?
        dsimp only
        rw [Array.getElem?_push]
        by_cases hpackage : package.index = model.packages.size
        · rw [if_pos hpackage, Array.getElem?_eq_none (Nat.le_of_eq hpackage.symm)]
        · rw [if_neg hpackage]
      · intro package hpackage
        unfold Model.package? at *
        dsimp only
        rw [Array.getElem?_push]
        split
        · rfl
        · exact hpackage

theorem unlistFunction (model : Model) (package : PackageId) (function : FunctionId) :
    KeepsFiling model (model.unlistFunction package function) := by
  have hlist : KeepsFiling model (model.modifyPackage package fun p =>
      { p with functions := p.functions.erase function }) :=
    modifyPackage model package fun _ => rfl
  exact hlist.trans (of_types_eq rfl rfl)

theorem moveFunction (model : Model) (package : PackageId) (function : FunctionId) :
    KeepsFiling model (model.moveFunction package function) := by
  have hlist (model : Model) : KeepsFiling model (model.listFunction package function) := by
    have hpointer : KeepsFiling model
        (model.modifyFunction function fun node => { node with package := some package }) :=
      of_types_eq rfl rfl
    exact hpointer.trans (modifyPackage _ package fun _ => rfl)
  unfold Model.moveFunction
  cases model.packageOfFunction function with
  | none => exact hlist model
  | some previous => exact (unlistFunction model previous function).trans (hlist _)

theorem giveMember (model : Model) (owner : TypeId) (member : MemberId) :
    KeepsFiling model (model.giveMember owner member) :=
  of_view (by rw [giveMember_rest])
    (.giveMember (fun _ kind _ => by cases kind <;> rfl) model owner member)

theorem takeMember (model : Model) (owner : TypeId) (member : MemberId) :
    KeepsFiling model (model.takeMember owner member) :=
  of_view (by rw [takeMember_rest])
    (.takeMember (fun _ kind _ => by cases kind <;> rfl) model owner member)

theorem settleIn (model : Model) (table : SymbolTable) (site : Site) :
    KeepsFiling model (model.settleIn table site) :=
  of_view (by rw [settleIn_rest]) (.settleIn (fun _ _ _ => rfl) model table site)

theorem settle (model : Model) (sites : List Site) : KeepsFiling model (model.settle sites) :=
  of_view (by rw [settle_rest]) (.settle (fun _ _ _ => rfl) model sites)

end KeepsFiling

end Model

/-- What an operation does to pointers and lists: it writes a pointer alone, it
moves a type into a package or takes it out of one, it rebuilds the lists, or it
leaves all of them alone. -/
theorem Operation.filing_cases (model : Model) (operation : Operation) :
    (∃ ty target, operation = .setPackage ty target) ∨
    (∃ package ty, operation = .addTypeToPackage package ty) ∨
    (∃ package ty, operation = .removeTypeFromPackage package ty) ∨
    operation = .rebuildIndex ∨
    model.KeepsFiling (operation.effect model) := by
  cases operation with
  | setPackage ty target => exact .inl ⟨ty, target, rfl⟩
  | addTypeToPackage package ty => exact .inr (.inl ⟨package, ty, rfl⟩)
  | removeTypeFromPackage package ty => exact .inr (.inr (.inl ⟨package, ty, rfl⟩))
  | rebuildIndex => exact .inr (.inr (.inr (.inl rfl)))
  | addType kind name => exact .inr (.inr (.inr (.inr (.addType model kind name))))
  | addPackage name => exact .inr (.inr (.inr (.inr (.addPackage model name))))
  | setParent ty | addInterface ty | setUserDefined ty | setModifiers ty | setSourceFile ty =>
      exact .inr (.inr (.inr (.inr (.of_view rfl (.modifyType model ty fun _ => rfl)))))
  | addMember owner member | addMemberOfKind kind owner member =>
      exact .inr (.inr (.inr (.inr (.giveMember model owner member))))
  | removeMember owner member | removeMemberOfKind kind owner member =>
      exact .inr (.inr (.inr (.inr (.takeMember model owner member))))
  | addFunctionToPackage package function =>
      exact .inr (.inr (.inr (.inr (.moveFunction model package function))))
  | removeFunctionFromPackage package function =>
      exact .inr (.inr (.inr (.inr (.unlistFunction model package function))))
  | newMethod | newConstant | addFunction | setFilters =>
      exact .inr (.inr (.inr (.inr (.of_types_eq rfl rfl))))

end TypeGraph
