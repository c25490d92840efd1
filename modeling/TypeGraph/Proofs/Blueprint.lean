import Mathlib.Data.List.Forall2
import TypeGraph.Dependency
import TypeGraph.Model.Build
import TypeGraph.Proofs.Filing
import TypeGraph.Proofs.Naming

/-!
# TypeGraph.Proofs.Blueprint

What declarations make of a model, written out without the checks:

1. `Model.draftType`, `Model.draftPackage` — the types, members, packages and
   functions, as they are declared;
2. `Model.wireTypes` — the references;
3. `Model.addMissing` — a type for a name that is not declared.

`Model.Depicts` tells what may be read off such a model: it shows an outline of
each type, it files each type in the package that the outline names, and its
packages list their types in the order of creation.
-/

namespace TypeGraph

/-! ## Outlines -/

/-- What a type is by itself: all but its handle, its model, its package and its
members. -/
def TypeNode.face (node : TypeNode) : TypeNode :=
  { TypeNode.bare ⟨0⟩ 0 node.name node.kind with
    ownModifiers := node.ownModifiers
    parent := node.parent
    interfaces := node.interfaces
    userDefined := node.userDefined
    sourceFile := node.sourceFile }

/-- What a type is by itself, and the name of its package. -/
structure Outline where
  face : TypeNode
  package : String
  deriving DecidableEq, Repr

/-- A declared type with the package and the kind that it is declared with. -/
structure Entry where
  package : String
  kind : TypeKind
  declaration : TypeDeclaration
  deriving DecidableEq, Repr

/-- The declared types of one mention of a package, in the order of creation. -/
def PackageDeclaration.entries (declaration : PackageDeclaration) : List Entry :=
  declaration.classes.map (⟨declaration.name, .classType, ·⟩) ++
    declaration.interfaces.map (⟨declaration.name, .interfaceType, ·⟩)

/-- The declared types, in the order of creation. -/
def Declarations.entries (declarations : Declarations) : List Entry :=
  declarations.packages.flatMap (·.entries)

/-- The modifiers that keywords stand for together; unknown ones are passed
over. -/
def Modifiers.known (keywords : List String) : Modifiers :=
  (keywords.filterMap Modifiers.ofKeyword?).foldl Modifiers.union .none

/-- A reference that nobody has followed yet. -/
def TypeReference.fresh (kind : TypeKind) (name : String) : TypeReference := ⟨kind, name, none⟩

/-- A declared method of a type, with its number. -/
def MethodDeclaration.draft (owner : TypeId) (origin : Nat) (numbered : MethodDeclaration × Nat) :
    Member :=
  let (declaration, number) := numbered
  ⟨⟨number⟩, origin, declaration.name, .method, .known declaration.modifiers, none, some owner⟩

/-- A declared constant of a type, with its number. -/
def ConstantDeclaration.draft (owner : TypeId) (origin : Nat)
    (numbered : ConstantDeclaration × Nat) : Member :=
  let (declaration, number) := numbered
  ⟨⟨number⟩, origin, declaration.name, .constant, .none, declaration.value, some owner⟩

namespace TypeDeclaration

/-- The members of a declared type, numbered from `first` on. -/
def draftMembers (declaration : TypeDeclaration) (owner : TypeId) (origin first : Nat) :
    List Member :=
  (declaration.methods.zipIdx first).map (MethodDeclaration.draft owner origin) ++
    (declaration.constants.zipIdx (first + declaration.methods.length)).map
      (ConstantDeclaration.draft owner origin)

/-- A declared type without its references and its package. -/
def draft (declaration : TypeDeclaration) (kind : TypeKind) : TypeNode :=
  { TypeNode.bare ⟨0⟩ 0 declaration.name kind with
    ownModifiers := .known declaration.modifiers
    userDefined := true
    sourceFile := declaration.file }

/-- A declared type without its references and its package; its members are
numbered from `first` on. -/
def draftNode (declaration : TypeDeclaration) (kind : TypeKind) (ty : TypeId)
    (origin first : Nat) : TypeNode :=
  { declaration.draft kind with
    id := ty
    origin := origin
    methods := (declaration.methods.zipIdx first).map fun (_, number) => ⟨number⟩
    constants := (declaration.constants.zipIdx (first + declaration.methods.length)).map
      fun (_, number) => ⟨number⟩ }

/-- A type to which the declared references have been attached. -/
def wire (declaration : TypeDeclaration) (node : TypeNode) : TypeNode :=
  { node with
    parent := declaration.parent.map (.fresh .classType) <|> node.parent
    interfaces := node.interfaces ++ declaration.interfaces.map (.fresh .interfaceType) }

end TypeDeclaration

def Entry.draft (entry : Entry) : Outline := ⟨entry.declaration.draft entry.kind, entry.package⟩

/-- The outline of a declared type. -/
def Entry.outline (entry : Entry) : Outline :=
  ⟨entry.declaration.wire (entry.declaration.draft entry.kind), entry.package⟩

/-- The parent of a declared type is the fresh reference to the name that the
declaration gives. -/
theorem Entry.parent_outline (entry : Entry) :
    entry.outline.face.parent = entry.declaration.parent.map (.fresh .classType) := by
  rw [Entry.outline, TypeDeclaration.wire]
  cases entry.declaration.parent <;> rfl

/-- The references of a declared type, none of which has been followed. -/
theorem Entry.references_outline (entry : Entry) : entry.outline.face.references =
    entry.declaration.interfaces.map (.fresh .interfaceType) ++
      (entry.declaration.parent.map (TypeReference.fresh .classType)).toList := by
  rw [TypeNode.references, entry.parent_outline]
  rfl

/-- Declared references have not been followed. -/
theorem Entry.memo_eq_none {entry : Entry} {reference : TypeReference}
    (h : reference ∈ entry.outline.face.references) : reference.memo = none := by
  rw [Entry.references_outline, List.mem_append, List.mem_map, Option.mem_toList,
    Option.map_eq_some_iff] at h
  obtain ⟨name, -, rfl⟩ | ⟨name, -, rfl⟩ := h <;> rfl

def MissingType.outline (missing : MissingType) : Outline :=
  ⟨.bare ⟨0⟩ 0 (unrooted missing.name) missing.kind, namespaceOf (unrooted missing.name)⟩

namespace Model

variable {model : Model} {outlines : List Outline}

/-! ## Steps -/

/-- The model with one more type, which points at a package and is listed last
in it. -/
def fileType (model : Model) (package : PackageId) (node : TypeNode) : Model :=
  { model with
    types := model.types.push { node with package := some package }
    packages := model.packages.modify package.index (·.pushType ⟨model.types.size⟩)
    symbols := model.symbols.declare node.name ⟨model.types.size⟩ }

/-- The model with one more declared type and its members. -/
def draftType (model : Model) (package : PackageId) (kind : TypeKind)
    (declaration : TypeDeclaration) : Model :=
  let ty : TypeId := ⟨model.types.size⟩
  let first := model.members.size
  { model.fileType package (declaration.draftNode kind ty model.origin first) with
    members := model.members ++ (declaration.draftMembers ty model.origin first).toArray }

/-- The model with one more declared function. -/
def draftFunction (model : Model) (package : PackageId) (name : String) : Model :=
  let function : FunctionId := ⟨model.functions.size⟩
  { model with
    functions := model.functions.push ⟨function, model.origin, name, some package⟩
    packages := model.packages.modify package.index (·.pushFunction function) }

/-- The model with everything that is declared in one mention of a package. -/
def draftPackage (model : Model) (declaration : PackageDeclaration) : Model :=
  let (package, model) := model.addPackage declaration.name
  let model := declaration.classes.foldl (draftType · package .classType ·) model
  let model := declaration.interfaces.foldl (draftType · package .interfaceType ·) model
  declaration.functions.foldl (draftFunction · package ·) model

/-- The model in which the declared references are attached to the types from
the handle with index `first` on. -/
def wireTypes (model : Model) : Nat → List Entry → Model
  | _, [] => model
  | first, entry :: entries =>
    (model.modifyType ⟨first⟩ entry.declaration.wire).wireTypes (first + 1) entries

/-- The model with one more type that is not declared. -/
def addMissing (model : Model) (missing : MissingType) : Model :=
  let name := unrooted missing.name
  let (package, model) := model.addPackage (namespaceOf name)
  model.fileType package (.bare ⟨model.types.size⟩ model.origin name missing.kind)

/-- Wiring the types adds no package. -/
theorem packageNames_wireTypes (first : Nat) (entries : List Entry) :
    (model.wireTypes first entries).packageNames = model.packageNames := by
  induction entries generalizing model first with
  | nil => rfl
  | cons entry entries ih => exact ih (first + 1)

section

variable (model : Model) (package : PackageId) (node : TypeNode)

/-- The type that is filed is the only new one. -/
theorem type?_fileType (ty : TypeId) : (model.fileType package node).type? ty =
    if ty.index = model.types.size then some { node with package := some package }
    else model.type? ty := by
  rw [type?, type?, fileType, Array.getElem?_push]

/-- Only the new type points at the package. -/
theorem packageOf_fileType (ty : TypeId) : (model.fileType package node).packageOf ty =
    if ty.index = model.types.size then some package else model.packageOf ty := by
  rw [packageOf, packageOf, type?_fileType]
  split <;> rfl

/-- Filing a type adds no package. -/
theorem packageNames_fileType : (model.fileType package node).packageNames = model.packageNames :=
  packageNames_modifyPackage model package fun _ => rfl

variable {model package}

/-- The package lists the new type behind those that it has listed before. -/
theorem typesIn_fileType (hpackage : (model.package? package).isSome) (other : PackageId) :
    (model.fileType package node).typesIn other =
      model.typesIn other ++ if package = other then [⟨model.types.size⟩] else [] := by
  have hother : (model.fileType package node).package? other =
      (model.modifyPackage package (·.pushType ⟨model.types.size⟩)).package? other := rfl
  rw [typesIn, typesIn, hother, package?_modifyPackage]
  cases hfound : model.package? other with
  | none =>
      have hne : package ≠ other := fun heq => by simp [heq, hfound] at hpackage
      simp [hne]
  | some node => by_cases heq : package = other <;> simp [heq, Package.pushType]

end

/-- What points at a package, once there is one entity more. -/
theorem filter_pointing_succ {ι : Type} {mk : Nat → ι} {pointer pointer' : ι → Option PackageId}
    {size : Nat} {package : PackageId} (hold : ∀ i < size, pointer' (mk i) = pointer (mk i))
    (hlast : pointer' (mk size) = some package) (other : PackageId) :
    ((List.range (size + 1)).map mk).filter (pointer' · == some other) =
      ((List.range size).map mk).filter (pointer · == some other) ++
        if package = other then [mk size] else [] := by
  have hfirst : ((List.range size).map mk).filter (pointer' · == some other) =
      ((List.range size).map mk).filter (pointer · == some other) := by
    refine List.filter_congr fun x hx => ?_
    obtain ⟨i, hi, rfl⟩ := List.mem_map.1 hx
    rw [hold i (List.mem_range.1 hi)]
  rw [List.range_succ, List.map_append, List.filter_append, hfirst]
  simp only [List.map_cons, List.map_nil, List.filter_cons, hlast]
  by_cases heq : package = other <;> simp [heq]

/-! ## What is read off -/

/-- The model has exactly the outlined types, each in the package that its
outline names, and packages list them in the order of creation. -/
structure Depicts (model : Model) (outlines : List Outline) : Prop where
  face : ∀ ty, (model.type? ty).map (·.face) = outlines[ty.index]?.map (·.face)
  package : ∀ ty outline, outlines[ty.index]? = some outline →
    ∃ package, model.packageOf ty = some package ∧
      model.packageNames[package.index]? = some outline.package
  listed : ∀ package, model.typesIn package =
    ((List.range outlines.length).map TypeId.mk).filter (model.packageOf · == some package)
  named : model.PackagesNamed

namespace Depicts

theorem empty (origin : Nat) (filters : Filters) : (Model.empty origin filters).Depicts [] where
  face ty := by simp [Model.empty, type?]
  package ty outline h := by simp at h
  listed package := by simp [Model.empty, typesIn, package?]
  named := .empty origin filters

/-- As many types as outlines. -/
theorem size_eq (h : model.Depicts outlines) : model.types.size = outlines.length := by
  have hiff (i : Nat) : i < model.types.size ↔ i < outlines.length := by
    have hface := congrArg Option.isSome (h.face ⟨i⟩)
    rw [Option.isSome_map, Option.isSome_map, type?, Bool.eq_iff_iff] at hface
    simpa using hface
  have hle := (hiff outlines.length).not.2 (Nat.lt_irrefl _)
  have hge := (hiff model.types.size).not.1 (Nat.lt_irrefl _)
  omega

/-- The types have the names of their outlines, in the same order. -/
theorem typeNames_eq (h : model.Depicts outlines) :
    model.typeNames = outlines.map (·.face.name) := by
  apply List.ext_getElem?
  intro i
  have hname := congrArg (Option.map TypeNode.name) (h.face ⟨i⟩)
  rw [Option.map_map, Option.map_map] at hname
  rw [getElem?_typeNames, List.getElem?_map]
  exact hname

/-- A type points at the package that its outline names and at no other one. -/
theorem packageOf_eq_some_iff (h : model.Depicts outlines) {ty : TypeId} {package : PackageId} :
    model.packageOf ty = some package ↔
      ∃ outline, outlines[ty.index]? = some outline ∧
        model.packageNames[package.index]? = some outline.package := by
  constructor
  · intro hpointer
    obtain ⟨node, hnode, -⟩ := Option.bind_eq_some_iff.1 hpointer
    have hface := h.face ty
    rw [hnode, Option.map_some, eq_comm, Option.map_eq_some_iff] at hface
    obtain ⟨outline, houtline, -⟩ := hface
    obtain ⟨other, hother, hname⟩ := h.package ty outline houtline
    obtain rfl : package = other := Option.some_inj.1 (hpointer.symm.trans hother)
    exact ⟨outline, houtline, hname⟩
  · rintro ⟨outline, houtline, hname⟩
    obtain ⟨other, hother, hname'⟩ := h.package ty outline houtline
    rw [← h.named.findPackage_iff] at hname hname'
    rw [hother, Option.some_inj]
    exact Option.some_inj.1 (hname'.symm.trans hname)

/-- The types are the outlined ones, each in the package of its outline. -/
theorem forall₂ (h : model.Depicts outlines) :
    List.Forall₂ (fun outline node => node.face = outline.face ∧
      ∃ package, node.package = some package ∧
        model.packageNames[package.index]? = some outline.package) outlines model.types.toList := by
  have hlength : outlines.length = model.types.toList.length := by simp [h.size_eq]
  refine List.forall₂_iff_get.2 ⟨hlength, fun i hi hi' => ?_⟩
  have hnode : model.type? ⟨i⟩ = some model.types.toList[i] := by
    rw [type?, ← Array.getElem?_toList, List.getElem?_eq_getElem hi']
  have houtline : outlines[i]? = some outlines[i] := List.getElem?_eq_getElem hi
  have hface := h.face ⟨i⟩
  rw [hnode, houtline, Option.map_some, Option.map_some, Option.some_inj] at hface
  obtain ⟨package, hpointer, hname⟩ := h.package ⟨i⟩ _ houtline
  rw [packageOf, hnode, Option.bind_some] at hpointer
  exact ⟨hface, package, hpointer, hname⟩

/-- A package lists the types that point at it. -/
theorem mem_typesIn_iff (h : model.Depicts outlines) {ty : TypeId} {package : PackageId} :
    ty ∈ model.typesIn package ↔ model.packageOf ty = some package := by
  rw [h.listed, List.mem_filter, beq_iff_eq, and_iff_right_iff_imp]
  intro hpointer
  obtain ⟨outline, houtline, -⟩ := h.packageOf_eq_some_iff.1 hpointer
  exact List.mem_map_of_mem (List.mem_range.2 (List.getElem?_eq_some_iff.1 houtline).1)

/-- The references of a type are those of its outline. -/
theorem dependencies_eq (h : model.Depicts outlines) (ty : TypeId) :
    model.dependencies ty = ((outlines[ty.index]?.map (·.face.references)).getD []) := by
  have hface := congrArg (Option.map TypeNode.references) (h.face ty)
  rw [Option.map_map, Option.map_map] at hface
  rw [dependencies]
  cases hnode : model.type? ty with
  | none =>
      rw [hnode, Option.map_none, eq_comm, Option.map_eq_none_iff] at hface
      simp [hface]
  | some node =>
      rw [hnode, Option.map_some, eq_comm, Option.map_eq_some_iff] at hface
      obtain ⟨outline, houtline, hreferences⟩ := hface
      simp only [houtline, Option.map_some, Option.getD_some]
      exact hreferences.symm

/-- A change that keeps types, packages and names apart from members and
functions. -/
theorem of_keeps {after : Model} (h : model.Depicts outlines) (htypes : after.types = model.types)
    (hfiling : model.KeepsFiling after) (hnames : after.packageNames = model.packageNames)
    (hindex : after.packageIndex = model.packageIndex) : after.Depicts outlines where
  face ty := by
    rw [type?, htypes]
    exact h.face ty
  package ty outline houtline := by
    rw [hfiling.packageOf, hnames]
    exact h.package ty outline houtline
  listed package := by
    rw [hfiling.typesIn, h.listed]
    simp only [hfiling.packageOf]
  named := h.named.of_eq hnames hindex

/-! ### One step -/

/-- One more package, if it is new: the types are the same. -/
theorem addPackage (h : model.Depicts outlines) (name : String) :
    (model.addPackage name).2.Depicts outlines := by
  have hnames := h.named.packageNames_addPackage name
  have hfiling : model.KeepsFiling (model.addPackage name).2 := .addPackage model name
  constructor
  · intro ty
    rw [type?, types_addPackage]
    exact h.face ty
  · intro ty outline houtline
    obtain ⟨package, hpackage, hname⟩ := h.package ty outline houtline
    refine ⟨package, (hfiling.packageOf ty).trans hpackage, ?_⟩
    rw [hnames]
    split
    · exact hname
    · rw [List.getElem?_append_left (List.getElem?_eq_some_iff.1 hname).1]
      exact hname
  · intro package
    rw [hfiling.typesIn, h.listed]
    simp only [hfiling.packageOf]
  · exact h.named.addPackage name

theorem fileType (h : model.Depicts outlines) {package : PackageId} {name : String}
    (hpackage : model.packageNames[package.index]? = some name) (node : TypeNode) :
    (model.fileType package node).Depicts (outlines ++ [⟨node.face, name⟩]) := by
  have hnames := model.packageNames_fileType package node
  constructor
  · intro ty
    rw [type?_fileType, h.size_eq, List.getElem?_append, List.getElem?_singleton]
    by_cases hlast : ty.index = outlines.length
    · rw [if_pos hlast]
      simp [hlast, TypeNode.face, TypeNode.bare]
    · rw [if_neg hlast, h.face]
      by_cases hlt : ty.index < outlines.length
      · rw [if_pos hlt]
      · rw [if_neg hlt, if_neg (by omega), List.getElem?_eq_none (by omega)]
  · intro ty outline houtline
    rw [packageOf_fileType, hnames, h.size_eq]
    rw [List.getElem?_append, List.getElem?_singleton] at houtline
    by_cases hlast : ty.index = outlines.length
    · rw [if_pos hlast]
      simp only [hlast, Nat.lt_irrefl, if_false, Nat.sub_self, if_true, Option.some_inj] at houtline
      exact ⟨package, rfl, by rw [hpackage, ← houtline]⟩
    · rw [if_neg hlast]
      refine h.package ty outline ?_
      by_cases hlt : ty.index < outlines.length
      · rwa [if_pos hlt] at houtline
      · rw [if_neg hlt, if_neg (by omega)] at houtline
        contradiction
  · intro other
    have hsome : (model.package? package).isSome := by
      rw [getElem?_packageNames, Option.map_eq_some_iff] at hpackage
      obtain ⟨found, hfound, -⟩ := hpackage
      exact Option.isSome_of_eq_some hfound
    have hold : ∀ i < outlines.length,
        (model.fileType package node).packageOf ⟨i⟩ = model.packageOf ⟨i⟩ := by
      intro i hi
      rw [packageOf_fileType, h.size_eq, if_neg (Nat.ne_of_lt hi)]
    have hlast : (model.fileType package node).packageOf ⟨outlines.length⟩ = some package := by
      rw [packageOf_fileType, h.size_eq, if_pos rfl]
    rw [typesIn_fileType node hsome, h.listed, h.size_eq, List.length_append,
      List.length_singleton]
    exact (filter_pointing_succ hold hlast other).symm
  · exact h.named.of_eq hnames rfl

theorem modifyType (h : model.Depicts outlines) (i : Nat) {change : TypeNode → TypeNode}
    (hpackage : ∀ node, (change node).package = node.package)
    (hface : ∀ node, (change node).face = change node.face) :
    (model.modifyType ⟨i⟩ change).Depicts
      (outlines.modify i fun outline => { outline with face := change outline.face }) := by
  have hfiling : model.KeepsFiling (model.modifyType ⟨i⟩ change) :=
    .of_view rfl (.modifyType model _ hpackage)
  constructor
  · intro ty
    have hty : TypeId.mk i = ty ↔ i = ty.index := by
      rw [← TypeId.mk.injEq]
    rw [type?_modifyType, List.getElem?_modify]
    by_cases hi : i = ty.index
    · have hsame := congrArg (Option.map change) (h.face ty)
      rw [Option.map_map, Option.map_map] at hsame
      simpa [hty, hi, Function.comp_def, hface] using hsame
    · simpa [hty, hi] using h.face ty
  · intro ty outline houtline
    rw [hfiling.packageOf]
    rw [List.getElem?_modify] at houtline
    obtain ⟨before, hbefore, rfl⟩ := Option.map_eq_some_iff.1 houtline
    obtain ⟨package, hpointer, hname⟩ := h.package ty before hbefore
    refine ⟨package, hpointer, hname.trans ?_⟩
    split <;> rfl
  · intro package
    rw [hfiling.typesIn, h.listed, List.length_modify]
    simp only [hfiling.packageOf]
  · exact h.named.of_eq rfl rfl

/-! ### Phases -/

/-- The types of one kind that a package declares, one after another. -/
theorem foldl_draftType (h : model.Depicts outlines) {package : PackageId} {name : String}
    (hpackage : model.packageNames[package.index]? = some name) (kind : TypeKind)
    (declarations : List TypeDeclaration) :
    (declarations.foldl (draftType · package kind ·) model).Depicts
        (outlines ++ declarations.map fun declaration =>
          (⟨name, kind, declaration⟩ : Entry).draft) ∧
      (declarations.foldl (draftType · package kind ·) model).packageNames =
        model.packageNames := by
  induction declarations generalizing model outlines with
  | nil => simpa using h
  | cons declaration declarations ih =>
      have hnames : (model.draftType package kind declaration).packageNames =
          model.packageNames :=
        packageNames_modifyPackage model package fun _ => rfl
      have hfiled := h.fileType hpackage
        (declaration.draftNode kind ⟨model.types.size⟩ model.origin model.members.size)
      have hdraft : (model.draftType package kind declaration).Depicts
          (outlines ++ [(⟨name, kind, declaration⟩ : Entry).draft]) :=
        hfiled.of_keeps rfl (.of_types_eq rfl rfl) rfl rfl
      obtain ⟨hrest, hkept⟩ := ih hdraft (hnames ▸ hpackage)
      rw [List.append_assoc, List.singleton_append] at hrest
      exact ⟨hrest, hkept.trans hnames⟩

/-- Functions change neither the types nor the names of the packages. -/
theorem foldl_draftFunction (h : model.Depicts outlines) (package : PackageId)
    (names : List String) :
    (names.foldl (draftFunction · package ·) model).Depicts outlines ∧
      (names.foldl (draftFunction · package ·) model).packageNames = model.packageNames := by
  induction names generalizing model with
  | nil => exact ⟨h, rfl⟩
  | cons name names ih =>
      let push := (Package.pushFunction · ⟨model.functions.size⟩)
      have hlist : model.KeepsFiling (model.modifyPackage package push) :=
        .modifyPackage model package fun _ => rfl
      have hnames : (model.modifyPackage package push).packageNames = model.packageNames :=
        packageNames_modifyPackage model package fun _ => rfl
      have hdraft : (model.draftFunction package name).Depicts outlines :=
        h.of_keeps rfl (hlist.trans (.of_types_eq rfl rfl)) hnames rfl
      obtain ⟨hrest, hkept⟩ := ih hdraft
      exact ⟨hrest, hkept.trans hnames⟩

/-- A package with all that it declares. -/
theorem draftPackage (h : model.Depicts outlines) (declaration : PackageDeclaration) :
    (model.draftPackage declaration).Depicts
        (outlines ++ declaration.entries.map Entry.draft) ∧
      (model.draftPackage declaration).packageNames =
        (model.addPackage declaration.name).2.packageNames := by
  have hname := h.named.getElem?_addPackage declaration.name
  obtain ⟨hclasses, hnames⟩ :=
    (h.addPackage declaration.name).foldl_draftType hname .classType declaration.classes
  obtain ⟨hinterfaces, hnames'⟩ :=
    hclasses.foldl_draftType (hnames ▸ hname) .interfaceType declaration.interfaces
  obtain ⟨hfunctions, hnames''⟩ :=
    hinterfaces.foldl_draftFunction (model.addPackage declaration.name).1 declaration.functions
  rw [PackageDeclaration.entries, List.map_append, List.map_map, List.map_map, ← List.append_assoc]
  exact ⟨hfunctions, hnames''.trans (hnames'.trans hnames)⟩

theorem foldl_draftPackage (h : model.Depicts outlines) (packages : List PackageDeclaration) :
    (packages.foldl Model.draftPackage model).Depicts
      (outlines ++ (packages.flatMap (·.entries)).map Entry.draft) := by
  induction packages generalizing model outlines with
  | nil => simpa using h
  | cons declaration packages ih =>
      rw [List.flatMap_cons, List.map_append, ← List.append_assoc]
      exact ih (h.draftPackage declaration).1

theorem wire {done rest : List Outline} {entry : Entry}
    (h : model.Depicts (done ++ entry.draft :: rest)) :
    (model.modifyType ⟨done.length⟩ entry.declaration.wire).Depicts
      (done ++ [entry.outline] ++ rest) := by
  have hwired := h.modifyType done.length
    (fun node => (rfl : (entry.declaration.wire node).package = node.package)) fun _ => rfl
  have hfirst : (done ++ entry.draft :: rest).modify done.length
      (fun outline => { outline with face := entry.declaration.wire outline.face }) =
        done ++ [entry.outline] ++ rest := by
    simp [List.modify_eq_take_cons_drop, Entry.outline, Entry.draft]
  rwa [hfirst] at hwired

theorem wireTypes {done : List Outline} {entries : List Entry}
    (h : model.Depicts (done ++ entries.map Entry.draft)) :
    (model.wireTypes done.length entries).Depicts (done ++ entries.map Entry.outline) := by
  induction entries generalizing model done with
  | nil => exact h
  | cons entry entries ih =>
      have hrest := ih h.wire
      rw [List.length_append, List.append_assoc] at hrest
      exact hrest

theorem addMissing (h : model.Depicts outlines) (missing : MissingType) :
    (model.addMissing missing).Depicts (outlines ++ [missing.outline]) :=
  (h.addPackage _).fileType (h.named.getElem?_addPackage _) _

/-- Packages for missing types come after those that are there. -/
theorem packageNames_addMissing (h : model.Depicts outlines) (missing : MissingType) :
    model.packageNames <+: (model.addMissing missing).packageNames := by
  have hnames : (model.addMissing missing).packageNames =
      (model.addPackage (namespaceOf (unrooted missing.name))).2.packageNames :=
    packageNames_modifyPackage _ _ fun _ => rfl
  rw [hnames, h.named.packageNames_addPackage]
  split
  · exact List.prefix_rfl
  · exact List.prefix_append _ _

/-- Types for all missing names: the packages that were there keep their handles. -/
theorem foldl_addMissing (h : model.Depicts outlines) (missing : List MissingType) :
    (missing.foldl Model.addMissing model).Depicts
        (outlines ++ missing.map MissingType.outline) ∧
      model.packageNames <+: (missing.foldl Model.addMissing model).packageNames := by
  induction missing generalizing model outlines with
  | nil => exact ⟨by simpa using h, List.prefix_rfl⟩
  | cons first missing ih =>
      obtain ⟨hrest, hnames⟩ := ih (h.addMissing first)
      rw [List.append_assoc, List.singleton_append] at hrest
      exact ⟨hrest, (h.packageNames_addMissing first).trans hnames⟩

end Depicts

end Model

end TypeGraph
