import TypeGraph.Proofs.BuildOutcome
import TypeGraph.Proofs.PackageIndex

/-!
# TypeGraph.Proofs.Roster

Who is in a model that follows the blueprint, besides its types:

1. `Model.Staffed` — the members are those that are declared, and each is listed
   once, by the type that declares it;
2. `Model.Serving` — the functions are those that are declared, and each is listed
   by the package that declares it, in the order of creation.

Each step of the blueprint has its lemma for both; `Model.staffed_wired` and
`Model.serving_wired` follow.
-/

namespace TypeGraph

/-! ## Lists of declared things -/

/-- A declared function with the package that it is declared in. -/
structure FunctionEntry where
  package : String
  name : String
  deriving DecidableEq, Repr

/-- The declared functions of one mention of a package, in the order of creation. -/
def PackageDeclaration.functionEntries (declaration : PackageDeclaration) : List FunctionEntry :=
  declaration.functions.map (⟨declaration.name, ·⟩)

/-- The declared functions, in the order of creation. -/
def Declarations.functionEntries (declarations : Declarations) : List FunctionEntry :=
  declarations.packages.flatMap (·.functionEntries)

/-- The members that a type lists, methods first. -/
def TypeNode.held (node : TypeNode) : List MemberId := node.methods ++ node.constants

/-- The handle of a type and its lists of members. -/
def TypeNode.staff (node : TypeNode) : TypeId × List MemberId × List MemberId :=
  (node.id, node.methods, node.constants)

/-- A relation that reads its right side through a view does not tell lists apart
that look the same. -/
theorem forall₂_of_map_eq {α β γ : Type} {related : α → β → Prop} {view : β → γ} {list : List α}
    {seen seen' : List β} (h : List.Forall₂ related list seen)
    (hrelated : ∀ a b b', view b' = view b → related a b → related a b')
    (hview : seen'.map view = seen.map view) : List.Forall₂ related list seen' := by
  induction h generalizing seen' with
  | nil => simp_all
  | cons hhead _ ih =>
      obtain ⟨b, rest, rfl, hb, hrest⟩ := List.map_eq_cons_iff.1 hview
      exact .cons (hrelated _ _ _ hb hhead) (ih hrest)

/-- Elements related to what is made of their numbers. -/
theorem forall₂_zipIdx {α β : Type} {related : α → β → Prop} {mk : Nat → β} (list : List α)
    (first : Nat) (h : ∀ i a, list[i]? = some a → related a (mk (first + i))) :
    List.Forall₂ related list ((list.zipIdx first).map fun (_, number) => mk number) := by
  induction list generalizing first with
  | nil => exact .nil
  | cons a list ih =>
      refine .cons (h 0 a rfl) (ih (first + 1) fun i b hb => ?_)
      have hrest := h (i + 1) b hb
      rwa [Nat.add_comm i 1, ← Nat.add_assoc] at hrest

/-- Numbers in a row. -/
theorem map_zipIdx_number {α β : Type} (mk : Nat → β) (list : List α) (first : Nat) :
    ((list.zipIdx first).map fun (_, number) => mk number) =
      (List.range' first list.length).map mk := by
  rw [← List.zipIdx_map_snd, List.map_map]
  rfl

namespace TypeDeclaration

variable (declaration : TypeDeclaration) (kind : TypeKind) (ty : TypeId) (origin first : Nat)

/-- A declaration drafts its methods and its constants. -/
theorem length_draftMembers : (declaration.draftMembers ty origin first).length =
    declaration.methods.length + declaration.constants.length := by
  simp [draftMembers]

/-- The drafted type lists them all, in a row. -/
theorem held_draftNode : (declaration.draftNode kind ty origin first).held =
    (List.range' first (declaration.methods.length + declaration.constants.length)).map
      MemberId.mk := by
  rw [TypeNode.held, draftNode, map_zipIdx_number, map_zipIdx_number, ← List.map_append,
    List.range'_append_1]

/-- The methods come first. -/
theorem getElem?_draftMembers_method {i : Nat} {method : MethodDeclaration}
    (h : declaration.methods[i]? = some method) :
    (declaration.draftMembers ty origin first)[i]? =
      some (MethodDeclaration.draft ty origin (method, first + i)) := by
  obtain ⟨hi, -⟩ := List.getElem?_eq_some_iff.1 h
  rw [draftMembers, List.getElem?_append_left (by simpa using hi), List.getElem?_map,
    List.getElem?_zipIdx, h]
  rfl

/-- The constants come behind the methods. -/
theorem getElem?_draftMembers_constant {i : Nat} {constant : ConstantDeclaration}
    (h : declaration.constants[i]? = some constant) :
    (declaration.draftMembers ty origin first)[declaration.methods.length + i]? =
      some (ConstantDeclaration.draft ty origin
        (constant, first + declaration.methods.length + i)) := by
  rw [draftMembers, List.getElem?_append_right (by simp), List.getElem?_map,
    List.getElem?_zipIdx]
  simp [h]

end TypeDeclaration

namespace Model

variable {model : Model} {types : List TypeDeclaration} {functions : List FunctionEntry}

/-! ## Members -/

/-- The type lists the declared members in order, and no others. -/
structure Staffs (model : Model) (declaration : TypeDeclaration) (node : TypeNode) : Prop where
  methods : List.Forall₂ (fun method id => model.member? id =
    some (MethodDeclaration.draft node.id model.origin (method, id.index)))
    declaration.methods node.methods
  constants : List.Forall₂ (fun constant id => model.member? id =
    some (ConstantDeclaration.draft node.id model.origin (constant, id.index)))
    declaration.constants node.constants

/-- The types list the declared members in order, and the lists together have every
member of the model once. -/
structure Staffed (model : Model) (types : List TypeDeclaration) : Prop where
  staffs : List.Forall₂ model.Staffs types model.types.toList
  held : model.types.toList.flatMap (·.held) = (List.range model.members.size).map MemberId.mk

/-- The member lists of a type stay right as long as members keep their places. -/
theorem Staffs.mono {declaration : TypeDeclaration} {node : TypeNode} {after : Model}
    (h : model.Staffs declaration node) (horigin : after.origin = model.origin)
    (hmembers : ∀ id member, model.member? id = some member → after.member? id = some member) :
    after.Staffs declaration node where
  methods := by
    rw [horigin]
    exact h.methods.imp fun _ _ => hmembers _ _
  constants := by
    rw [horigin]
    exact h.constants.imp fun _ _ => hmembers _ _

section

variable (package : PackageId) (kind : TypeKind) (declaration : TypeDeclaration)

/-- The members that were there keep their handles, and the drafted ones follow. -/
theorem member?_draftType (id : MemberId) : (model.draftType package kind declaration).member? id =
    if id.index < model.members.size then model.member? id
    else (declaration.draftMembers ⟨model.types.size⟩ model.origin
      model.members.size)[id.index - model.members.size]? := by
  simp [draftType, member?, Array.getElem?_append]

/-- The drafted type is the last one. -/
theorem toList_types_draftType : (model.draftType package kind declaration).types.toList =
    model.types.toList ++ [{ declaration.draftNode kind ⟨model.types.size⟩ model.origin
      model.members.size with package := some package }] := by
  simp [draftType, fileType]

/-- There are as many members more as are declared. -/
theorem size_members_draftType : (model.draftType package kind declaration).members.size =
    model.members.size + (declaration.methods.length + declaration.constants.length) := by
  simp [draftType, TypeDeclaration.length_draftMembers]

/-- The drafted type has what it declares, each member under its handle. -/
theorem staffs_draftType : (model.draftType package kind declaration).Staffs declaration
    { declaration.draftNode kind ⟨model.types.size⟩ model.origin model.members.size with
      package := some package } where
  methods := by
    refine forall₂_zipIdx declaration.methods model.members.size fun i method hmethod => ?_
    rw [member?_draftType, if_neg (by simp), Nat.add_sub_cancel_left]
    exact declaration.getElem?_draftMembers_method _ _ _ hmethod
  constants := by
    refine forall₂_zipIdx declaration.constants
      (model.members.size + declaration.methods.length) fun i constant hconstant => ?_
    have hplace : model.members.size + declaration.methods.length + i - model.members.size =
        declaration.methods.length + i := by omega
    rw [member?_draftType, if_neg (by dsimp only; omega), hplace]
    exact declaration.getElem?_draftMembers_constant _ _ _ hconstant

end

namespace Staffed

theorem empty (origin : Nat) (filters : Filters) : (Model.empty origin filters).Staffed [] where
  staffs := .nil
  held := rfl

/-- A change that leaves members and the types' lists of them alone. -/
theorem of_view {after : Model} (h : model.Staffed types) (horigin : after.origin = model.origin)
    (hmembers : after.members = model.members) (hview : model.KeepsView TypeNode.staff after) :
    after.Staffed types := by
  have hkept (id : MemberId) (member : Member) (hmember : model.member? id = some member) :
      after.member? id = some member := by
    rwa [member?, hmembers]
  have hsame (declaration : TypeDeclaration) (node node' : TypeNode)
      (hstaff : node'.staff = node.staff) (hstaffs : model.Staffs declaration node) :
      model.Staffs declaration node' := by
    obtain ⟨hid, hmethods, hconstants⟩ : node'.id = node.id ∧ node'.methods = node.methods ∧
        node'.constants = node.constants := by simpa [TypeNode.staff] using hstaff
    constructor
    · rw [hid, hmethods]
      exact hstaffs.methods
    · rw [hid, hconstants]
      exact hstaffs.constants
  have hheld := congrArg (List.flatMap fun staff => staff.2.1 ++ staff.2.2) hview.map_eq
  rw [List.flatMap_map, List.flatMap_map] at hheld
  constructor
  · have hstaffs := forall₂_of_map_eq h.staffs hsame hview.map_eq
    exact hstaffs.imp fun _ _ hstaffs => hstaffs.mono horigin hkept
  · rw [hmembers, ← h.held]
    exact hheld

theorem addPackage (h : model.Staffed types) (name : String) :
    (model.addPackage name).2.Staffed types := by
  unfold Model.addPackage
  cases model.findPackage name <;> exact h.of_view rfl rfl (.of_types_eq rfl)

theorem draftFunction (h : model.Staffed types) (package : PackageId) (name : String) :
    (model.draftFunction package name).Staffed types :=
  h.of_view rfl rfl (.of_types_eq rfl)

theorem draftType (h : model.Staffed types) (package : PackageId) (kind : TypeKind)
    (declaration : TypeDeclaration) :
    (model.draftType package kind declaration).Staffed (types ++ [declaration]) := by
  have hkept (id : MemberId) (member : Member) (hmember : model.member? id = some member) :
      (model.draftType package kind declaration).member? id = some member := by
    obtain ⟨hlt, -⟩ := Array.getElem?_eq_some_iff.1 hmember
    rw [member?_draftType, if_pos hlt, hmember]
  constructor
  · rw [toList_types_draftType]
    refine List.rel_append (h.staffs.imp fun _ _ hstaffs => hstaffs.mono rfl hkept) ?_
    exact .cons (staffs_draftType package kind declaration) .nil
  · have hnew := declaration.held_draftNode kind ⟨model.types.size⟩ model.origin model.members.size
    rw [toList_types_draftType, size_members_draftType, List.flatMap_append, h.held,
      List.flatMap_singleton]
    refine (congrArg (_ ++ ·) hnew).trans ?_
    have hrange := List.range'_append_1 (s := 0) (m := model.members.size)
      (n := declaration.methods.length + declaration.constants.length)
    rw [← List.map_append, List.range_eq_range', List.range_eq_range', ← hrange, Nat.zero_add]

theorem foldl_draftType (h : model.Staffed types) (package : PackageId) (kind : TypeKind)
    (declarations : List TypeDeclaration) :
    (declarations.foldl (Model.draftType · package kind ·) model).Staffed
      (types ++ declarations) := by
  induction declarations generalizing model types with
  | nil => simpa using h
  | cons declaration declarations ih =>
      have hrest := ih (h.draftType package kind declaration)
      rwa [List.append_assoc, List.singleton_append] at hrest

theorem foldl_draftFunction (h : model.Staffed types) (package : PackageId)
    (names : List String) :
    (names.foldl (Model.draftFunction · package ·) model).Staffed types := by
  induction names generalizing model with
  | nil => exact h
  | cons name names ih => exact ih (h.draftFunction package name)

/-- A drafted package comes with its types. -/
theorem draftPackage (h : model.Staffed types) (declaration : PackageDeclaration) :
    (model.draftPackage declaration).Staffed
      (types ++ declaration.entries.map (·.declaration)) := by
  have hdrafted := (((h.addPackage declaration.name).foldl_draftType
    (model.addPackage declaration.name).1 .classType declaration.classes).foldl_draftType
      (model.addPackage declaration.name).1 .interfaceType declaration.interfaces)
  rw [List.append_assoc] at hdrafted
  have hentries : declaration.entries.map (·.declaration) =
      declaration.classes ++ declaration.interfaces := by
    simp [PackageDeclaration.entries, Function.comp_def]
  rw [hentries]
  exact hdrafted.foldl_draftFunction _ declaration.functions

theorem foldl_draftPackage (h : model.Staffed types) (packages : List PackageDeclaration) :
    (packages.foldl Model.draftPackage model).Staffed
      (types ++ (packages.flatMap (·.entries)).map (·.declaration)) := by
  induction packages generalizing model types with
  | nil => simpa using h
  | cons declaration packages ih =>
      rw [List.flatMap_cons, List.map_append, ← List.append_assoc]
      exact ih (h.draftPackage declaration)

theorem wireTypes (h : model.Staffed types) (first : Nat) (entries : List Entry) :
    (model.wireTypes first entries).Staffed types := by
  induction entries generalizing model first with
  | nil => exact h
  | cons entry entries ih =>
      have hview : model.KeepsView TypeNode.staff
          (model.modifyType ⟨first⟩ entry.declaration.wire) := .modifyType model _ fun _ => rfl
      have hwired : (model.modifyType ⟨first⟩ entry.declaration.wire).Staffed types :=
        h.of_view rfl rfl hview
      exact ih hwired (first + 1)

end Staffed

/-! ## Functions -/

/-- The function is the declared one and points at the package that declares it. -/
structure Serves (model : Model) (entry : FunctionEntry) (node : FunctionNode) : Prop where
  name : node.name = entry.name
  package : ∃ package, node.package = some package ∧
    model.packageNames[package.index]? = some entry.package

/-- The functions are the declared ones, packages list them in the order of creation,
and every package is where its handle says. -/
structure Serving (model : Model) (functions : List FunctionEntry) : Prop where
  serves : List.Forall₂ model.Serves functions model.functions.toList
  listed : ∀ package, model.functionsIn package =
    ((List.range functions.length).map FunctionId.mk).filter
      (model.packageOfFunction · == some package)
  numbered : ∀ package node, model.package? package = some node → node.id = package

/-- Packages are only ever added behind those that are there. -/
theorem packageNames_prefix_addPackage (model : Model) (name : String) :
    model.packageNames <+: (model.addPackage name).2.packageNames := by
  unfold addPackage
  cases model.findPackage name with
  | some package => exact List.prefix_rfl
  | none => simp [packageNames]

/-- A declared function stays one as long as packages keep their names. -/
theorem Serves.mono {entry : FunctionEntry} {node : FunctionNode} {after : Model}
    (h : model.Serves entry node) (hnames : model.packageNames <+: after.packageNames) :
    after.Serves entry node where
  name := h.name
  package := by
    obtain ⟨package, hpointer, hname⟩ := h.package
    obtain ⟨more, hmore⟩ := hnames
    obtain ⟨hlt, -⟩ := List.getElem?_eq_some_iff.1 hname
    exact ⟨package, hpointer, by rw [← hmore, List.getElem?_append_left hlt, hname]⟩

/-- The drafted function is the only new one, and it points at its package. -/
theorem packageOfFunction_draftFunction (package : PackageId) (name : String) (x : FunctionId) :
    (model.draftFunction package name).packageOfFunction x =
      if x.index = model.functions.size then some package else model.packageOfFunction x := by
  rw [packageOfFunction, packageOfFunction, function?, function?, draftFunction,
    Array.getElem?_push]
  split <;> rfl

/-- The package lists it behind those that it has listed before. -/
theorem functionsIn_draftFunction {package : PackageId}
    (hpackage : (model.package? package).isSome) (name : String) (other : PackageId) :
    (model.draftFunction package name).functionsIn other =
      model.functionsIn other ++ if package = other then [⟨model.functions.size⟩] else [] := by
  have hpush : (model.draftFunction package name).functionsIn other =
      (model.modifyPackage package (·.pushFunction ⟨model.functions.size⟩)).functionsIn other := rfl
  rw [hpush, functionsIn_modifyPackage]
  by_cases hother : package = other
  · subst hother
    obtain ⟨node, hnode⟩ := Option.isSome_iff_exists.1 hpackage
    simp [functionsIn, hnode, Package.pushFunction]
  · simp [hother]

namespace Serving

theorem empty (origin : Nat) (filters : Filters) : (Model.empty origin filters).Serving [] where
  serves := .nil
  listed package := by simp [Model.empty, functionsIn, package?]
  numbered package node h := by simp [Model.empty, package?] at h

/-- As many functions as entries. -/
theorem size_eq (h : model.Serving functions) : model.functions.size = functions.length := by
  rw [← Array.length_toList]
  exact h.serves.length_eq.symm

/-- A change that leaves functions and the packages' lists of them alone. -/
theorem of_keeps {after : Model} (h : model.Serving functions)
    (hfunctions : model.KeepsFunctions after) (hnames : model.packageNames <+: after.packageNames)
    (hnumbered : ∀ package node, after.package? package = some node → node.id = package) :
    after.Serving functions where
  serves := by
    rw [hfunctions.functions]
    exact h.serves.imp fun _ _ hserves => hserves.mono hnames
  listed package := by
    rw [hfunctions.functionsIn, h.listed]
    unfold packageOfFunction function?
    rw [hfunctions.functions]
  numbered := hnumbered

theorem inPlace (h : model.Serving functions) :
    InPlace PackageId.index Package.id model.packages := h.numbered

theorem addPackage (h : model.Serving functions) (name : String) :
    (model.addPackage name).2.Serving functions :=
  h.of_keeps (.addPackage model name) (model.packageNames_prefix_addPackage name)
    (inPlace_packages_addPackage h.inPlace name)

theorem fileType (h : model.Serving functions) (package : PackageId) (node : TypeNode) :
    (model.fileType package node).Serving functions := by
  have hlist : model.KeepsFunctions
      (model.modifyPackage package (·.pushType ⟨model.types.size⟩)) :=
    .modifyPackage model package fun _ => rfl
  have hnames := model.packageNames_fileType package node
  exact h.of_keeps ⟨rfl, hlist.functionsIn⟩ (hnames ▸ List.prefix_rfl)
    (h.inPlace.modify package.index fun _ => rfl)

theorem draftType (h : model.Serving functions) (package : PackageId) (kind : TypeKind)
    (declaration : TypeDeclaration) :
    (model.draftType package kind declaration).Serving functions := by
  have hfiled := h.fileType package
    (declaration.draftNode kind ⟨model.types.size⟩ model.origin model.members.size)
  exact hfiled.of_keeps (.of_packages_eq rfl rfl) List.prefix_rfl hfiled.numbered

theorem foldl_draftType (h : model.Serving functions) (package : PackageId) (kind : TypeKind)
    (declarations : List TypeDeclaration) :
    (declarations.foldl (Model.draftType · package kind ·) model).Serving functions := by
  induction declarations generalizing model with
  | nil => exact h
  | cons declaration declarations ih => exact ih (h.draftType package kind declaration)

theorem draftFunction (h : model.Serving functions) {package : PackageId} {owner : String}
    (hpackage : model.packageNames[package.index]? = some owner) (name : String) :
    (model.draftFunction package name).Serving (functions ++ [⟨owner, name⟩]) := by
  have hnames : (model.draftFunction package name).packageNames = model.packageNames :=
    packageNames_modifyPackage model package fun _ => rfl
  constructor
  · have hpush : (model.draftFunction package name).functions.toList = model.functions.toList ++
        [⟨⟨model.functions.size⟩, model.origin, name, some package⟩] := by
      simp [Model.draftFunction]
    have hnew : (model.draftFunction package name).Serves ⟨owner, name⟩
        ⟨⟨model.functions.size⟩, model.origin, name, some package⟩ :=
      ⟨rfl, package, rfl, hnames ▸ hpackage⟩
    have hold : List.Forall₂ (model.draftFunction package name).Serves functions
        model.functions.toList :=
      h.serves.imp fun _ _ hserves => hserves.mono (hnames ▸ List.prefix_rfl)
    rw [hpush]
    exact List.rel_append hold (.cons hnew .nil)
  · intro other
    have hsome : (model.package? package).isSome := by
      rw [getElem?_packageNames, Option.map_eq_some_iff] at hpackage
      obtain ⟨found, hfound, -⟩ := hpackage
      exact Option.isSome_of_eq_some hfound
    have hold : ∀ i < functions.length,
        (model.draftFunction package name).packageOfFunction ⟨i⟩ =
          model.packageOfFunction ⟨i⟩ := by
      intro i hi
      rw [packageOfFunction_draftFunction, h.size_eq, if_neg (Nat.ne_of_lt hi)]
    have hlast : (model.draftFunction package name).packageOfFunction ⟨functions.length⟩ =
        some package := by
      rw [packageOfFunction_draftFunction, h.size_eq, if_pos rfl]
    rw [functionsIn_draftFunction hsome, h.listed, h.size_eq, List.length_append,
      List.length_singleton]
    exact (filter_pointing_succ hold hlast other).symm
  · exact h.inPlace.modify package.index fun _ => rfl

theorem foldl_draftFunction (h : model.Serving functions) {package : PackageId} {owner : String}
    (hpackage : model.packageNames[package.index]? = some owner) (names : List String) :
    (names.foldl (Model.draftFunction · package ·) model).Serving
      (functions ++ names.map (⟨owner, ·⟩)) := by
  induction names generalizing model functions with
  | nil => simpa using h
  | cons name names ih =>
      have hnames : (model.draftFunction package name).packageNames = model.packageNames :=
        packageNames_modifyPackage model package fun _ => rfl
      have hrest := ih (h.draftFunction hpackage name) (hnames ▸ hpackage)
      rwa [List.append_assoc, List.singleton_append] at hrest

/-- A drafted package serves the functions that it declares. -/
theorem draftPackage (h : model.Serving functions) {outlines : List Outline}
    (hdepicts : model.Depicts outlines) (declaration : PackageDeclaration) :
    (model.draftPackage declaration).Serving (functions ++ declaration.functionEntries) := by
  have hname := hdepicts.named.getElem?_addPackage declaration.name
  obtain ⟨hclasses, hnames⟩ := (hdepicts.addPackage declaration.name).foldl_draftType hname
    .classType declaration.classes
  obtain ⟨-, hnames'⟩ :=
    hclasses.foldl_draftType (hnames ▸ hname) .interfaceType declaration.interfaces
  rw [← hnames, ← hnames'] at hname
  have htypes := ((h.addPackage declaration.name).foldl_draftType
    (model.addPackage declaration.name).1 .classType declaration.classes).foldl_draftType
      (model.addPackage declaration.name).1 .interfaceType declaration.interfaces
  exact htypes.foldl_draftFunction hname declaration.functions

theorem foldl_draftPackage (h : model.Serving functions) {outlines : List Outline}
    (hdepicts : model.Depicts outlines) (packages : List PackageDeclaration) :
    (packages.foldl Model.draftPackage model).Serving
      (functions ++ packages.flatMap (·.functionEntries)) := by
  induction packages generalizing model functions outlines with
  | nil => simpa using h
  | cons declaration packages ih =>
      rw [List.flatMap_cons, ← List.append_assoc]
      exact ih (h.draftPackage hdepicts declaration) (hdepicts.draftPackage declaration).1

theorem wireTypes (h : model.Serving functions) (first : Nat) (entries : List Entry) :
    (model.wireTypes first entries).Serving functions := by
  induction entries generalizing model first with
  | nil => exact h
  | cons entry entries ih =>
      have hwired : (model.modifyType ⟨first⟩ entry.declaration.wire).Serving functions :=
        h.of_keeps (.of_packages_eq rfl rfl) List.prefix_rfl h.numbered
      exact ih hwired (first + 1)

theorem foldl_addMissing (h : model.Serving functions) (missing : List MissingType) :
    (missing.foldl Model.addMissing model).Serving functions := by
  induction missing generalizing model with
  | nil => exact h
  | cons first missing ih => exact ih ((h.addPackage _).fileType _ _)

end Serving

/-! ## What the declarations make -/

variable (origin : Nat) (filters : Filters) (declarations : Declarations)

/-- **Members**: each declared one is there, in the list of its type and in no other. -/
theorem staffed_wired : (wired origin filters declarations).Staffed
    (declarations.entries.map (·.declaration)) :=
  ((Staffed.empty origin filters).foldl_draftPackage declarations.packages).wireTypes 0 _

/-- **Functions**: each declared one is there, in the list of its package. -/
theorem serving_wired : (wired origin filters declarations).Serving declarations.functionEntries :=
  ((Serving.empty origin filters).foldl_draftPackage (.empty origin filters)
    declarations.packages).wireTypes 0 _

/-- Placeholders come without functions. -/
theorem serving_completed :
    (completed origin filters declarations).Serving declarations.functionEntries :=
  (serving_wired origin filters declarations).foldl_addMissing _

end Model

end TypeGraph
