import TypeGraph.Proofs.Building
import TypeGraph.Proofs.Roster

/-!
# TypeGraph.Proofs.Fidelity

A model that is built without placeholders is what is declared and nothing else
(`Model.build_transcribes`).

* `Model.Transcribes` says it array by array and list by list: which entities there
  are, in which order, what is known about each, and which lists they are in;
* the lists of packages come out of the pointers, position by position
  (`filter_range_eq_findIdxs`).
-/

namespace TypeGraph

/-! ## Keywords -/

/-- Every keyword stands for a modifier, and the set is the union of these. -/
def Modifiers.Unites (modifiers : Modifiers) (keywords : List String) : Prop :=
  ∃ named : List Modifiers, keywords.map Modifiers.ofKeyword? = named.map some ∧
    modifiers = named.foldl Modifiers.union .none

/-- Known keywords give the marks that they name, each once. -/
theorem unites_known {keywords : List String} (h : keywordFault? keywords = none) :
    (Modifiers.known keywords).Unites keywords := by
  have hall : ∀ keyword ∈ keywords, (Modifiers.ofKeyword? keyword).isSome := by
    simpa [keywordFault?, Option.isSome_iff_ne_none] using h
  clear h
  refine ⟨keywords.filterMap Modifiers.ofKeyword?, ?_, rfl⟩
  induction keywords with
  | nil => rfl
  | cons keyword keywords ih =>
      obtain ⟨modifiers, hmodifiers⟩ := Option.isSome_iff_exists.1 (hall keyword (by simp))
      have hrest := ih fun other hother => hall other (by simp [hother])
      rw [List.filterMap_cons_some hmodifiers, List.map_cons, List.map_cons, hmodifiers, hrest]

/-- No keyword of declarations without a fault is unknown. -/
theorem Declarations.keywordFault?_eq_none {declarations : Declarations}
    (h : declarations.fault? = none) {entry : Entry} (hentry : entry ∈ declarations.entries) :
    keywordFault? entry.declaration.modifiers = none ∧
      ∀ method ∈ entry.declaration.methods, keywordFault? method.modifiers = none := by
  obtain ⟨hkeywords, -⟩ := declarations.fault?_eq_none_iff.1 h entry hentry
  rwa [TypeDeclaration.keywordFault?, Option.or_eq_none_iff, List.findSome?_eq_none_iff]
    at hkeywords

/-! ## Positions -/

/-- The positions of what a test accepts, found among all positions. -/
theorem filter_range_eq_findIdxs {α : Type} {accepts : α → Bool} {test : Nat → Bool}
    (list : List α) (h : ∀ i a, list[i]? = some a → test i = accepts a) :
    (List.range list.length).filter test = list.findIdxs accepts := by
  induction list using List.reverseRecOn with
  | nil => rfl
  | append_singleton list a ih =>
      have hlast : test list.length = accepts a := h _ a (by simp)
      have hfirst := ih fun i b hb => h i b (by
        rwa [List.getElem?_append_left (List.getElem?_eq_some_iff.1 hb).1])
      rw [List.length_append, List.length_singleton, List.range_succ, List.filter_append, hfirst,
        List.findIdxs_append, List.findIdxs_singleton, List.filter_singleton, hlast, Nat.zero_add,
        cond_eq_ite]

namespace Model

variable {origin : Nat} {filters : Filters} {model : Model} {declarations : Declarations}

/-! ## What is declared is there -/

/-- The handle names a member of which is known what is declared, and which belongs to
the type. -/
def HasMember (model : Model) (owner : TypeId) (kind : MemberKind) (name : String)
    (keywords : List String) (value : Option String) (id : MemberId) : Prop :=
  ∃ member, model.member? id = some member ∧ member.id = id ∧ member.name = name ∧
    member.kind = kind ∧ member.modifiers.Unites keywords ∧ member.value = value ∧
      member.owner = some owner

/-- The type is the declared one: all that is known about it is declared, and all that
is declared about it is known. -/
structure HasType (model : Model) (entry : Entry) (node : TypeNode) : Prop where
  name : node.name = entry.declaration.name
  kind : node.kind = entry.kind
  sourceFile : node.sourceFile = entry.declaration.file
  userDefined : node.userDefined = true
  modifiers : node.ownModifiers.Unites entry.declaration.modifiers
  parent : node.parent = entry.declaration.parent.map (.fresh .classType)
  interfaces : node.interfaces = entry.declaration.interfaces.map (.fresh .interfaceType)
  methods : List.Forall₂ (fun (method : MethodDeclaration) =>
    model.HasMember node.id .method method.name method.modifiers none)
    entry.declaration.methods node.methods
  constants : List.Forall₂ (fun (constant : ConstantDeclaration) =>
    model.HasMember node.id .constant constant.name [] constant.value)
    entry.declaration.constants node.constants
  package : ∃ package, node.package = some package ∧
    model.packageNames[package.index]? = some entry.package

/-- The model is what is declared and nothing else.  Types, functions and packages are
as many as are declared, in the order of the declarations; each handle is a position;
the member lists of all types together have each member once; and the lists of a
package have the positions of what is declared in any mention of it. -/
structure Transcribes (model : Model) (declarations : Declarations) : Prop where
  types : List.Forall₂ model.HasType declarations.entries model.types.toList
  typeIds : model.typeIds = (List.range model.types.size).map TypeId.mk
  members : model.types.toList.flatMap (fun node => node.methods ++ node.constants) =
    (List.range model.members.size).map MemberId.mk
  functions : List.Forall₂ model.Serves declarations.functionEntries model.functions.toList
  functionIds : model.functions.toList.map (·.id) =
    (List.range model.functions.size).map FunctionId.mk
  packages : model.packageNames = (declarations.packages.map (·.name)).eraseDups
  packageIds : model.packages.toList.map (·.id) =
    (List.range model.packages.size).map PackageId.mk
  listedTypes : ∀ package ∈ model.packages.toList, package.types =
    (declarations.entries.findIdxs (·.package == package.name)).map TypeId.mk
  listedFunctions : ∀ package ∈ model.packages.toList, package.functions =
    (declarations.functionEntries.findIdxs (·.package == package.name)).map FunctionId.mk

/-- A declared method, drafted, is what is declared of it. -/
theorem hasMember_of_method {ty : TypeId} {method : MethodDeclaration} {id : MemberId}
    (hfault : keywordFault? method.modifiers = none)
    (h : model.member? id = some (MethodDeclaration.draft ty model.origin (method, id.index))) :
    model.HasMember ty .method method.name method.modifiers none id :=
  ⟨_, h, rfl, rfl, rfl, unites_known hfault, rfl, rfl⟩

/-- A member that was drafted from a constant is that constant. -/
theorem hasMember_of_constant {ty : TypeId} {constant : ConstantDeclaration} {id : MemberId}
    (h : model.member? id =
      some (ConstantDeclaration.draft ty model.origin (constant, id.index))) :
    model.HasMember ty .constant constant.name [] constant.value id :=
  ⟨_, h, rfl, rfl, rfl, ⟨[], rfl, rfl⟩, rfl, rfl⟩

/-- A type that looks as it is declared, lists its members and points at its package. -/
theorem hasType_of_outline {entry : Entry} {node : TypeNode} {package : PackageId}
    (hfault : keywordFault? entry.declaration.modifiers = none ∧
      ∀ method ∈ entry.declaration.methods, keywordFault? method.modifiers = none)
    (hface : node.face = entry.outline.face) (hstaffs : model.Staffs entry.declaration node)
    (hpointer : node.package = some package)
    (hname : model.packageNames[package.index]? = some entry.package) :
    model.HasType entry node where
  name := congrArg TypeNode.name hface
  kind := congrArg TypeNode.kind hface
  sourceFile := congrArg TypeNode.sourceFile hface
  userDefined := congrArg TypeNode.userDefined hface
  modifiers := by
    have hmodifiers : node.ownModifiers = .known entry.declaration.modifiers :=
      congrArg TypeNode.ownModifiers hface
    rw [hmodifiers]
    exact unites_known hfault.1
  parent := (congrArg TypeNode.parent hface).trans entry.parent_outline
  interfaces := congrArg TypeNode.interfaces hface
  methods := by
    have hboth := (List.forall₂_and_left _ _).2 ⟨hfault.2, hstaffs.methods⟩
    exact hboth.imp fun _ _ hmethod => hasMember_of_method hmethod.1 hmethod.2
  constants := hstaffs.constants.imp fun _ _ hconstant => hasMember_of_constant hconstant
  package := ⟨package, hpointer, hname⟩

/-- Every entry has its type, in order, if nothing is at fault. -/
theorem hasType_wired (h : declarations.fault? = none) :
    List.Forall₂ (wired origin filters declarations).HasType declarations.entries
      (wired origin filters declarations).types.toList := by
  have hstaffs := List.forall₂_map_left_iff.1 (staffed_wired origin filters declarations).staffs
  have houtlines := List.forall₂_map_left_iff.1 (depicts_wired origin filters declarations).forall₂
  have hknown := (List.forall₂_and_left _ _).2 ⟨fun entry hentry =>
    Declarations.keywordFault?_eq_none h hentry, hstaffs⟩
  refine houtlines.mp ?_ hknown
  rintro entry node ⟨hface, package, hpointer, hname⟩ ⟨hfault, hstaffs⟩
  exact hasType_of_outline hfault hface hstaffs hpointer hname

/-! ## The lists of packages -/

/-- A package lists the types that are outlined in it. -/
theorem Depicts.typesIn_eq_findIdxs {outlines : List Outline} (h : model.Depicts outlines)
    {package : PackageId} {name : String}
    (hname : model.packageNames[package.index]? = some name) :
    model.typesIn package = (outlines.findIdxs (·.package == name)).map TypeId.mk := by
  rw [h.listed, List.filter_map]
  congr 1
  refine filter_range_eq_findIdxs outlines fun i outline houtline => ?_
  have hiff : model.packageOf ⟨i⟩ = some package ↔ outline.package = name := by
    rw [h.packageOf_eq_some_iff]
    simp [houtline, hname, eq_comm]
  rw [Bool.eq_iff_iff]
  simpa using hiff

/-- A function points at the package that declares it and at no other one. -/
theorem Serving.packageOfFunction_eq_some_iff {functions : List FunctionEntry}
    (h : model.Serving functions) (hnamed : model.PackagesNamed) {i : Nat} {entry : FunctionEntry}
    (hentry : functions[i]? = some entry) {package : PackageId} {name : String}
    (hname : model.packageNames[package.index]? = some name) :
    model.packageOfFunction ⟨i⟩ = some package ↔ entry.package = name := by
  have hlt : i < functions.length := (List.getElem?_eq_some_iff.1 hentry).1
  have hlt' : i < model.functions.toList.length := h.serves.length_eq ▸ hlt
  obtain ⟨pointed, hpointer, hpointed⟩ := (h.serves.get hlt hlt').package
  have hfunction : model.packageOfFunction ⟨i⟩ = some pointed := by
    rw [packageOfFunction, function?, ← Array.getElem?_toList, List.getElem?_eq_getElem hlt']
    exact hpointer
  have hsame : functions.get ⟨i, hlt⟩ = entry := (List.getElem?_eq_some_iff.1 hentry).2
  rw [hsame] at hpointed
  rw [hfunction, Option.some_inj]
  constructor
  · rintro rfl
    exact Option.some_inj.1 (hpointed.symm.trans hname)
  · rintro rfl
    rw [← hnamed.findPackage_iff] at hname hpointed
    exact Option.some_inj.1 (hpointed.symm.trans hname)

/-- A package lists the functions that are declared in it. -/
theorem Serving.functionsIn_eq_findIdxs {functions : List FunctionEntry}
    (h : model.Serving functions) (hnamed : model.PackagesNamed) {package : PackageId}
    {name : String} (hname : model.packageNames[package.index]? = some name) :
    model.functionsIn package = (functions.findIdxs (·.package == name)).map FunctionId.mk := by
  rw [h.listed, List.filter_map]
  congr 1
  refine filter_range_eq_findIdxs functions fun i entry hentry => ?_
  rw [Bool.eq_iff_iff]
  simpa using h.packageOfFunction_eq_some_iff hnamed hentry hname

/-! ## Building -/

/-- Every package is found under its position. -/
theorem exists_package?_of_mem {package : Package} (h : package ∈ model.packages.toList) :
    ∃ id, model.package? id = some package ∧
      model.packageNames[id.index]? = some package.name := by
  obtain ⟨i, hi⟩ := Array.mem_iff_getElem?.1 (Array.mem_toList_iff.1 h)
  have hfound : model.package? ⟨i⟩ = some package := hi
  refine ⟨⟨i⟩, hfound, ?_⟩
  rw [getElem?_packageNames, hfound, Option.map_some]

/-- **Fidelity**: a model that is built without placeholders is what is declared and
nothing else. -/
theorem build_transcribes (h : Model.build origin filters false declarations = .ok model) :
    model.Transcribes declarations := by
  have hreachable := build_reachable h
  obtain ⟨hfault, rfl⟩ := (build_eq_wired_iff origin filters declarations).1 h
  have hdepicts := depicts_wired origin filters declarations
  have hserving := serving_wired origin filters declarations
  constructor
  · exact hasType_wired hfault
  · exact hreachable.numbered.typeIds_eq
  · exact (staffed_wired origin filters declarations).held
  · exact hserving.serves
  · exact map_handle_eq_range fun i node => hreachable.functionsFiled.numbered ⟨i⟩ node
  · exact packageNames_wired origin filters declarations
  · exact map_handle_eq_range fun i node => hserving.numbered ⟨i⟩ node
  · intro package hpackage
    obtain ⟨id, hfound, hname⟩ := exists_package?_of_mem hpackage
    have htypes := hdepicts.typesIn_eq_findIdxs hname
    rw [typesIn, hfound, List.findIdxs_map] at htypes
    exact htypes
  · intro package hpackage
    obtain ⟨id, hfound, hname⟩ := exists_package?_of_mem hpackage
    have hfunctions := hserving.functionsIn_eq_findIdxs hdepicts.named hname
    rwa [functionsIn, hfound] at hfunctions

/-- A package that is mentioned twice, with one type declared in both mentions, and a
package of functions between the two. -/
theorem build_transcribes_of_repeated_package :
    let dog : TypeDeclaration := ⟨"Dog", some "Animal", ["Named", "\\Tame"], ["FINAL", "abstract"],
      [⟨"bark", ["public"]⟩, ⟨"sit", []⟩], [⟨"LEGS", some "4"⟩], some "Dog.php"⟩
    let named : TypeDeclaration := ⟨"Named", none, [], [], [⟨"name", ["public"]⟩], [], none⟩
    let declarations : Declarations := ⟨[⟨"App", [dog], [named], ["feed"]⟩,
      ⟨"Lib", [], [], ["help"]⟩, ⟨"App", [dog], [], ["walk"]⟩]⟩
    declarations.entries.findIdxs (·.package == "App") = [0, 1, 2] ∧
      declarations.functionEntries.findIdxs (·.package == "App") = [0, 2] ∧
        ∃ model, Model.build 0 .empty false declarations = .ok model ∧
          model.Transcribes declarations ∧ model.packageNames = ["App", "Lib"] := by
  intro dog named declarations
  have hbuild := (build_eq_wired_iff 0 .empty declarations).2 ⟨by decide, rfl⟩
  have htranscribes := build_transcribes hbuild
  exact ⟨by decide, by decide, _, hbuild, htranscribes, htranscribes.packages.trans (by decide)⟩

end Model

end TypeGraph
