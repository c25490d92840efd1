import TypeGraph.Proofs.Run

/-!
# TypeGraph.Proofs.Naming

What names stand for.

* `Reachable.lookup_eq` — a name resolves to the first type whose name has the
  same key, whatever has happened to the model;
* `Model.PackagesNamed` — packages have different names and are found by them;
  `PackagesNamed.addPackage` says what adding a package does to that.
-/

namespace TypeGraph

/-- One more element is a first occurrence, or none. -/
theorem eraseDups_concat {α : Type} [BEq α] [LawfulBEq α] [DecidableEq α] (list : List α) (a : α) :
    (list ++ [a]).eraseDups = if a ∈ list then list.eraseDups else list.eraseDups ++ [a] := by
  rw [List.eraseDups_append]
  by_cases hmem : a ∈ list
  · have hleft : [a].removeAll list = [] := by simpa [List.removeAll] using hmem
    simp [hmem, hleft]
  · have hleft : [a].removeAll list = [a] := by simpa [List.removeAll] using hmem
    simp [hmem, hleft, List.eraseDups_cons]

namespace Model

variable {model : Model}

/-! ## Types -/

/-- The names of the types, in the order of creation. -/
def typeNames (model : Model) : List String := model.types.toList.map (·.name)

/-- The name of a type stands where its handle says. -/
theorem getElem?_typeNames (i : Nat) :
    model.typeNames[i]? = (model.type? ⟨i⟩).map (·.name) := by
  rw [typeNames, List.getElem?_map, Array.getElem?_toList, type?]

/-- There are as many names as types. -/
theorem length_typeNames (model : Model) : model.typeNames.length = model.types.size := by
  rw [typeNames, List.length_map, Array.length_toList]

/-- A new type comes with its name. -/
theorem typeNames_addType (model : Model) (kind : TypeKind) (name : String) :
    (model.addType kind name).2.typeNames = model.typeNames ++ [name] := by
  simp [addType, typeNames, TypeNode.bare]

/-- New types come with their names, in order. -/
theorem typeNames_run_addType (model : Model) (kind : TypeKind) (names : List String) :
    (model.run (names.map (.addType kind))).typeNames = model.typeNames ++ names := by
  induction names generalizing model with
  | nil => rw [List.append_nil]; rfl
  | cons name names ih =>
      have hrest := ih (model.addType kind name).2
      rw [typeNames_addType, List.append_assoc] at hrest
      exact hrest

/-- The key of the name of a type. -/
def keyOf (model : Model) (ty : TypeId) : Option String := (model.type? ty).map (symbolKey ·.name)

/-- The key of a type is that of its name. -/
theorem keyOf_eq (model : Model) (ty : TypeId) :
    model.keyOf ty = model.typeNames[ty.index]?.map symbolKey := by
  rw [getElem?_typeNames, keyOf, Option.map_map]
  rfl

/-- Every key leads to the first type with this key. -/
def SymbolsFirst (model : Model) : Prop :=
  ∀ key, model.symbols[key]? = (model.typeNames.findIdx? (symbolKey · == key)).map TypeId.mk

namespace SymbolsFirst

theorem empty (origin : Nat) (filters : Filters) : (Model.empty origin filters).SymbolsFirst := by
  intro key
  simp [Model.empty, typeNames]

/-- A new type takes the name if nobody has it. -/
theorem addType (h : model.SymbolsFirst) (kind : TypeKind) (name : String) :
    (model.addType kind name).2.SymbolsFirst := by
  intro key
  have hsymbols : (model.addType kind name).2.symbols =
      model.symbols.insertIfNew (symbolKey name) ⟨model.types.size⟩ := rfl
  rw [hsymbols, typeNames_addType, Std.HashMap.getElem?_insertIfNew, List.findIdx?_append,
    ← length_typeNames, List.findIdx?_singleton]
  by_cases hkey : symbolKey name = key
  · subst hkey
    have hfirst := h (symbolKey name)
    by_cases hknown : symbolKey name ∈ model.symbols
    · obtain ⟨ty, hty⟩ := Option.isSome_iff_exists.1 (Std.HashMap.mem_iff_isSome_getElem?.1 hknown)
      rw [if_neg (by simp [hknown]), hty]
      rw [hty] at hfirst
      obtain ⟨i, hi, rfl⟩ := Option.map_eq_some_iff.1 hfirst.symm
      simp [hi]
    · rw [Std.HashMap.getElem?_eq_none hknown, eq_comm, Option.map_eq_none_iff] at hfirst
      simp [hknown, hfirst]
  · rw [h key]
    simp [hkey]

theorem of_view {after : Model} (h : model.SymbolsFirst) (hsymbols : after.symbols = model.symbols)
    (hnames : model.KeepsView TypeNode.name after) : after.SymbolsFirst := by
  have hsame : after.typeNames = model.typeNames := hnames.map_eq
  intro key
  rw [hsymbols, hsame, h]

/-- What leaves the skeletons alone. -/
theorem keepsSkeletons {after : Model} (h : model.SymbolsFirst)
    (hkeeps : model.KeepsSkeletons after) : after.SymbolsFirst := by
  refine h.of_view hkeeps.symbols fun x => ?_
  have hname := congrArg (Option.map TypeNode.name) (hkeeps.type? x)
  rwa [Option.map_map, Option.map_map] at hname

/-- No operation but the one that adds a type writes the table or a name. -/
theorem effect (h : model.SymbolsFirst) (operation : Operation) :
    (operation.effect model).SymbolsFirst := by
  obtain ⟨kind, name, rfl⟩ | ⟨ty, reference, rfl⟩ |
    ⟨ty, reference, rfl⟩ | ⟨-, hkeeps⟩ := operation.effect_cases model
  · exact h.addType kind name
  · exact h.of_view rfl (.modifyType model ty fun _ => rfl)
  · exact h.of_view rfl (.modifyType model ty fun _ => rfl)
  · exact h.keepsSkeletons hkeeps

/-- Following a reference writes neither. -/
theorem settleIn (h : model.SymbolsFirst) (table : SymbolTable) (site : Site) :
    (model.settleIn table site).SymbolsFirst :=
  h.of_view (by rw [settleIn_rest]) (.settleIn (fun _ _ _ => rfl) model table site)

end SymbolsFirst

/-- In a reachable model every name belongs to the first type with its key. -/
theorem Reachable.symbolsFirst (h : model.Reachable) : model.SymbolsFirst :=
  h.invariant SymbolsFirst.empty (fun hbefore _ _ => hbefore.effect _) SymbolsFirst.settleIn
    fun hbefore _ => hbefore

/-- **Names**: a name resolves to the first type whose name has the same key. -/
theorem Reachable.lookup_eq (h : model.Reachable) (name : String) :
    model.lookup name =
      (model.typeNames.findIdx? (symbolKey · == symbolKey name)).map TypeId.mk :=
  h.symbolsFirst (symbolKey name)

/-- In a model that has nothing but new types, a name resolves by the place of the
first one with the same key. -/
theorem lookup_run_addType (origin : Nat) (filters : Filters) (kind : TypeKind)
    (names : List String) (name : String) :
    ((Model.empty origin filters).run (names.map (.addType kind))).lookup name =
      (names.findIdx? (symbolKey · == symbolKey name)).map TypeId.mk := by
  rw [((Reachable.empty origin filters).run _).lookup_eq, typeNames_run_addType]
  rfl

/-! ## Packages -/

def packageNames (model : Model) : List String := model.packages.toList.map (·.name)

/-- The name of a package stands where its handle says. -/
theorem getElem?_packageNames (i : Nat) :
    model.packageNames[i]? = (model.package? ⟨i⟩).map (·.name) := by
  rw [packageNames, List.getElem?_map, Array.getElem?_toList, package?]

/-- There are as many names as packages. -/
theorem length_packageNames (model : Model) : model.packageNames.length = model.packages.size := by
  rw [packageNames, List.length_map, Array.length_toList]

/-- A change to a package that leaves its name alone leaves the names alone. -/
theorem packageNames_modifyPackage (model : Model) (package : PackageId)
    {change : Package → Package} (hchange : ∀ node, (change node).name = node.name) :
    (model.modifyPackage package change).packageNames = model.packageNames := by
  have hmodify (packages : List Package) (i : Nat) :
      (packages.modify i change).map (·.name) = packages.map (·.name) := by
    apply List.ext_getElem?
    intro j
    rw [List.getElem?_map, List.getElem?_map, List.getElem?_modify]
    cases packages[j]? with
    | none => rfl
    | some node => by_cases hj : i = j <;> simp [hj, hchange]
  rw [packageNames, modifyPackage, Array.toList_modify, hmodify, packageNames]

/-- A package whose name is known is not added again. -/
theorem addPackage_of_some {name : String} {package : PackageId}
    (h : model.findPackage name = some package) : model.addPackage name = (package, model) := by
  rw [addPackage, h]

/-- A package with a new name gets the next handle. -/
theorem addPackage_of_none {name : String} (h : model.findPackage name = none) :
    model.addPackage name = (⟨model.packages.size⟩, { model with
      packages := model.packages.push ⟨⟨model.packages.size⟩, model.origin, name, [], []⟩
      packageIndex := model.packageIndex.insert name ⟨model.packages.size⟩ }) := by
  rw [addPackage, h]

/-- A package that is added comes to the place that its handle says. -/
theorem inPlace_packages_addPackage (h : InPlace PackageId.index Package.id model.packages)
    (name : String) : InPlace PackageId.index Package.id (model.addPackage name).2.packages := by
  cases hfound : model.findPackage name with
  | some package => rwa [addPackage_of_some hfound]
  | none =>
      rw [addPackage_of_none hfound]
      exact h.push fun _ hnew => congrArg PackageId.mk hnew.symm

/-- Adding a package leaves the types alone. -/
theorem types_addPackage (name : String) : (model.addPackage name).2.types = model.types := by
  rw [addPackage]
  cases model.findPackage name <;> rfl

theorem symbols_addPackage (name : String) :
    (model.addPackage name).2.symbols = model.symbols := by
  rw [addPackage]
  cases model.findPackage name <;> rfl

theorem origin_addPackage (name : String) : (model.addPackage name).2.origin = model.origin := by
  rw [addPackage]
  cases model.findPackage name <;> rfl

/-- Adding a package has nothing to do with types. -/
theorem addPackage_with (model : Model) (types : Array TypeNode) (symbols : SymbolTable)
    (name : String) :
    Model.addPackage { model with types, symbols } name =
      ((model.addPackage name).1, { (model.addPackage name).2 with types, symbols }) := by
  have hfound : findPackage { model with types, symbols } name = model.findPackage name := rfl
  rw [addPackage, addPackage, hfound]
  cases model.findPackage name <;> rfl

/-- Packages have different names and are found by them. -/
structure PackagesNamed (model : Model) : Prop where
  nodup : model.packageNames.Nodup
  findPackage_iff : ∀ name package,
    model.findPackage name = some package ↔ model.packageNames[package.index]? = some name

namespace PackagesNamed

theorem empty (origin : Nat) (filters : Filters) : (Model.empty origin filters).PackagesNamed where
  nodup := by simp [Model.empty, packageNames]
  findPackage_iff name package := by simp [Model.empty, packageNames, findPackage]

theorem of_eq {after : Model} (h : model.PackagesNamed)
    (hnames : after.packageNames = model.packageNames)
    (hindex : after.packageIndex = model.packageIndex) : after.PackagesNamed where
  nodup := hnames ▸ h.nodup
  findPackage_iff name package := by
    rw [findPackage, hindex, hnames]
    exact h.findPackage_iff name package

/-- A name that is not found is the name of no package. -/
theorem findPackage_eq_none_iff (h : model.PackagesNamed) {name : String} :
    model.findPackage name = none ↔ name ∉ model.packageNames := by
  rw [Option.eq_none_iff_forall_ne_some, List.mem_iff_getElem?]
  constructor
  · rintro hnone ⟨i, hi⟩
    exact hnone ⟨i⟩ ((h.findPackage_iff name ⟨i⟩).2 hi)
  · exact fun hnew package hfound => hnew ⟨package.index, (h.findPackage_iff name package).1 hfound⟩

/-- Adding a package appends its name, unless there is a package of this name. -/
theorem packageNames_addPackage (h : model.PackagesNamed) (name : String) :
    (model.addPackage name).2.packageNames =
      if name ∈ model.packageNames then model.packageNames else model.packageNames ++ [name] := by
  cases hfound : model.findPackage name with
  | some package =>
      have hmem := List.mem_of_getElem? ((h.findPackage_iff name package).1 hfound)
      rw [addPackage_of_some hfound, if_pos hmem]
  | none =>
      have hnew := h.findPackage_eq_none_iff.1 hfound
      rw [addPackage_of_none hfound, if_neg hnew]
      simp [packageNames]

/-- A new package is found under its name, and the others as before. -/
theorem addPackage (h : model.PackagesNamed) (name : String) :
    (model.addPackage name).2.PackagesNamed := by
  have hnames := h.packageNames_addPackage name
  cases hfound : model.findPackage name with
  | some package => rwa [addPackage_of_some hfound]
  | none =>
      have hnew := h.findPackage_eq_none_iff.1 hfound
      rw [if_neg hnew] at hnames
      have hindex (other : String) : (model.addPackage name).2.findPackage other =
          if name = other then some ⟨model.packages.size⟩ else model.findPackage other := by
        rw [addPackage_of_none hfound]
        simp [findPackage, Std.HashMap.getElem?_insert]
      constructor
      · rw [hnames]
        refine List.nodup_append.2 ⟨h.nodup, by simp, fun other hother last hlast heq => hnew ?_⟩
        rwa [← List.mem_singleton.1 hlast, ← heq]
      · intro other package
        rw [hindex, hnames, List.getElem?_append]
        have hlength := model.length_packageNames
        by_cases hold : package.index < model.packageNames.length
        · have hne : PackageId.mk model.packages.size ≠ package := fun heq => by
            rw [← heq, hlength] at hold
            exact Nat.lt_irrefl _ hold
          rw [if_pos hold, ← h.findPackage_iff]
          by_cases hother : name = other
          · simp [← hother, hfound, hne]
          · rw [if_neg hother]
        · have hforeign : model.findPackage other ≠ some package := fun hsome =>
            hold (List.getElem?_eq_some_iff.1 ((h.findPackage_iff other package).1 hsome)).1
          have hlast : PackageId.mk model.packages.size = package ↔
              package.index - model.packageNames.length = 0 := by
            obtain ⟨index⟩ := package
            rw [PackageId.mk.injEq]
            dsimp only at hold ⊢
            omega
          rw [if_neg hold, List.getElem?_singleton]
          by_cases hother : name = other
          · simp [hother, hlast]
          · simp [hother, hforeign]

/-- The package that has been added, or found, has the name. -/
theorem getElem?_addPackage (h : model.PackagesNamed) (name : String) :
    (model.addPackage name).2.packageNames[(model.addPackage name).1.index]? = some name := by
  rw [← (h.addPackage name).findPackage_iff]
  cases hfound : model.findPackage name with
  | some package => rwa [addPackage_of_some hfound]
  | none =>
      rw [addPackage_of_none hfound]
      simp [findPackage]

/-- The package that has been asked for is there, new or not. -/
theorem isSome_package?_addPackage (h : model.PackagesNamed) (name : String) :
    ((model.addPackage name).2.package? (model.addPackage name).1).isSome := by
  have hname := h.getElem?_addPackage name
  rw [getElem?_packageNames, Option.map_eq_some_iff] at hname
  obtain ⟨node, hnode, -⟩ := hname
  exact Option.isSome_of_eq_some hnode

end PackagesNamed

end Model

end TypeGraph
