import TypeGraph.Proofs.Attached
import TypeGraph.Proofs.BuildOutcome
import TypeGraph.Proofs.Subtypes
import TypeGraph.Proofs.WriteOrder

/-!
# TypeGraph.Proofs.WellFormed

What holds of a model whatever has been done to it, in one piece.  Each clause is
kept by every operation, some of them only together with others: rebuilt lists hold
types of the model since types are where their handles say.

1. `WellFormed` — the clauses;
2. `WellFormed.event` — whatever happens to a well-formed model, be it handed foreign
   handles, it stays well-formed; `WellFormed.editInTurn` — also if it writes one entity
   after another;
3. `wellFormed_invariant` — so every model that can be arrived at is well-formed.
-/

namespace TypeGraph

/-- What a reference at a site asks for. -/
def Site.kind : Site → TypeKind
  | .parent _ => .classType
  | .interface _ _ => .interfaceType

namespace Model

variable {model : Model}

/-! ## Members and packages are where their handles say -/

/-- Members stay where their handles say, whatever is done. -/
theorem inPlace_members_effect (h : InPlace MemberId.index Member.id model.members)
    (operation : Operation) :
    InPlace MemberId.index Member.id (operation.effect model).members := by
  obtain ⟨kind, name, modifiers, value, heffect⟩ | hkeeps := operation.member_cases model
  · rw [heffect]
    exact h.push fun _ hnew => congrArg MemberId.mk hnew.symm
  · refine h.of_map_eq fun x => ?_
    have hid := congrArg (Option.map Member.id) (hkeeps x)
    rwa [Option.map_map, Option.map_map] at hid

theorem inPlace_packages_effect (h : InPlace PackageId.index Package.id model.packages)
    (operation : Operation) :
    InPlace PackageId.index Package.id (operation.effect model).packages := by
  obtain ⟨name, rfl⟩ | hkeeps := operation.package_cases model
  · exact inPlace_packages_addPackage h name
  · refine h.of_map_eq fun x => ?_
    have hid := congrArg (Option.map Package.id) (hkeeps.package? x)
    rwa [Option.map_map, Option.map_map] at hid

/-! ## Lists by kind -/

/-- Lists of methods hold methods, and lists of constants hold constants. -/
def ListsByKind (model : Model) : Prop :=
  ∀ ty kind, ∀ member ∈ model.listed ty kind, model.kindOf member = some kind

/-- An operation lists a member by its kind. -/
theorem ListsByKind.effect (h : model.ListsByKind) {operation : Operation}
    (hrefusal : operation.refusal? model = none) : (operation.effect model).ListsByKind := by
  intro ty kind member hmember
  apply operation.kindOf_effect model
  obtain hold | hkind := Operation.listed_cases hrefusal hmember
  · exact h ty kind member hold
  · exact hkind

/-- Following a reference lists no member. -/
theorem ListsByKind.settleIn (h : model.ListsByKind) (table : SymbolTable) (site : Site) :
    (model.settleIn table site).ListsByKind := by
  have hkeeps := KeepsHoldings.settleIn model table site
  intro ty kind member hmember
  rw [hkeeps.listed] at hmember
  rw [kindOf, hkeeps.member?]
  exact h ty kind member hmember

/-! ## References by kind -/

/-- A parent is asked for as a class, and an interface as an interface. -/
def ReferencesByKind (model : Model) : Prop :=
  ∀ site reference, model.reference? site = some reference → reference.kind = site.kind

/-- An operation that is not refused attaches a reference where one of its kind
belongs. -/
theorem kind_of_attaches {operation : Operation} (hrefusal : operation.refusal? model = none)
    {site : Site} {reference : TypeReference}
    (h : operation.attaches model = some (site, reference)) : reference.kind = site.kind := by
  cases operation with
  | setParent ty attached =>
      obtain ⟨node, -, heq⟩ := Option.map_eq_some_iff.1 h
      obtain ⟨rfl, rfl⟩ := Prod.mk.inj heq
      by_cases hkind : attached.kind = .classType
      · exact hkind
      · simp [Operation.refusal?, hkind] at hrefusal
  | addInterface ty attached =>
      obtain ⟨node, -, heq⟩ := Option.map_eq_some_iff.1 h
      obtain ⟨rfl, rfl⟩ := Prod.mk.inj heq
      by_cases hkind : attached.kind = .interfaceType
      · exact hkind
      · simp [Operation.refusal?, hkind] at hrefusal
  | _ => contradiction

/-- An operation that is not refused attaches references of the right kind. -/
theorem ReferencesByKind.effect (h : model.ReferencesByKind) {operation : Operation}
    (hrefusal : operation.refusal? model = none) : (operation.effect model).ReferencesByKind := by
  intro site reference hreference
  rw [operation.reference?_effect] at hreference
  cases hattaches : operation.attaches model with
  | none =>
      rw [hattaches] at hreference
      exact h site reference hreference
  | some attached =>
      obtain ⟨target, new⟩ := attached
      simp only [hattaches] at hreference
      split at hreference
      · next hsite =>
          obtain rfl := Option.some_inj.1 hreference
          rw [← hsite]
          exact kind_of_attaches hrefusal hattaches
      · exact h site reference hreference

/-- Following a reference does not change its kind. -/
theorem ReferencesByKind.settleIn (h : model.ReferencesByKind) (table : SymbolTable)
    (target : Site) : (model.settleIn table target).ReferencesByKind := by
  intro site reference hreference
  rw [reference?_settleIn] at hreference
  split at hreference
  · obtain ⟨before, hbefore, rfl⟩ := Option.map_eq_some_iff.1 hreference
    rw [TypeReference.kind_settle]
    exact h site before hbefore
  · exact h site reference hreference

/-! ## Names of packages -/

/-- The same packages have the same names. -/
theorem KeepsPackages.packageNames_eq {after : Model} (h : model.KeepsPackages after) :
    after.packageNames = model.packageNames := by
  apply List.ext_getElem?
  intro i
  have hname := congrArg (Option.map Package.name) (h.package? ⟨i⟩)
  rw [Option.map_map, Option.map_map] at hname
  rw [getElem?_packageNames, getElem?_packageNames]
  exact hname

/-- No operation but adding a package writes a name or the index. -/
theorem PackagesNamed.effect (h : model.PackagesNamed) (operation : Operation) :
    (operation.effect model).PackagesNamed := by
  obtain ⟨name, rfl⟩ | hkeeps := operation.package_cases model
  · exact h.addPackage name
  · exact h.of_eq hkeeps.packageNames_eq hkeeps.packageIndex

/-! ## The symbol table -/

/-- Every key in the symbol table leads to a type whose name has this key. -/
def SymbolsKeyed (model : Model) : Prop :=
  ∀ key ty, model.symbols[key]? = some ty → model.keyOf ty = some key

namespace SymbolsKeyed

theorem of_view {after : Model} (h : model.SymbolsKeyed) (hsymbols : after.symbols = model.symbols)
    (hnames : model.KeepsView TypeNode.name after) : after.SymbolsKeyed := by
  intro key ty hty
  rw [hsymbols] at hty
  have hkey := congrArg (Option.map symbolKey) (hnames ty)
  rw [Option.map_map, Option.map_map] at hkey
  exact hkey.trans (h key ty hty)

/-- A new type comes in under the key of its name, or not at all. -/
theorem addType (h : model.SymbolsKeyed) (kind : TypeKind) (name : String) :
    (model.addType kind name).2.SymbolsKeyed := by
  intro key ty hty
  replace hty : (model.symbols.insertIfNew (symbolKey name) ⟨model.types.size⟩)[key]? = some ty :=
    hty
  rw [Std.HashMap.getElem?_insertIfNew] at hty
  rw [keyOf, type?_addType]
  split at hty
  · next hnew =>
      obtain rfl := Option.some_inj.1 hty
      rw [if_pos rfl]
      exact congrArg some (eq_of_beq hnew.1)
  · have hkey := h key ty hty
    have hold : ty.index ≠ model.types.size := fun heq => by
      have hforeign : model.type? ty = none := Array.getElem?_eq_none (Nat.le_of_eq heq.symm)
      rw [keyOf, hforeign] at hkey
      contradiction
    rw [if_neg hold]
    exact hkey

/-- Only a new type takes a name, and it has its key. -/
theorem effect (h : model.SymbolsKeyed) (operation : Operation) :
    (operation.effect model).SymbolsKeyed := by
  obtain ⟨kind, name, rfl⟩ | ⟨ty, reference, rfl⟩ |
    ⟨ty, reference, rfl⟩ | ⟨-, hkeeps⟩ := operation.effect_cases model
  · exact h.addType kind name
  · exact h.of_view rfl (.modifyType model ty fun _ => rfl)
  · exact h.of_view rfl (.modifyType model ty fun _ => rfl)
  · refine h.of_view hkeeps.symbols fun x => ?_
    have hname := congrArg (Option.map TypeNode.name) (hkeeps.type? x)
    rwa [Option.map_map, Option.map_map] at hname

end SymbolsKeyed

/-! ## All of it -/

/-- What operations, questions and copies keep up. -/
structure WellFormed (model : Model) : Prop where
  /-- Types, members, packages and functions are where their handles say. -/
  types : ∀ ty node, model.type? ty = some node → node.id = ty
  members : ∀ member node, model.member? member = some node → node.id = member
  packages : ∀ package node, model.package? package = some node → node.id = package
  functions : ∀ function node, model.function? function = some node → node.id = function
  /-- Pointers, owners and entries of lists name something in the model. -/
  ownHandles : model.OwnHandles
  listsByKind : model.ListsByKind
  /-- No interface has a parent. -/
  parentsOfClasses : model.ParentsOfClasses
  referencesByKind : model.ReferencesByKind
  /-- Packages have different names and are found by them. -/
  packagesNamed : model.PackagesNamed
  symbolsKeyed : model.SymbolsKeyed

namespace WellFormed

theorem empty (origin : Nat) (filters : Filters) : (Model.empty origin filters).WellFormed where
  types := Numbered.empty origin filters
  members _ _ h := by simp [Model.empty, member?] at h
  packages _ _ h := by simp [Model.empty, package?] at h
  functions := (FunctionsFiled.empty origin filters).numbered
  ownHandles := .empty origin filters
  listsByKind _ _ _ h := by simp [Model.empty, listed, type?] at h
  parentsOfClasses := .empty origin filters
  referencesByKind site _ h := by cases site <;> simp [Model.empty, reference?, type?] at h
  packagesNamed := .empty origin filters
  symbolsKeyed _ _ h := by simp [Model.empty] at h

/-- An operation that is not refused. -/
theorem effect (h : model.WellFormed) {operation : Operation}
    (hrefusal : operation.refusal? model = none) : (operation.effect model).WellFormed where
  types := Numbered.effect h.types operation
  members := inPlace_members_effect h.members operation
  packages := inPlace_packages_effect h.packages operation
  functions := inPlace_functions_effect h.functions operation
  ownHandles := h.ownHandles.effect h.types h.functions hrefusal
  listsByKind := h.listsByKind.effect hrefusal
  parentsOfClasses := h.parentsOfClasses.effect hrefusal
  referencesByKind := h.referencesByKind.effect hrefusal
  packagesNamed := h.packagesNamed.effect operation
  symbolsKeyed := h.symbolsKeyed.effect operation

/-- A reference that is followed, in the model or elsewhere. -/
theorem settleIn (h : model.WellFormed) (table : SymbolTable) (site : Site) :
    (model.settleIn table site).WellFormed where
  types := Numbered.settleIn h.types table site
  members := by
    rw [settleIn_rest]
    exact h.members
  packages := by
    rw [settleIn_rest]
    exact h.packages
  functions := by
    rw [settleIn_rest]
    exact h.functions
  ownHandles := h.ownHandles.settleIn table site
  listsByKind := h.listsByKind.settleIn table site
  parentsOfClasses := h.parentsOfClasses.settleIn table site
  referencesByKind := h.referencesByKind.settleIn table site
  packagesNamed := h.packagesNamed.of_eq (by rw [settleIn_rest]; rfl) (by rw [settleIn_rest])
  symbolsKeyed := h.symbolsKeyed.of_view (by rw [settleIn_rest])
    (.settleIn (fun _ _ _ => rfl) model table site)

theorem copy (h : model.WellFormed) (origin : Nat) : (model.copy origin).WellFormed where
  types := h.types
  members := h.members
  packages := h.packages
  functions := h.functions
  ownHandles := h.ownHandles.copy origin
  listsByKind := h.listsByKind
  parentsOfClasses := h.parentsOfClasses
  referencesByKind := h.referencesByKind
  packagesNamed := h.packagesNamed.of_eq rfl rfl
  symbolsKeyed := h.symbolsKeyed

/-- One operation, carried out or refused, whatever handles it is handed. -/
theorem after (h : model.WellFormed) (operation : Operation) :
    (operation.after model).WellFormed := by
  rw [operation.after_eq]
  cases hrefusal : operation.refusal? model with
  | some error => exact h
  | none => exact h.effect hrefusal

/-- One event. -/
theorem event (h : model.WellFormed) (event : Event) : (event.after model).WellFormed := by
  cases event with
  | operate operation => exact h.after operation
  | ask query => exact settle_of_settleIn settleIn h _
  | copy origin => exact h.copy origin
  | resolve table site => exact h.settleIn table site

/-- One operation that writes entity after entity: none is left half written. -/
theorem editInTurn (h : model.WellFormed) (operation : Operation) :
    (operation.editInTurn.after model).WellFormed := by
  have hsame : operation.editInTurn.after model = operation.after model := by
    rw [Edit.after, h.ownHandles.editInTurn_eq operation]
    rfl
  rw [hsame]
  exact h.after operation

end WellFormed

/-- Every reachable model is well-formed. -/
theorem Reachable.wellFormed (h : model.Reachable) : model.WellFormed :=
  h.invariant WellFormed.empty WellFormed.effect WellFormed.settleIn WellFormed.copy

/-- **Well-formedness**: a new model is well-formed, and whatever happens to a
well-formed model leaves it so: operations, also those that are handed foreign handles
and those that are refused, questions, copies and what others find for its references.
So every model that can be arrived at is well-formed, and every model that is built from
declarations. -/
theorem wellFormed_invariant :
    (∀ origin filters, (Model.empty origin filters).WellFormed) ∧
      (∀ model : Model, model.WellFormed →
        (∀ event : Event, (event.after model).WellFormed) ∧
          ∀ operation : Operation, (operation.editInTurn.after model).WellFormed) ∧
      (∀ model : Model, model.Reachable → model.WellFormed) ∧
      ∀ origin filters placeholders declarations model,
        Model.build origin filters placeholders declarations = .ok model → model.WellFormed := by
  refine ⟨WellFormed.empty, ?_, fun _ hreachable => hreachable.wellFormed, ?_⟩
  · intro model h
    exact ⟨h.event, h.editInTurn⟩
  · intro origin filters placeholders declarations model hbuild
    exact (build_reachable hbuild).wellFormed

/-- An interface that is handed a foreign method and a parent, and refuses both, in a
model that is asked to take it off the list of a foreign package. -/
theorem wellFormed_invariant_of_foreign_handles :
    let model := (Model.empty 0 .empty).run [.addType .interfaceType "Named",
      .newMethod "name" .none, .addMember ⟨0⟩ ⟨0⟩, .addMember ⟨0⟩ ⟨7⟩,
      .setParent ⟨0⟩ ⟨.classType, "Base", none⟩]
    let operation := Operation.removeTypeFromPackage ⟨3⟩ ⟨0⟩
    let declarations : Declarations :=
      ⟨[⟨"App", [⟨"A", some "Base", ["Named"], [], [], [], none⟩], [], ["feed"]⟩]⟩
    model.Reachable ∧ model.WellFormed ∧ model.listed ⟨0⟩ .method = [⟨0⟩] ∧
      (operation.refusal? model).isSome ∧ (operation.after model).WellFormed ∧
      (operation.editInTurn.after model).WellFormed ∧
      ∃ built, Model.build 0 .empty true declarations = .ok built ∧ built.WellFormed := by
  intro model operation declarations
  obtain ⟨-, hkept, hreached, hbuilt⟩ := wellFormed_invariant
  have hreachable : model.Reachable := .run _ (.empty 0 .empty)
  have hmodel : model.WellFormed := hreached model hreachable
  obtain ⟨hevent, hinTurn⟩ := hkept model hmodel
  have hbuild := (build_eq_completed_iff 0 .empty declarations).2 ⟨by decide, rfl⟩
  exact ⟨hreachable, hmodel, rfl, rfl, hevent (.operate operation), hinTurn operation, _, hbuild,
    hbuilt _ _ _ _ _ hbuild⟩

end Model

end TypeGraph
