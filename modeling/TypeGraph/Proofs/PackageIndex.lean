import TypeGraph.Proofs.BuildOutcome
import TypeGraph.Proofs.Building
import TypeGraph.Proofs.Packages

/-!
# TypeGraph.Proofs.PackageIndex

The lists of packages as an index over pointers, for types and for functions.

Functions have no operation that writes a pointer alone, so their lists say what
their pointers say in every reachable model (`Reachable.functionsFiled`).  For
types that is so as long as `setPackage` is not called
(`ReachableBy.inStep`).  Either way a type or function is in the list of the
package that it points at, once, and in no other one (`index_places`).
-/

namespace TypeGraph

namespace Model

variable {model : Model}

/-! ## Pointers and lists of functions -/

def functionsIn (model : Model) (package : PackageId) : List FunctionId :=
  match model.package? package with
  | none => []
  | some node => node.functions

def functionsPointingAt (model : Model) (package : PackageId) : List FunctionId :=
  (model.functions.toList.filter (·.package == some package)).map (·.id)

/-- Where the functions point, and which ones each package lists. -/
def functionShelving (model : Model) : Shelving FunctionId :=
  ⟨model.packageOfFunction, model.functionsIn⟩

/-- A change to a function shows in that function only. -/
theorem function?_modifyFunction (function x : FunctionId)
    (change : FunctionNode → FunctionNode) :
    (model.modifyFunction function change).function? x =
      if function = x then (model.function? x).map change else model.function? x :=
  getElem?_modify_index (congrArg FunctionId.mk) model.functions function x change

/-- A change to a package shows in its list only. -/
theorem functionsIn_modifyPackage (package other : PackageId) (change : Package → Package) :
    (model.modifyPackage package change).functionsIn other =
      if package = other then
        match model.package? other with
        | none => []
        | some node => (change node).functions
      else model.functionsIn other := by
  unfold functionsIn
  rw [package?_modifyPackage]
  by_cases hother : package = other
  · rw [if_pos hother, if_pos hother]
    cases model.package? other <;> rfl
  · rw [if_neg hother, if_neg hother]

/-- Taking a function out of a package keeps the function. -/
theorem isSome_function?_unlistFunction (package : PackageId) (function x : FunctionId) :
    ((model.unlistFunction package function).function? x).isSome = (model.function? x).isSome :=
  isSome_getElem?_modify model.functions function.index x.index _

/-! ### Taking off a list, putting onto one -/

/-- It is what the shelving does when a function is taken off. -/
theorem functionShelving_unlistFunction (package : PackageId) (function : FunctionId) :
    (model.unlistFunction package function).functionShelving =
      model.functionShelving.unlist package function := by
  have hpointer (x : FunctionId) : (model.unlistFunction package function).packageOfFunction x =
      if function = x ∧ model.packageOfFunction x = some package then none
      else model.packageOfFunction x := by
    unfold packageOfFunction unlistFunction
    rw [function?_modifyFunction]
    change (if function = x then (model.function? x).map _ else model.function? x).bind _ = _
    by_cases hx : function = x
    · cases model.function? x with
      | none => simp
      | some node => by_cases hpackage : node.package = some package <;> simp [hx, hpackage]
    · simp [hx]
  have hlist (other : PackageId) : (model.unlistFunction package function).functionsIn other =
      if package = other then (model.functionsIn other).erase function
      else model.functionsIn other := by
    refine (functionsIn_modifyPackage package other fun p =>
      { p with functions := p.functions.erase function }).trans ?_
    unfold functionsIn
    cases model.package? other <;> rfl
  unfold functionShelving Shelving.unlist
  congr 1
  · exact funext hpointer
  · exact funext hlist

/-- Listing a function is putting it there, and writing its pointer. -/
theorem functionShelving_listFunction {package : PackageId} {function : FunctionId}
    (hpackage : (model.package? package).isSome) (hfunction : (model.function? function).isSome) :
    (model.listFunction package function).functionShelving =
      model.functionShelving.put package function := by
  have hpointer (x : FunctionId) : (model.listFunction package function).packageOfFunction x =
      if function = x then some package else model.packageOfFunction x := by
    have hsame : (model.listFunction package function).function? x =
        (model.modifyFunction function fun node =>
          { node with package := some package }).function? x := rfl
    unfold packageOfFunction
    rw [hsame, function?_modifyFunction]
    by_cases hx : function = x
    · subst hx
      obtain ⟨node, hnode⟩ := Option.isSome_iff_exists.1 hfunction
      simp [hnode]
    · rw [if_neg hx, if_neg hx]
  have hlist (other : PackageId) : (model.listFunction package function).functionsIn other =
      model.functionsIn other ++ if package = other then [function] else [] := by
    refine (functionsIn_modifyPackage package other fun p =>
      { p with functions := p.functions ++ [function] }).trans ?_
    by_cases hother : package = other
    · subst hother
      obtain ⟨node, hnode⟩ := Option.isSome_iff_exists.1 hpackage
      have hsame : (model.modifyFunction function fun node =>
          { node with package := some package }).package? package = some node := hnode
      simp [functionsIn, hnode, hsame]
    · rw [if_neg hother, if_neg hother, List.append_nil]
      rfl
  unfold functionShelving Shelving.put
  congr 1
  · exact funext hpointer
  · exact funext hlist

/-- Moving a function is what the shelving does, if both are there. -/
theorem functionShelving_moveFunction {package : PackageId} {function : FunctionId}
    (hpackage : (model.package? package).isSome) (hfunction : (model.function? function).isSome) :
    (model.moveFunction package function).functionShelving =
      model.functionShelving.move package function := by
  have hpointer : model.functionShelving.pointer function = model.packageOfFunction function := rfl
  unfold moveFunction Shelving.move
  rw [hpointer]
  cases model.packageOfFunction function with
  | none => exact functionShelving_listFunction hpackage hfunction
  | some previous =>
      dsimp only
      have hstill : ((model.unlistFunction previous function).package? package).isSome := by
        refine (isSome_package?_modifyPackage previous package _).trans ?_
        exact hpackage
      rw [functionShelving_listFunction hstill (by rwa [isSome_function?_unlistFunction]),
        functionShelving_unlistFunction]

/-! ### What leaves functions alone -/

/-- The change leaves functions and the lists of functions alone. -/
structure KeepsFunctions (before after : Model) : Prop where
  functions : after.functions = before.functions
  functionsIn : ∀ package, after.functionsIn package = before.functionsIn package

namespace KeepsFunctions

/-- Pointers and lists of functions are the same. -/
theorem functionShelving_eq {before after : Model} (h : KeepsFunctions before after) :
    after.functionShelving = before.functionShelving := by
  unfold Model.functionShelving
  congr 1
  · unfold packageOfFunction function?
    rw [h.functions]
  · exact funext h.functionsIn

theorem of_packages_eq {before after : Model} (hfunctions : after.functions = before.functions)
    (hpackages : after.packages = before.packages) : KeepsFunctions before after where
  functions := hfunctions
  functionsIn package := by
    unfold Model.functionsIn package?
    rw [hpackages]

theorem modifyPackage (model : Model) (package : PackageId) {change : Package → Package}
    (hchange : ∀ node, (change node).functions = node.functions) :
    KeepsFunctions model (model.modifyPackage package change) where
  functions := rfl
  functionsIn other := by
    rw [functionsIn_modifyPackage]
    unfold Model.functionsIn
    split
    · split
      · rfl
      · exact hchange _
    · rfl

theorem unlistType (model : Model) (package : PackageId) (ty : TypeId) :
    KeepsFunctions model (model.unlistType package ty) := by
  have hlist : KeepsFunctions model
      (model.modifyPackage package fun p => { p with types := p.types.erase ty }) :=
    modifyPackage model package fun _ => rfl
  exact ⟨rfl, hlist.functionsIn⟩

theorem moveType (model : Model) (package : PackageId) (ty : TypeId) :
    KeepsFunctions model (model.moveType package ty) := by
  have hlist (model : Model) : KeepsFunctions model (model.listType package ty) := by
    have hpush : KeepsFunctions model
        (model.modifyPackage package fun p => { p with types := p.types ++ [ty] }) :=
      modifyPackage model package fun _ => rfl
    exact ⟨rfl, hpush.functionsIn⟩
  unfold Model.moveType
  cases model.packageOf ty with
  | none => exact hlist model
  | some previous =>
      have hunlist := unlistType model previous ty
      have hmoved := hlist (model.unlistType previous ty)
      exact ⟨hmoved.functions.trans hunlist.functions, fun other =>
        (hmoved.functionsIn other).trans (hunlist.functionsIn other)⟩

theorem giveMember (model : Model) (owner : TypeId) (member : MemberId) :
    KeepsFunctions model (model.giveMember owner member) :=
  of_packages_eq (by rw [giveMember_rest]) (by rw [giveMember_rest])

theorem takeMember (model : Model) (owner : TypeId) (member : MemberId) :
    KeepsFunctions model (model.takeMember owner member) :=
  of_packages_eq (by rw [takeMember_rest]) (by rw [takeMember_rest])

theorem addPackage (model : Model) (name : String) :
    KeepsFunctions model (model.addPackage name).2 := by
  unfold Model.addPackage
  cases model.findPackage name with
  | some package => exact of_packages_eq rfl rfl
  | none =>
      refine ⟨rfl, fun package => ?_⟩
      unfold Model.functionsIn package?
      dsimp only
      rw [Array.getElem?_push]
      by_cases hnew : package.index = model.packages.size
      · rw [if_pos hnew, Array.getElem?_eq_none (Nat.le_of_eq hnew.symm)]
      · rw [if_neg hnew]

end KeepsFunctions

end Model

/-- What an operation does to functions and their lists: it adds a function,
moves one into a package or takes it out of one, it rebuilds the lists, or it
leaves all of them alone. -/
theorem Operation.function_cases (model : Model) (operation : Operation) :
    (∃ name, operation = .addFunction name) ∨
    (∃ package function, operation = .addFunctionToPackage package function) ∨
    (∃ package function, operation = .removeFunctionFromPackage package function) ∨
    operation = .rebuildIndex ∨
    model.KeepsFunctions (operation.effect model) := by
  cases operation with
  | addFunction name => exact .inl ⟨name, rfl⟩
  | addFunctionToPackage package function => exact .inr (.inl ⟨package, function, rfl⟩)
  | removeFunctionFromPackage package function =>
      exact .inr (.inr (.inl ⟨package, function, rfl⟩))
  | rebuildIndex => exact .inr (.inr (.inr (.inl rfl)))
  | addPackage name => exact .inr (.inr (.inr (.inr (.addPackage model name))))
  | addTypeToPackage package ty => exact .inr (.inr (.inr (.inr (.moveType model package ty))))
  | removeTypeFromPackage package ty =>
      exact .inr (.inr (.inr (.inr (.unlistType model package ty))))
  | addMember owner member | addMemberOfKind kind owner member =>
      exact .inr (.inr (.inr (.inr (.giveMember model owner member))))
  | removeMember owner member | removeMemberOfKind kind owner member =>
      exact .inr (.inr (.inr (.inr (.takeMember model owner member))))
  | addType | newMethod | newConstant | setParent | addInterface | setPackage | setUserDefined
  | setModifiers | setSourceFile | setFilters =>
      exact .inr (.inr (.inr (.inr (.of_packages_eq rfl rfl))))

namespace Model

variable {model : Model}

/-! ## Functions are listed where they point -/

/-- Every function is where its handle says, and the lists of functions say what
their pointers say. -/
structure FunctionsFiled (model : Model) : Prop where
  numbered : ∀ function node, model.function? function = some node → node.id = function
  agrees : model.functionShelving.Agrees

/-- An operation that moves a function has found the function and the package. -/
theorem found_of_addFunctionToPackage {package : PackageId} {function : FunctionId}
    (h : (Operation.addFunctionToPackage package function).refusal? model = none) :
    (model.package? package).isSome ∧ (model.function? function).isSome := by
  obtain ⟨hpackage, hrest⟩ := (Option.orElse_eq_none _ _).1 h
  obtain ⟨hfunction, -⟩ := (Option.orElse_eq_none _ _).1 hrest
  exact ⟨isSome_of_refuseForeign hpackage, isSome_of_refuseForeign hfunction⟩

/-- A rebuilt list has the functions that point at the package. -/
theorem functionsIn_rebuildIndex (model : Model) (package : PackageId) :
    model.rebuildIndex.functionsIn package =
      if (model.package? package).isSome then model.functionsPointingAt package else [] := by
  unfold functionsIn
  rw [package?_rebuildIndex]
  cases model.package? package <;> rfl

/-- A new function points nowhere, as a foreign one did before. -/
theorem functionShelving_addFunction (name : String) :
    (model.addFunction name).2.functionShelving = model.functionShelving := by
  unfold functionShelving
  congr 1
  funext x
  have hfound : (model.addFunction name).2.function? x =
      if x.index = model.functions.size then
        some ⟨⟨model.functions.size⟩, model.origin, name, none⟩
      else model.function? x := Array.getElem?_push
  unfold packageOfFunction
  rw [hfound]
  split
  · next hx =>
      have hforeign : model.function? x = none := Array.getElem?_eq_none (Nat.le_of_eq hx.symm)
      rw [hforeign]
      rfl
  · rfl

/-- No operation moves a function to another handle. -/
theorem inPlace_functions_effect (h : InPlace FunctionId.index FunctionNode.id model.functions)
    (operation : Operation) :
    InPlace FunctionId.index FunctionNode.id (operation.effect model).functions := by
  have hunlist (package : PackageId) (function : FunctionId) : InPlace FunctionId.index
      FunctionNode.id (model.unlistFunction package function).functions := by
    refine h.modify function.index fun node => ?_
    split <;> rfl
  obtain ⟨name, rfl⟩ | ⟨package, function, rfl⟩ | ⟨package, function, rfl⟩ | rfl | hkeeps :=
    operation.function_cases model
  · exact h.push fun _ hnew => congrArg FunctionId.mk hnew.symm
  · rw [Operation.effect, moveFunction]
    cases model.packageOfFunction function with
    | none => exact h.modify function.index fun _ => rfl
    | some previous => exact (hunlist previous function).modify function.index fun _ => rfl
  · exact hunlist package function
  · exact h
  · rw [hkeeps.functions]
    exact h

namespace FunctionsFiled

theorem empty (origin : Nat) (filters : Filters) :
    (Model.empty origin filters).FunctionsFiled where
  numbered function node h := by simp [Model.empty, function?] at h
  agrees function package := by
    simp [functionShelving, functionsIn, packageOfFunction, package?, function?, Model.empty]

theorem rebuildIndex (h : model.FunctionsFiled) : model.rebuildIndex.FunctionsFiled where
  numbered := h.numbered
  agrees function package := by
    show (model.rebuildIndex.functionsIn package).count function =
      if model.packageOfFunction function = some package then 1 else 0
    rw [functionsIn_rebuildIndex]
    split
    · exact count_pointing (fun _ => rfl) (fun _ => rfl) (fun i node => h.numbered ⟨i⟩ node) _
        function package
    · next hforeign =>
        -- a pointer leads to a package, since that lists the function
        have hnone : model.functionsIn package = [] := by
          unfold functionsIn
          rw [Option.not_isSome_iff_eq_none.1 hforeign]
        rw [← hnone]
        exact h.agrees function package

/-- No operation writes the pointer of a function without the list that goes with it. -/
theorem effect (h : model.FunctionsFiled) {operation : Operation}
    (hrefusal : operation.refusal? model = none) : (operation.effect model).FunctionsFiled where
  numbered := inPlace_functions_effect h.numbered operation
  agrees := by
    obtain ⟨name, rfl⟩ | ⟨package, function, rfl⟩ | ⟨package, function, rfl⟩ | rfl | hkeeps :=
      operation.function_cases model
    · rw [Operation.effect, functionShelving_addFunction]
      exact h.agrees
    · obtain ⟨hpackage, hfunction⟩ := found_of_addFunctionToPackage hrefusal
      rw [Operation.effect, functionShelving_moveFunction hpackage hfunction]
      exact h.agrees.move package function
    · rw [Operation.effect, functionShelving_unlistFunction]
      exact h.agrees.unlist package function
    · exact h.rebuildIndex.agrees
    · rw [hkeeps.functionShelving_eq]
      exact h.agrees

/-- Following a reference does not touch functions. -/
theorem settleIn (h : model.FunctionsFiled) (table : SymbolTable) (site : Site) :
    (model.settleIn table site).FunctionsFiled := by
  have hkeeps : model.KeepsFunctions (model.settleIn table site) :=
    .of_packages_eq (by rw [settleIn_rest]) (by rw [settleIn_rest])
  constructor
  · unfold function?
    rw [hkeeps.functions]
    exact h.numbered
  · rw [hkeeps.functionShelving_eq]
    exact h.agrees

end FunctionsFiled

/-- In every reachable model the lists of functions say what their pointers say. -/
theorem Reachable.functionsFiled (h : model.Reachable) : model.FunctionsFiled :=
  h.invariant FunctionsFiled.empty FunctionsFiled.effect FunctionsFiled.settleIn
    fun hbefore _ => ⟨hbefore.numbered, hbefore.agrees⟩

/-! ## Types are listed where they point -/

/-- Building moves types into packages and never points them at one. -/
theorem build_paired {origin : Nat} {filters : Filters} {placeholders : Bool}
    {declarations : Declarations}
    (h : Model.build origin filters placeholders declarations = .ok model) :
    model.ReachableBy (Event.Obeys Operation.Paired) :=
  build_reachableBy h fun _ _ hbuilds => hbuilds.2

/-- As long as no pointer has been written alone, types are where they point. -/
theorem ReachableBy.places (h : model.ReachableBy (Event.Obeys Operation.Paired)) (ty : TypeId) :
    model.typeShelving.Places ty := by
  have hfiled : model.Filed := h.inStep.filed
  exact hfiled.agrees.places ty

/-- Functions always are: no operation writes their pointers alone. -/
theorem Reachable.places (h : model.Reachable) (function : FunctionId) :
    model.functionShelving.Places function :=
  h.functionsFiled.agrees.places function

/-- **The index**: in a model in whose history no pointer of a type has been
written alone, a type is in the list of the package that it points at, once, and
in the list of no other one; it is in none at all if it points nowhere.  For
functions that is so in every reachable model, and both are so in every model
that is built from declarations. -/
theorem index_places (model : Model) :
    (model.ReachableBy (Event.Obeys Operation.Paired) → ∀ ty, model.typeShelving.Places ty) ∧
      (model.Reachable → ∀ function, model.functionShelving.Places function) ∧
      ∀ origin filters placeholders declarations,
        Model.build origin filters placeholders declarations = .ok model →
          (∀ ty, model.typeShelving.Places ty) ∧
            ∀ function, model.functionShelving.Places function := by
  refine ⟨ReachableBy.places, Reachable.places, ?_⟩
  intro origin filters placeholders declarations hbuild
  exact ⟨(build_paired hbuild).places, (build_reachable hbuild).places⟩

/-- A class that moves from one package to another one, a function that is put
into a package after the pointer of a class has been written alone, and a class
that is built. -/
theorem index_places_of_moves :
    let packages := (Model.empty 0 .empty).run [.addPackage "Core", .addPackage "Util"]
    let moved := packages.run [.addType .classType "Logger", .addTypeToPackage ⟨0⟩ ⟨0⟩,
      .addTypeToPackage ⟨1⟩ ⟨0⟩]
    let repointed := packages.run [.addType .classType "Logger", .setPackage ⟨0⟩ (some ⟨0⟩),
      .addFunction "log", .addFunctionToPackage ⟨1⟩ ⟨0⟩]
    let declarations : Declarations :=
      ⟨[⟨"Core", [⟨"Logger", none, [], [], [], [], none⟩], [], []⟩]⟩
    (moved.ReachableBy (Event.Obeys Operation.Paired) ∧ moved.packageOf ⟨0⟩ = some ⟨1⟩ ∧
      moved.typeShelving.Places ⟨0⟩) ∧
    (repointed.Reachable ∧ repointed.packageOfFunction ⟨0⟩ = some ⟨1⟩ ∧
      repointed.functionShelving.Places ⟨0⟩) ∧
    ∃ built, Model.build 0 .empty false declarations = .ok built ∧
      built.typeShelving.Places ⟨0⟩ := by
  intro packages moved repointed declarations
  have hpackages : packages.ReachableBy (Event.Obeys Operation.Paired) :=
    (ReachableBy.empty 0 .empty).run (by simp [Event.Obeys, Operation.Paired])
  have hmoved : moved.ReachableBy (Event.Obeys Operation.Paired) :=
    hpackages.run (by simp [Event.Obeys, Operation.Paired])
  have hrepointed : repointed.Reachable := hpackages.reachable.run _
  have heq := @run_addPackage_addPackage "Core" "Util" (by decide)
  have hbuild := (build_eq_wired_iff 0 .empty declarations).2 ⟨by decide, rfl⟩
  obtain ⟨hbuilt, -⟩ := (index_places _).2.2 0 .empty false declarations hbuild
  refine ⟨⟨hmoved, ?_, (index_places moved).1 hmoved ⟨0⟩⟩,
    ⟨hrepointed, ?_, (index_places repointed).2.1 hrepointed ⟨0⟩⟩, _, hbuild, hbuilt ⟨0⟩⟩
  · unfold moved packages
    rw [heq]
    rfl
  · unfold repointed packages
    rw [heq]
    rfl

end Model

end TypeGraph
