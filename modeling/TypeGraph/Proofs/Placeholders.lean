import TypeGraph.Proofs.BuildOutcome
import TypeGraph.Proofs.Hiding
import TypeGraph.Proofs.Memo

/-!
# TypeGraph.Proofs.Placeholders

Placeholders that are hidden are as good as none.  A name that is not declared
leads to a type that nobody sees, or nowhere at all:

* `Depicts.mirrors` — without its placeholders, a model that hides them is the
  model that has none;
* `Model.build_hides_placeholders` — the two answer alike whatever is asked about
  declared types and packages, down to the handles and the order of lists.
-/

namespace TypeGraph

/-! ## Components -/

namespace DependencyGraph

/-- Components are found in the same way for the same leaders. -/
theorem componentsFrom_congr {component component' : TypeId → List TypeId}
    {pending : List TypeId} (assigned : Std.HashSet TypeId)
    (h : ∀ ty ∈ pending, component ty = component' ty) :
    componentsFrom component pending assigned = componentsFrom component' pending assigned := by
  induction pending generalizing assigned with
  | nil => rfl
  | cons ty pending ih =>
      have hrest (assigned : Std.HashSet TypeId) := ih assigned fun x hx => h x (by simp [hx])
      simp only [componentsFrom, h ty (by simp), hrest]

/-- The bound on handles does not matter as long as it is one. -/
theorem WellFormed.components_eq {graph : DependencyGraph} {size size' : Nat}
    (h : graph.WellFormed size) (h' : graph.WellFormed size') :
    graph.components size = graph.components size' := by
  refine componentsFrom_congr ∅ fun ty hty => ?_
  refine List.filter_congr fun x hx => ?_
  have hmem : x ∈ graph.componentOf size ty ↔ x ∈ graph.componentOf size' ty := by
    rw [h.mem_component hty, h'.mem_component hty]
  rw [componentOf, componentOf, component, component, List.mem_filter, List.mem_filter] at hmem
  rw [Bool.eq_iff_iff]
  simpa [hx] using hmem

end DependencyGraph

namespace Model

/-- Models with the same dependency graph have the same circles. -/
theorem Numbered.dependencyCycles_eq {model model' : Model} (h : model.Numbered)
    (h' : model'.Numbered) (hgraph : model.dependencyGraph = model'.dependencyGraph) :
    model.dependencyCycles = model'.dependencyCycles := by
  have hwell := h.dependencyGraph_wellFormed
  have hwell' := h'.dependencyGraph_wellFormed
  rw [← hgraph] at hwell'
  rw [dependencyCycles, dependencyCycles, ← hgraph, hwell.components_eq hwell']

/-! ## What is declared -/

variable {outlines missing : List Outline} {hidden bare : Model}

/-- The handles of the types that are outlined. -/
def outlined (outlines : List Outline) (ty : TypeId) : Bool := ty.index < outlines.length

/-- The types that have an outline come first. -/
theorem filter_outlined (outlines : List Outline) (more : Nat) :
    ((List.range (outlines.length + more)).map TypeId.mk).filter (outlined outlines) =
      (List.range outlines.length).map TypeId.mk := by
  rw [List.range_add, List.map_append, List.filter_append]
  have hfirst : ((List.range outlines.length).map TypeId.mk).filter (outlined outlines) =
      (List.range outlines.length).map TypeId.mk := by
    simp [List.filter_eq_self, outlined]
  rw [hfirst]
  simp [outlined, Function.comp_def]

namespace Depicts

/-- What the builder makes of declarations, apart from missing types. -/
structure Declared (outlines : List Outline) : Prop where
  userDefined : ∀ outline ∈ outlines, outline.face.userDefined = true
  memo : ∀ outline ∈ outlines, ∀ reference ∈ outline.face.references, reference.memo = none

/-- What the builder makes of missing types. -/
structure Missing (outlines : List Outline) : Prop where
  userDefined : ∀ outline ∈ outlines, outline.face.userDefined = false
  references : ∀ outline ∈ outlines, outline.face.references = []

/-- Declared types are marked as such. -/
theorem declared_outlines (entries : List Entry) : Declared (entries.map Entry.outline) where
  userDefined _ houtline := by
    obtain ⟨entry, -, rfl⟩ := List.mem_map.1 houtline
    rfl
  memo _ houtline reference hreference := by
    obtain ⟨entry, -, rfl⟩ := List.mem_map.1 houtline
    exact Entry.memo_eq_none hreference

/-- Placeholders are not, and they refer to nothing. -/
theorem missing_outlines (missing : List MissingType) :
    Missing (missing.map MissingType.outline) where
  userDefined _ houtline := by
    obtain ⟨first, -, rfl⟩ := List.mem_map.1 houtline
    rfl
  references _ houtline := by
    obtain ⟨first, -, rfl⟩ := List.mem_map.1 houtline
    rfl

section

variable (hhidden : hidden.Depicts (outlines ++ missing)) (hbare : bare.Depicts outlines)
include hhidden hbare

/-- A type that has an outline looks alike in both models. -/
theorem face_eq {ty : TypeId} (hty : outlined outlines ty = true) :
    (hidden.type? ty).map (·.face) = (bare.type? ty).map (·.face) := by
  rw [hhidden.face, hbare.face, List.getElem?_append_left (by simpa [outlined] using hty)]

/-- It points at the same package. -/
theorem packageOf_eq (hnames : bare.packageNames <+: hidden.packageNames) {ty : TypeId}
    (hty : outlined outlines ty = true) : hidden.packageOf ty = bare.packageOf ty := by
  have hlt : ty.index < outlines.length := by simpa [outlined] using hty
  have houtline : outlines[ty.index]? = some outlines[ty.index] := List.getElem?_eq_getElem hlt
  obtain ⟨package, hpointer, hname⟩ := hbare.package ty _ houtline
  obtain ⟨more, hmore⟩ := hnames
  rw [hpointer, hhidden.packageOf_eq_some_iff]
  refine ⟨outlines[ty.index], ?_, ?_⟩
  · rw [List.getElem?_append_left hlt, houtline]
  · rw [← hmore, List.getElem?_append_left (List.getElem?_eq_some_iff.1 hname).1, hname]

/-- Packages list it in both, in the same order. -/
theorem typesIn_eq (hnames : bare.packageNames <+: hidden.packageNames) (package : PackageId) :
    bare.typesIn package = (hidden.typesIn package).filter (outlined outlines) := by
  have hswap (types : List TypeId) (p q : TypeId → Bool) :
      (types.filter p).filter q = (types.filter q).filter p := by
    rw [List.filter_filter, List.filter_filter]
    exact List.filter_congr fun ty _ => Bool.and_comm _ _
  rw [hbare.listed, hhidden.listed, hswap, List.length_append, filter_outlined]
  refine List.filter_congr fun ty hty => ?_
  rw [← filter_outlined outlines 0] at hty
  rw [packageOf_eq hhidden hbare hnames (List.mem_filter.1 hty).2]

/-- A name resolves to a declared type, or else to a missing one. -/
theorem lookup_eq (hhidden' : hidden.SymbolsFirst) (hbare' : bare.SymbolsFirst) (name : String) :
    bare.lookup name = (hidden.lookup name).filter (outlined outlines) := by
  have hlookup (model : Model) : model.lookup name = model.symbols[symbolKey name]? := rfl
  rw [hlookup, hlookup, hhidden', hbare', hhidden.typeNames_eq, hbare.typeNames_eq,
    List.map_append, List.findIdx?_append]
  cases hfirst : (outlines.map (·.face.name)).findIdx? (symbolKey · == symbolKey name) with
  | some i =>
      have hlt : i < outlines.length := by
        obtain ⟨hi, -⟩ := List.findIdx?_eq_some_iff_getElem.1 hfirst
        simpa using hi
      simp [Option.filter, outlined, hlt]
  | none =>
      cases (missing.map (·.face.name)).findIdx? (symbolKey · == symbolKey name) with
      | some i => simp [Option.filter, outlined]
      | none => rfl

omit hbare in
/-- The declared types are those that are outlined as declared. -/
theorem isUserDefined_eq_outlined (hdeclared : Declared outlines) (hmissing : Missing missing)
    (ty : TypeId) : hidden.isUserDefined ty = outlined outlines ty := by
  have hface : hidden.isUserDefined ty =
      (outlines ++ missing)[ty.index]?.any (·.face.userDefined) := by
    have hany := congrArg (Option.any (·.userDefined)) (hhidden.face ty)
    rwa [Option.any_map, Option.any_map] at hany
  rw [hface, List.getElem?_append, outlined]
  split
  · rename_i hlt
    simp [hlt, hdeclared.userDefined]
  · rename_i hge
    cases hmiss : missing[ty.index - outlines.length]? with
    | none => simp [hge]
    | some outline => simp [hge, hmissing.userDefined outline (List.mem_of_getElem? hmiss)]

omit hbare in
/-- The filter for declared types hides the missing ones. -/
theorem isVisible_eq_outlined (hdeclared : Declared outlines) (hmissing : Missing missing)
    (hfilters : hidden.filters = .ofList [.userDefined]) (ty : TypeId) :
    hidden.isVisible ty = outlined outlines ty := by
  have haccepts (node : TypeNode) : hidden.accepts node = node.userDefined := by
    simp [accepts, hfilters, Filters.ofList, Filters.add, Filters.empty, Filters.accepts,
      Filter.accepts]
  rw [isVisible, funext haccepts]
  exact isUserDefined_eq_outlined hhidden hdeclared hmissing ty

omit hhidden in
/-- The other model has no types without an outline. -/
theorem isSome_type? (ty : TypeId) : (bare.type? ty).isSome = outlined outlines ty := by
  have hface := congrArg Option.isSome (hbare.face ty)
  rw [Option.isSome_map, Option.isSome_map] at hface
  rw [hface, outlined, Bool.eq_iff_iff]
  simp

omit hhidden in
theorem isVisible_bare (hempty : bare.filters = .empty) (ty : TypeId) :
    bare.isVisible ty = outlined outlines ty := by
  rw [isVisible_of_filters_empty hempty, hbare.isSome_type?]

/-- The one model mirrors the other, since filters hide nothing but placeholders. -/
theorem mirrors (hdeclared : Declared outlines) (hmissing : Missing missing)
    (hhidden' : hidden.Reachable) (hbare' : bare.Reachable)
    (hfilters : hidden.filters = .ofList [.userDefined]) (hempty : bare.filters = .empty) :
    hidden.Mirrors bare (outlined outlines) id where
  injective _ _ h := h
  wiring {ty} hty := by
    have hface := congrArg (Option.map TypeNode.wiring) (face_eq hhidden hbare hty)
    rw [Option.map_map, Option.map_map] at hface
    exact hface.symm
  resolve {ty} hty reference hreference := by
    have hlt : ty.index < outlines.length := by simpa [outlined] using hty
    have hmemo : reference.memo = none := by
      rw [hhidden.dependencies_eq, List.getElem?_append_left hlt,
        List.getElem?_eq_getElem hlt] at hreference
      exact hdeclared.memo _ (List.getElem_mem hlt) reference hreference
    have hlookup := lookup_eq hhidden hbare hhidden'.symbolsFirst hbare'.symbolsFirst reference.name
    rw [Option.map_id, id, resolve, resolve, TypeReference.target?, TypeReference.target?, hmemo]
    exact hlookup
  visible _ := by
    rw [id, isVisible_bare hbare hempty,
      isVisible_eq_outlined hhidden hdeclared hmissing hfilters]
  hidden hty := by rwa [isVisible_eq_outlined hhidden hdeclared hmissing hfilters]
  dead {ty} hty := by
    have hge : outlines.length ≤ ty.index := by simpa [outlined] using hty
    rw [hhidden.dependencies_eq, List.getElem?_append_right hge]
    cases hmiss : missing[ty.index - outlines.length]? with
    | none => rfl
    | some outline => exact hmissing.references outline (List.mem_of_getElem? hmiss)

/-- Both show the same types, in the same order. -/
theorem visibleTypes_eq (hdeclared : Declared outlines) (hmissing : Missing missing)
    (hhidden' : hidden.Numbered) (hbare' : bare.Numbered)
    (hfilters : hidden.filters = .ofList [.userDefined]) (hempty : bare.filters = .empty) :
    bare.visibleTypes = hidden.visibleTypes := by
  rw [visibleTypes, visibleTypes, hhidden'.typeIds_eq, hbare'.typeIds_eq, hhidden.size_eq,
    hbare.size_eq, funext (isVisible_bare hbare hempty),
    funext (isVisible_eq_outlined hhidden hdeclared hmissing hfilters), List.length_append,
    filter_outlined]
  exact filter_outlined outlines 0

end

end Depicts

/-! ## Building with and without placeholders -/

/-- Whatever is asked about the types and packages of the second model, the
first one answers the same. -/
structure AnswersAs (hidden bare : Model) : Prop where
  /-- The types of the second model are the declared ones of the first. -/
  userDefined : ∀ ty, hidden.isUserDefined ty = (bare.type? ty).isSome
  types : ∀ ty, (bare.type? ty).isSome →
    (hidden.type? ty).map (·.face) = (bare.type? ty).map (·.face)
  packages : ∀ package, (bare.package? package).isSome →
    (hidden.package? package).map (·.name) = (bare.package? package).map (·.name)
  parentClass : ∀ ty, (bare.type? ty).isSome → hidden.parentClass ty = bare.parentClass ty
  interfaces : ∀ ty, (bare.type? ty).isSome → hidden.interfaces ty = bare.interfaces ty
  ancestors : ∀ ty, (bare.type? ty).isSome → hidden.ancestors ty = bare.ancestors ty
  resolvedDependencies : ∀ ty, (bare.type? ty).isSome →
    hidden.resolvedDependencies ty = bare.resolvedDependencies ty
  childClasses : ∀ ty, (bare.type? ty).isSome → hidden.childClasses ty = bare.childClasses ty
  implementors : ∀ ty, (bare.type? ty).isSome → hidden.implementors ty = bare.implementors ty
  packageDependencies : ∀ package, (bare.package? package).isSome →
    hidden.packageDependencies package = bare.packageDependencies package
  isSubtypeOf : ∀ ty other, (bare.type? ty).isSome → (bare.type? other).isSome →
    hidden.isSubtypeOf ty other = bare.isSubtypeOf ty other
  dependencyGraph : hidden.dependencyGraph = bare.dependencyGraph
  dependencyCycles : hidden.dependencyCycles = bare.dependencyCycles

/-- Packages that both have are called the same. -/
theorem map_name_package?_eq (hnames : bare.packageNames <+: hidden.packageNames)
    {package : PackageId} (hpackage : (bare.package? package).isSome) :
    (hidden.package? package).map (·.name) = (bare.package? package).map (·.name) := by
  obtain ⟨more, hmore⟩ := hnames
  have hlt : package.index < bare.packageNames.length := by
    rw [length_packageNames]
    simpa [package?] using hpackage
  rw [← getElem?_packageNames, ← getElem?_packageNames, ← hmore, List.getElem?_append_left hlt]

/-- Placeholders that a filter hides change no answer. -/
theorem Depicts.answersAs (hhidden : hidden.Depicts (outlines ++ missing))
    (hbare : bare.Depicts outlines) (hdeclared : Declared outlines) (hmissing : Missing missing)
    (hhidden' : hidden.Reachable) (hbare' : bare.Reachable)
    (hfilters : hidden.filters = .ofList [.userDefined]) (hempty : bare.filters = .empty)
    (hnames : bare.packageNames <+: hidden.packageNames) : hidden.AnswersAs bare := by
  have hmirrors := mirrors hhidden hbare hdeclared hmissing hhidden' hbare' hfilters hempty
  have horder : bare.visibleTypes = hidden.visibleTypes.map id := by
    rw [List.map_id, visibleTypes_eq hhidden hbare hdeclared hmissing hhidden'.numbered
      hbare'.numbered hfilters hempty]
  have hgraph : hidden.dependencyGraph = bare.dependencyGraph := by
    have hsame := hmirrors.dependencyGraph_eq hhidden'.numbered hbare'.numbered horder
    have hrename : Edge.rename id = id := rfl
    rw [hrename, List.map_id, List.map_id] at hsame
    exact hsame.symm
  have halive (ty : TypeId) (hty : (bare.type? ty).isSome) : outlined outlines ty = true :=
    (hbare.isSome_type? ty).symm.trans hty
  exact {
    userDefined := fun ty =>
      (isUserDefined_eq_outlined hhidden hdeclared hmissing ty).trans (hbare.isSome_type? ty).symm
    types := fun ty hty => face_eq hhidden hbare (halive ty hty)
    packages := fun _ hpackage => map_name_package?_eq hnames hpackage
    parentClass := fun ty hty => by simpa using (hmirrors.parentClass_eq (halive ty hty)).symm
    interfaces := fun ty hty => by simpa using (hmirrors.interfaces_eq (halive ty hty)).symm
    ancestors := fun ty hty => by simpa using (hmirrors.ancestors_eq (halive ty hty)).symm
    resolvedDependencies := fun ty hty => by
      simpa using (hmirrors.resolvedDependencies_eq (halive ty hty)).symm
    childClasses := fun ty hty => by
      simpa using (hmirrors.childClasses_eq hhidden'.numbered hbare'.numbered horder
        (halive ty hty)).symm
    implementors := fun ty hty => by
      simpa using (hmirrors.implementors_eq hhidden'.numbered hbare'.numbered horder
        (halive ty hty)).symm
    packageDependencies := fun package _ => by
      have htypes : bare.typesIn package =
          ((hidden.typesIn package).filter (outlined outlines)).map id := by
        rw [List.map_id, typesIn_eq hhidden hbare hnames]
      exact (hmirrors.packageDependencies_eq hhidden'.numbered hbare'.numbered htypes
        fun hty => (packageOf_eq hhidden hbare hnames hty).symm).symm
    isSubtypeOf := fun ty other hty hother =>
      (hmirrors.isSubtypeOf_eq (halive ty hty) (halive other hother)).symm
    dependencyGraph := hgraph
    dependencyCycles := hhidden'.numbered.dependencyCycles_eq hbare'.numbered hgraph }

/-- **Placeholders**: a model that is built with placeholders and hides them
answers as the one that is built without; or both are refused for one fault. -/
theorem build_hides_placeholders (origin origin' : Nat) (declarations : Declarations) :
    (∃ error, Model.build origin (.ofList [.userDefined]) true declarations = .error error ∧
      Model.build origin' .empty false declarations = .error error) ∨
    ∃ hidden bare, Model.build origin (.ofList [.userDefined]) true declarations = .ok hidden ∧
      Model.build origin' .empty false declarations = .ok bare ∧ hidden.AnswersAs bare := by
  have hhidden := build_eq origin (.ofList [.userDefined]) declarations true
  have hbare := build_eq origin' .empty declarations false
  cases hfault : declarations.fault? with
  | some error =>
      rw [hfault] at hhidden hbare
      exact .inl ⟨error, hhidden, hbare⟩
  | none =>
      rw [hfault] at hhidden hbare
      obtain ⟨hcompleted, hnames⟩ := depicts_completed origin (.ofList [.userDefined]) declarations
      have hwired := depicts_wired origin' .empty declarations
      rw [packageNames_wired, ← packageNames_wired origin' .empty] at hnames
      exact .inr ⟨_, _, hhidden, hbare, hcompleted.answersAs hwired (Depicts.declared_outlines _)
        (Depicts.missing_outlines _) (build_reachable hhidden) (build_reachable hbare)
        (build_filters hhidden) (build_filters hbare) hnames⟩

end Model

end TypeGraph
