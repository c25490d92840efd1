import TypeGraph.Proofs.Subtypes
import TypeGraph.Proofs.Visible

/-!
# TypeGraph.Proofs.Mirror

Two models that tell the same under different handles.  Some types of the first
one are alive, and each of them has an image in the second one; the others are
hidden and have no references.  An image has the references of its original,
which point at the images of what they pointed at.

1. `MirrorsSteps` is about the declared steps alone, whatever the filters say;
   the plain walk from an image lists the images of what is alive;
2. `Mirrors` adds kinds, references and visibility; every question about one or
   two types is then answered by the images of the answer;
3. `Mirrors.dependencyGraph_eq` and its neighbours are about all types, and so
   they ask for images in the order of their originals.
-/

namespace TypeGraph

/-! ## Lists under a map -/

section Lists

variable {α β : Type} [DecidableEq α] [DecidableEq β] {f : α → β}

/-- Leaving repetitions out commutes with a renaming that tells the elements apart. -/
theorem eraseDups_map : (l : List α) → (∀ a ∈ l, ∀ b ∈ l, f a = f b → a = b) →
    (l.map f).eraseDups = l.eraseDups.map f
  | [], _ => rfl
  | a :: l, hf => by
      have hrest : (l.map f).filter (fun b => !b == f a) =
          (l.filter fun b => !b == a).map f := by
        rw [List.filter_map]
        congr 1
        refine List.filter_congr fun b hb => ?_
        by_cases hba : b = a
        · simp [hba]
        · have hne : f b ≠ f a := fun h => hba (hf b (by simp [hb]) a (by simp) h)
          simp [hba, hne]
      have ih := eraseDups_map (l.filter fun b => !b == a) fun x hx y hy =>
        hf x (by simp [List.mem_of_mem_filter hx]) y (by simp [List.mem_of_mem_filter hy])
      rw [List.map_cons, List.eraseDups_cons, List.eraseDups_cons, List.map_cons, hrest, ih]
termination_by l => l.length
decreasing_by exact Nat.lt_succ_of_le (List.length_filter_le ..)

theorem firstUnseen_map {seen l : List α}
    (hf : ∀ a ∈ seen ++ l, ∀ b ∈ seen ++ l, f a = f b → a = b) :
    Model.firstUnseen (seen.map f) (l.map f) = (Model.firstUnseen seen l).map f := by
  induction l generalizing seen with
  | nil => rfl
  | cons a l ih =>
      have hmem : f a ∈ seen.map f ↔ a ∈ seen := by
        rw [List.mem_map]
        constructor
        · rintro ⟨b, hb, heq⟩
          rwa [← hf b (by simp [hb]) a (by simp) heq]
        · exact fun ha => ⟨a, ha, rfl⟩
      rw [List.map_cons, Model.firstUnseen, Model.firstUnseen]
      by_cases ha : a ∈ seen
      · rw [if_pos (hmem.2 ha), if_pos ha]
        exact ih fun x hx y hy => hf x (by grind) y (by grind)
      · have hrest : Model.firstUnseen ((a :: seen).map f) (l.map f) =
            (Model.firstUnseen (a :: seen) l).map f :=
          ih fun x hx y hy => hf x (by grind) y (by grind)
        rw [if_neg (mt hmem.1 ha), if_neg ha, List.map_cons, ← hrest]
        rfl

omit [DecidableEq α] [DecidableEq β] in
/-- What is left out gives nothing. -/
theorem flatMap_filter {γ : Type} {p : α → Bool} {g h : α → List γ} {l : List α}
    (hkept : ∀ a ∈ l, p a = true → g a = h a) (hleft : ∀ a ∈ l, p a = false → h a = []) :
    (l.filter p).flatMap g = l.flatMap h := by
  induction l with
  | nil => rfl
  | cons a l ih =>
      have ih := ih (fun b hb => hkept b (by simp [hb])) fun b hb => hleft b (by simp [hb])
      cases hp : p a with
      | true => simp [hp, ih, hkept a (by simp) hp]
      | false => simp [hp, ih, hleft a (by simp) hp]

end Lists

namespace Model

variable {model image : Model} {alive : TypeId → Bool} {f : TypeId → TypeId}

/-! ## Steps -/

/-- The declared steps of the living types are those of their images.  Whatever
is not alive leads nowhere. -/
structure MirrorsSteps (model image : Model) (alive : TypeId → Bool) (f : TypeId → TypeId) :
    Prop where
  injective : ∀ {x y}, alive x = true → alive y = true → f x = f y → x = y
  interfaces : ∀ {x}, alive x = true →
    image.declaredInterfaces (f x) = ((model.declaredInterfaces x).filter alive).map f
  parent : ∀ {x}, alive x = true →
    image.declaredParent (f x) = ((model.declaredParent x).filter alive).map f
  dead : ∀ {x y}, alive x = false → ¬ model.LeadsTo x y

/-- The plain walk from a type goes through its interfaces, and then to its parent. -/
theorem plainWalk_eq_append (model : Model) (path : List TypeId) (ty : TypeId) :
    model.plainWalk path ty =
      (model.declaredInterfaces ty).flatMap (fun i => i :: model.below path i)
        ++ (model.declaredParent ty).toList.flatMap (model.below path) := by
  rw [plainWalk_eq, links_eq, List.flatMap_append, List.flatMap_map, List.flatMap_map]
  rfl

/-- A walk from a type that leads nowhere ends there. -/
theorem plainWalk_of_not_leadsTo {path : List TypeId} {ty : TypeId}
    (h : ∀ y, ¬ model.LeadsTo ty y) : model.plainWalk path ty = [] := by
  have hinterfaces : model.declaredInterfaces ty = [] :=
    List.eq_nil_iff_forall_not_mem.2 fun y hy => h y (.interface hy)
  have hparent : model.declaredParent ty = none :=
    Option.eq_none_iff_forall_ne_some.2 fun y hy => h y (.parent hy)
  simp [plainWalk_eq_append, hinterfaces, hparent]

namespace MirrorsSteps

/-- Below a type that is not alive there is nothing. -/
theorem below_eq_nil (h : model.MirrorsSteps image alive f) {path : List TypeId} {x : TypeId}
    (hx : alive x = false) : model.below path x = [] := by
  rw [below]
  split
  · rfl
  · exact plainWalk_of_not_leadsTo fun _ => h.dead hx

/-- The walk from an image lists the images of what is alive. -/
theorem plainWalk_eq (h : model.MirrorsSteps image alive f) {path : List TypeId} {ty : TypeId}
    (hpath : ∀ x ∈ path, alive x = true) (hty : alive ty = true) :
    image.plainWalk (path.map f) (f ty) = ((model.plainWalk path ty).filter alive).map f := by
  induction path, ty using plainWalk.induct model with
  | case1 path ty ih_interface ih_parent =>
      -- below a living type the induction hypothesis applies unless the path turns back
      have hbelow {x : TypeId} (hx : alive x = true)
          (ih : x ∉ path → image.plainWalk ((x :: path).map f) (f x) =
            ((model.plainWalk (x :: path) x).filter alive).map f) :
          image.below (path.map f) (f x) = ((model.below path x).filter alive).map f := by
        have hmem : f x ∈ path.map f ↔ x ∈ path := by
          rw [List.mem_map]
          constructor
          · rintro ⟨y, hy, heq⟩
            rwa [← h.injective (hpath y hy) hx heq]
          · exact fun hx => ⟨x, hx, rfl⟩
        rw [below, below]
        by_cases hturn : x ∈ path
        · rw [if_pos (hmem.2 hturn), if_pos hturn]
          rfl
        · rw [if_neg (mt hmem.1 hturn), if_neg hturn, ← ih hturn, List.map_cons]
      have hcons {x : TypeId} (hx : alive x = true) : ∀ y ∈ x :: path, alive y = true := by
        simpa [hx] using hpath
      rw [plainWalk_eq_append, plainWalk_eq_append, h.interfaces hty, h.parent hty,
        List.filter_append, List.map_append, List.flatMap_map, List.filter_flatMap,
        List.filter_flatMap, List.map_flatMap, List.map_flatMap]
      congr 1
      · refine flatMap_filter (fun i hi hlive => ?_) fun i _ hdead => ?_
        · rw [hbelow hlive fun hturn => ih_interface i hi hturn (hcons hlive) hlive]
          simp [hlive]
        · simp [hdead, h.below_eq_nil hdead]
      · cases hp : model.declaredParent ty with
        | none => rfl
        | some p =>
            cases hlive : alive p with
            | false => simp [hlive, h.below_eq_nil hlive]
            | true =>
                have hbelow := hbelow hlive fun hturn =>
                  ih_parent p (by simp [hp]) hturn (hcons hlive) hlive
                simp [Option.filter, hlive, hbelow]

/-- The interfaces of an image are the images of the interfaces, if the same
types are visible. -/
theorem interfaces_eq (h : model.MirrorsSteps image alive f)
    (hvisible : ∀ {x}, alive x = true → image.isVisible (f x) = model.isVisible x)
    (hhidden : ∀ {x}, alive x = false → model.isVisible x = false) {ty : TypeId}
    (hty : alive ty = true) : image.interfaces (f ty) = (model.interfaces ty).map f := by
  have hwalk : image.plainWalk ([ty].map f) (f ty) =
      ((model.plainWalk [ty] ty).filter alive).map f :=
    h.plainWalk_eq (by simp [hty]) hty
  have hinjective : ∀ a ∈ (model.plainWalk [ty] ty).filter alive,
      ∀ b ∈ (model.plainWalk [ty] ty).filter alive, f a = f b → a = b := by
    intro a ha b hb
    exact h.injective (List.mem_filter.1 ha).2 (List.mem_filter.1 hb).2
  rw [interfaces_eq_plainWalk, interfaces_eq_plainWalk, ← List.map_singleton, hwalk,
    eraseDups_map _ hinjective, eraseDups_filter, List.filter_map, List.filter_filter]
  congr 1
  refine List.filter_congr fun x _ => ?_
  cases hx : alive x with
  | false => simp [hhidden hx]
  | true =>
      have hne : (f x != f ty) = (x != ty) := by
        rw [Bool.eq_iff_iff, bne_iff_ne, bne_iff_ne]
        exact not_congr ⟨h.injective hx hty, congrArg f⟩
      simp [hvisible hx, hne]

end MirrorsSteps

end Model

/-! ## References -/

/-- What a type is and what it refers to. -/
def TypeNode.wiring (node : TypeNode) : TypeKind × List TypeReference × Option TypeReference :=
  (node.kind, node.interfaces, node.parent)

/-- The edge between the images of two types. -/
def Edge.rename (f : TypeId → TypeId) (edge : Edge) : Edge :=
  { edge with source := f edge.source, target := f edge.target }

namespace Model

variable {model image : Model} {alive : TypeId → Bool} {f : TypeId → TypeId}

/-- Dependencies can be told from the wiring. -/
theorem dependencies_eq_wiring (model : Model) (x : TypeId) :
    model.dependencies x = match (model.type? x).map TypeNode.wiring with
      | none => []
      | some (_, interfaces, parent) => interfaces ++ parent.toList := by
  rw [dependencies]
  cases model.type? x <;> rfl

/-- So can the declared interfaces. -/
theorem declaredInterfaces_eq_wiring (model : Model) (x : TypeId) :
    model.declaredInterfaces x = match (model.type? x).map TypeNode.wiring with
      | none => []
      | some (_, interfaces, _) => interfaces.filterMap model.resolve := by
  rw [declaredInterfaces]
  cases model.type? x <;> rfl

/-- So can the declared parent. -/
theorem declaredParent_eq_wiring (model : Model) (x : TypeId) :
    model.declaredParent x = match (model.type? x).map TypeNode.wiring with
      | none => none
      | some (_, _, parent) => parent.bind model.resolve := by
  rw [declaredParent]
  cases model.type? x <;> rfl

/-- The references point at the interfaces and at the parent. -/
theorem filterMap_resolve_dependencies (model : Model) (x : TypeId) :
    (model.dependencies x).filterMap model.resolve =
      model.declaredInterfaces x ++ (model.declaredParent x).toList := by
  rw [dependencies_eq_wiring, declaredInterfaces_eq_wiring, declaredParent_eq_wiring]
  cases (model.type? x).map TypeNode.wiring with
  | none => rfl
  | some wiring =>
      obtain ⟨-, interfaces, parent⟩ := wiring
      cases parent with
      | none => simp
      | some reference => cases hresolve : model.resolve reference <;> simp [hresolve]

/-- Every living type has an image of its kind with its references, which point
at the images of their targets; it is visible if its image is.  Whatever is not
alive is hidden and refers to nothing. -/
structure Mirrors (model image : Model) (alive : TypeId → Bool) (f : TypeId → TypeId) :
    Prop where
  injective : ∀ {x y}, alive x = true → alive y = true → f x = f y → x = y
  wiring : ∀ {x}, alive x = true →
    (image.type? (f x)).map TypeNode.wiring = (model.type? x).map TypeNode.wiring
  resolve : ∀ {x}, alive x = true → ∀ reference ∈ model.dependencies x,
    image.resolve reference = ((model.resolve reference).filter alive).map f
  visible : ∀ {x}, alive x = true → image.isVisible (f x) = model.isVisible x
  hidden : ∀ {x}, alive x = false → model.isVisible x = false
  dead : ∀ {x}, alive x = false → model.dependencies x = []

namespace Mirrors

variable {x y : TypeId}

/-- Visible types are alive. -/
theorem alive_of_isVisible (h : model.Mirrors image alive f) (hx : model.isVisible x = true) :
    alive x = true := by
  cases halive : alive x with
  | true => rfl
  | false => exact absurd (h.hidden halive) (by simp [hx])

/-- The renaming tells types that are alive apart. -/
theorem mem_map_iff (h : model.Mirrors image alive f) {types : List TypeId}
    (htypes : ∀ z ∈ types, alive z = true) (hx : alive x = true) :
    f x ∈ types.map f ↔ x ∈ types := by
  rw [List.mem_map]
  constructor
  · rintro ⟨z, hz, heq⟩
    rwa [← h.injective (htypes z hz) hx heq]
  · exact fun hx => ⟨x, hx, rfl⟩

/-- Types have the kinds of their images. -/
theorem typeKind_eq (h : model.Mirrors image alive f) (hx : alive x = true) :
    image.typeKind (f x) = model.typeKind x := by
  have hkind := congrArg (Option.map Prod.fst) (h.wiring hx)
  rwa [Option.map_map, Option.map_map] at hkind

/-- Types depend on the same names as their images. -/
theorem dependencies_eq (h : model.Mirrors image alive f) (hx : alive x = true) :
    image.dependencies (f x) = model.dependencies x := by
  rw [dependencies_eq_wiring, dependencies_eq_wiring, h.wiring hx]

/-- The targets of references of a type have their images for targets. -/
theorem filterMap_resolve (h : model.Mirrors image alive f) (hx : alive x = true)
    {references : List TypeReference} (hreferences : references ⊆ model.dependencies x) :
    references.filterMap image.resolve =
      ((references.filterMap model.resolve).filter alive).map f := by
  induction references with
  | nil => rfl
  | cons reference references ih =>
      have hresolve := h.resolve hx reference (hreferences (by simp))
      have ih := ih fun r hr => hreferences (by simp [hr])
      cases htarget : model.resolve reference with
      | none =>
          rw [htarget] at hresolve
          simp [htarget, hresolve, ih]
      | some target =>
          rw [htarget] at hresolve
          cases halive : alive target with
          | true => simp_all
          | false => simp_all

/-- The image declares the same links, renamed. -/
theorem steps (h : model.Mirrors image alive f) : model.MirrorsSteps image alive f where
  injective := h.injective
  interfaces {x} hx := by
    rw [declaredInterfaces_eq_wiring image, declaredInterfaces_eq_wiring model, h.wiring hx]
    cases hwiring : (model.type? x).map TypeNode.wiring with
    | none => rfl
    | some wiring =>
        have hreferences : wiring.2.1 ⊆ model.dependencies x := by
          rw [dependencies_eq_wiring, hwiring]
          exact List.subset_append_left _ _
        exact h.filterMap_resolve hx hreferences
  parent {x} hx := by
    rw [declaredParent_eq_wiring image, declaredParent_eq_wiring model, h.wiring hx]
    cases hwiring : (model.type? x).map TypeNode.wiring with
    | none => rfl
    | some wiring =>
        obtain ⟨kind, interfaces, parent⟩ := wiring
        cases parent with
        | none => rfl
        | some reference =>
            have hreference : reference ∈ model.dependencies x := by
              rw [dependencies_eq_wiring, hwiring]
              exact List.mem_append_right _ (by simp)
            exact h.resolve hx reference hreference
  dead {x y} hx hstep := by
    have hnone := filterMap_resolve_dependencies model x
    rw [h.dead hx, List.filterMap_nil, eq_comm, List.append_eq_nil_iff] at hnone
    cases hstep with
    | interface hi => simp [hnone.1] at hi
    | parent hp => simp [hp] at hnone

/-! ## Questions about one or two types -/

/-- Interfaces are those of the image, renamed. -/
theorem interfaces_eq (h : model.Mirrors image alive f) (hx : alive x = true) :
    image.interfaces (f x) = (model.interfaces x).map f :=
  h.steps.interfaces_eq h.visible h.hidden hx

/-- Parents are those of the image, renamed. -/
theorem parentClass_eq (h : model.Mirrors image alive f) (hx : alive x = true) :
    image.parentClass (f x) = (model.parentClass x).map f := by
  rw [parentClass, parentClass, h.steps.parent hx]
  cases model.declaredParent x with
  | none => rfl
  | some p =>
      cases hp : alive p with
      | true =>
          have hsame := h.visible hp
          cases hvisible : model.isVisible p <;> simp [Option.filter, hp, hsame, hvisible]
      | false => simp [Option.filter, hp, h.hidden hp]

/-- Chains of parents are those of the image, renamed, as long as the same types have
been visited. -/
theorem ancestorsFrom_eq (h : model.Mirrors image alive f) {visited visited' : Std.HashSet TypeId}
    (hvisited : ∀ {y}, alive y = true → visited'.contains (f y) = visited.contains y)
    (hx : alive x = true) :
    image.ancestorsFrom visited' (f x) = (model.ancestorsFrom visited x).map f := by
  induction visited, x using ancestorsFrom.induct model generalizing visited' with
  | case1 visited x hnone =>
      have hparent := h.parentClass_eq hx
      rw [hnone] at hparent
      rw [ancestorsFrom_of_none hnone, ancestorsFrom_of_none hparent, List.map_nil]
  | case2 visited x p hsome hold =>
      have hparent := h.parentClass_eq hx
      rw [hsome, Option.map_some] at hparent
      have hp := h.alive_of_isVisible (isVisible_of_extends hsome)
      rw [ancestorsFrom_of_visited hsome hold,
        ancestorsFrom_of_visited hparent (by rw [hvisited hp, hold]), List.map_nil]
  | case3 visited x p hsome hnew ih =>
      have hparent := h.parentClass_eq hx
      rw [hsome, Option.map_some] at hparent
      have hp := h.alive_of_isVisible (isVisible_of_extends hsome)
      have hinsert {y : TypeId} (hy : alive y = true) :
          (visited'.insert (f p)).contains (f y) = (visited.insert p).contains y := by
        have hsame : (f p == f y) = (p == y) := by
          rw [Bool.eq_iff_iff, beq_iff_eq, beq_iff_eq]
          exact ⟨h.injective hp hy, congrArg f⟩
        rw [Std.HashSet.contains_insert, Std.HashSet.contains_insert, hvisited hy, hsame]
      rw [ancestorsFrom_of_new hsome hnew,
        ancestorsFrom_of_new hparent (by rwa [hvisited hp]), List.map_cons, ih hinsert hp]

/-- Ancestors are those of the image, renamed. -/
theorem ancestors_eq (h : model.Mirrors image alive f) (hx : alive x = true) :
    image.ancestors (f x) = (model.ancestors x).map f := by
  refine h.ancestorsFrom_eq (fun {y} hy => ?_) hx
  rw [Bool.eq_iff_iff, ← Std.HashSet.mem_iff_contains, ← Std.HashSet.mem_iff_contains,
    mem_singleton_iff, mem_singleton_iff]
  exact ⟨h.injective hy hx, congrArg f⟩

/-- Resolved dependencies are those of the image, renamed. -/
theorem resolvedDependencies_eq (h : model.Mirrors image alive f) (hx : alive x = true) :
    image.resolvedDependencies (f x) = (model.resolvedDependencies x).map f := by
  have hvisible : ((((model.dependencies x).filterMap model.resolve).filter alive).map f).filter
      image.isVisible = (((model.dependencies x).filterMap model.resolve).filter
        model.isVisible).map f := by
    rw [List.filter_map, List.filter_filter]
    congr 1
    refine List.filter_congr fun y _ => ?_
    cases hy : alive y with
    | true => simp [h.visible hy]
    | false => simp [h.hidden hy]
  rw [resolvedDependencies, resolvedDependencies, h.dependencies_eq hx,
    h.filterMap_resolve hx (List.Subset.refl _), hvisible, ← List.map_singleton]
  refine firstUnseen_map fun a ha b hb => ?_
  have halive {y : TypeId} (hy : y ∈ [x] ++ ((model.dependencies x).filterMap
      model.resolve).filter model.isVisible) : alive y = true := by
    obtain hself | hvisible := List.mem_append.1 hy
    · rwa [List.mem_singleton.1 hself]
    · exact h.alive_of_isVisible (List.mem_filter.1 hvisible).2
  exact h.injective (halive ha) (halive hb)

theorem alive_of_mem_interfaces (h : model.Mirrors image alive f) :
    ∀ y ∈ model.interfaces x, alive y = true :=
  fun _ hy => h.alive_of_isVisible (mem_interfaces.1 hy).2.1

theorem alive_of_mem_ancestors (h : model.Mirrors image alive f) :
    ∀ y ∈ model.ancestors x, alive y = true :=
  fun _ hy => h.alive_of_isVisible (mem_ancestors.1 hy).1.isVisible

/-- The same types are subtypes of each other. -/
theorem isSubtypeOf_eq (h : model.Mirrors image alive f) (hx : alive x = true)
    (hy : alive y = true) : image.isSubtypeOf (f x) (f y) = model.isSubtypeOf x y := by
  rw [Bool.eq_iff_iff, isSubtypeOf_iff, isSubtypeOf_iff, h.typeKind_eq hx, h.typeKind_eq hy,
    h.interfaces_eq hx, h.ancestors_eq hx, h.mem_map_iff h.alive_of_mem_interfaces hy,
    h.mem_map_iff h.alive_of_mem_ancestors hy]
  exact or_congr_left ⟨h.injective hx hy, congrArg f⟩

/-! ## Edges and circles -/

/-- Edges are those of the image, renamed. -/
theorem edgesFrom_eq (h : model.Mirrors image alive f) (hx : alive x = true) :
    image.edgesFrom (f x) = (model.edgesFrom x).map (Edge.rename f) := by
  -- along the references, with the edges so far leading to living types
  have hfold (references : List TypeReference) (edges : List Edge)
      (hreferences : references ⊆ model.dependencies x)
      (hedges : ∀ edge ∈ edges, alive edge.target = true) :
      references.foldl (image.addEdge (f x)) (edges.map (Edge.rename f)) =
        (references.foldl (model.addEdge x) edges).map (Edge.rename f) := by
    induction references generalizing edges with
    | nil => rfl
    | cons reference references ih =>
        have hresolve := h.resolve hx reference (hreferences (by simp))
        have ih (edges : List Edge) (hedges : ∀ edge ∈ edges, alive edge.target = true) :=
          ih edges (fun r hr => hreferences (by simp [hr])) hedges
        rw [List.foldl_cons, List.foldl_cons, addEdge, addEdge, hresolve]
        cases model.resolve reference with
        | none => exact ih edges hedges
        | some target =>
            cases htarget : alive target with
            | false => simpa [Option.filter, htarget, h.hidden htarget] using ih edges hedges
            | true =>
                have hany : (edges.map (Edge.rename f)).any (·.target == f target) =
                    edges.any (·.target == target) := by
                  rw [Bool.eq_iff_iff, List.any_map, List.any_eq_true, List.any_eq_true]
                  simp only [Function.comp_apply, Edge.rename, beq_iff_eq]
                  exact exists_congr fun edge => and_congr_right fun hedge =>
                    ⟨h.injective (hedges edge hedge) htarget, congrArg f⟩
                have hvisible := h.visible htarget
                simp only [Option.filter, htarget, if_true, Option.map_some, hvisible, hany]
                split
                · rw [← ih _ (by simpa [htarget, or_imp, forall_and] using hedges)]
                  simp [Edge.rename]
                · exact ih edges hedges
  rw [edgesFrom_eq_foldl, edgesFrom_eq_foldl, h.dependencies_eq hx]
  exact hfold _ [] (List.Subset.refl _) (by simp)

section Circles

variable (hmodel : model.Numbered) (himage : image.Numbered)
include hmodel himage

/-- The edges from an image lead to the images of targets. -/
theorem dependsOn_image_iff (h : model.Mirrors image alive f) (hx : alive x = true) :
    image.dependencyGraph.dependsOn (f x) y = true ↔
      ∃ target, alive target = true ∧ f target = y ∧
        model.dependencyGraph.dependsOn x target = true := by
  simp only [hmodel.dependsOn_iff, himage.dependsOn_iff, h.visible hx, h.edgesFrom_eq hx,
    List.mem_map]
  constructor
  · rintro ⟨hvisible, _, ⟨edge, hedge, rfl⟩, rfl⟩
    have htarget := h.alive_of_isVisible (of_mem_edgesFrom hedge).2.1
    exact ⟨edge.target, htarget, rfl, hvisible, edge, hedge, rfl⟩
  · rintro ⟨target, -, rfl, hvisible, edge, hedge, rfl⟩
    exact ⟨hvisible, _, ⟨edge, hedge, rfl⟩, rfl⟩

/-- Paths in the image are images of paths. -/
theorem reaches_image_iff (h : model.Mirrors image alive f) (hx : alive x = true) :
    image.dependencyGraph.Reaches (f x) y ↔
      ∃ target, alive target = true ∧ f target = y ∧ model.dependencyGraph.Reaches x target := by
  constructor
  · intro hreaches
    induction hreaches with
    | refl => exact ⟨x, hx, rfl, .refl⟩
    | tail _ hstep ih =>
        obtain ⟨middle, hmiddle, rfl, hreaches⟩ := ih
        obtain ⟨target, htarget, rfl, hedge⟩ :=
          (h.dependsOn_image_iff hmodel himage hmiddle).1 hstep
        exact ⟨target, htarget, rfl, hreaches.tail hedge⟩
  · rintro ⟨target, htarget, rfl, hreaches⟩
    induction hreaches with
    | refl => exact .refl
    | tail _ hedge ih =>
        have hmiddle := h.alive_of_isVisible (hmodel.dependsOn_iff.1 hedge).1
        exact (ih hmiddle).tail
          ((h.dependsOn_image_iff hmodel himage hmiddle).2 ⟨_, htarget, rfl, hedge⟩)

/-- Types are in one component if their images are. -/
theorem mutual_image_iff (h : model.Mirrors image alive f) (hx : alive x = true)
    (hy : alive y = true) :
    image.dependencyGraph.Mutual (f x) (f y) ↔ model.dependencyGraph.Mutual x y := by
  have hreaches {a b : TypeId} (ha : alive a = true) (hb : alive b = true) :
      image.dependencyGraph.Reaches (f a) (f b) ↔ model.dependencyGraph.Reaches a b := by
    rw [h.reaches_image_iff hmodel himage ha]
    constructor
    · rintro ⟨target, htarget, heq, hreaches⟩
      rwa [← h.injective htarget hb heq]
    · exact fun hreaches => ⟨b, hb, rfl, hreaches⟩
  exact and_congr (hreaches hx hy) (hreaches hy hx)

/-- The image of a group of types in a circle is such a group. -/
theorem exists_image_group (h : model.Mirrors image alive f) {group : List TypeId}
    (hgroup : group ∈ model.dependencyCycles) :
    ∃ group' ∈ image.dependencyCycles, ∀ y, y ∈ group' ↔ ∃ x ∈ group, f x = y := by
  have hwell := hmodel.dependencyGraph_wellFormed
  have hwell' := himage.dependencyGraph_wellFormed
  have hne : group ≠ [] := fun hnil => hwell.circularGroups_components.nonempty (hnil ▸ hgroup)
  obtain ⟨a, ha⟩ := List.exists_mem_of_ne_nil group hne
  obtain ⟨hleads, hmem⟩ := hwell.mem_group hgroup ha
  obtain ⟨next, hedge, hback⟩ := Relation.TransGen.head'_iff.1 hleads
  have hlive {x : TypeId} (hx : model.dependencyGraph.Mutual a x) : alive x = true := by
    have hnode := hwell.mem_of_reaches (hwell.source_mem hedge) hx.1
    exact h.alive_of_isVisible (hmodel.mem_nodes.1 hnode)
  have halive := hlive (.refl a)
  have hnext := h.alive_of_isVisible (hmodel.mem_nodes.1 (hwell.target_mem hedge))
  have hleads' : image.dependencyGraph.Leads (f a) (f a) := by
    refine Relation.TransGen.head'_iff.2 ⟨f next, ?_, ?_⟩
    · exact (h.dependsOn_image_iff hmodel himage halive).2 ⟨next, hnext, rfl, hedge⟩
    · exact (h.reaches_image_iff hmodel himage hnext).2 ⟨a, halive, rfl, hback⟩
  obtain ⟨group', hgroup', ha'⟩ := hwell'.exists_group hleads'
  obtain ⟨-, hmem'⟩ := hwell'.mem_group hgroup' ha'
  refine ⟨group', hgroup', fun y => ?_⟩
  rw [hmem']
  constructor
  · intro hmutual
    obtain ⟨x, hx, rfl, -⟩ := (h.reaches_image_iff hmodel himage halive).1 hmutual.1
    exact ⟨x, (hmem x).2 ((h.mutual_image_iff hmodel himage halive hx).1 hmutual), rfl⟩
  · rintro ⟨x, hx, rfl⟩
    have hmutual := (hmem x).1 hx
    exact (h.mutual_image_iff hmodel himage halive (hlive hmutual)).2 hmutual

/-! ## Questions about all types -/

section Order

variable (horder : image.visibleTypes = model.visibleTypes.map f)
include horder

/-- The graph of the image is the graph, renamed. -/
theorem dependencyGraph_eq (h : model.Mirrors image alive f) :
    image.dependencyGraph =
      ⟨model.dependencyGraph.nodes.map f, model.dependencyGraph.edges.map (Edge.rename f)⟩ := by
  rw [himage.dependencyGraph_eq, hmodel.dependencyGraph_eq, horder, List.flatMap_map,
    List.map_flatMap]
  congr 1
  refine List.flatMap_congr fun x hx => ?_
  exact h.edgesFrom_eq (h.alive_of_isVisible (List.mem_filter.1 hx).2)

/-- Children are those of the image, renamed. -/
theorem childClasses_eq (h : model.Mirrors image alive f) (hx : alive x = true) :
    image.childClasses (f x) = (model.childClasses x).map f := by
  rw [himage.childClasses_eq, hmodel.childClasses_eq, horder, List.filter_map]
  congr 1
  refine List.filter_congr fun y hy => ?_
  have hy := h.alive_of_isVisible (List.mem_filter.1 hy).2
  rw [Function.comp_apply, Bool.eq_iff_iff]
  simp only [Bool.and_eq_true, bne_iff_ne, beq_iff_eq, h.steps.parent hy]
  refine and_congr (not_congr ⟨h.injective hy hx, congrArg f⟩) ?_
  cases model.declaredParent y with
  | none => simp
  | some p =>
      cases hp : alive p with
      | true => simpa [Option.filter, hp] using ⟨h.injective hp hx, congrArg f⟩
      | false =>
          have hne : p ≠ x := fun heq => by simp [heq, hx] at hp
          simp [Option.filter, hp, hne]

/-- Implementors are those of the image, renamed. -/
theorem implementors_eq (h : model.Mirrors image alive f) (hx : alive x = true) :
    image.implementors (f x) = (model.implementors x).map f := by
  rw [himage.implementors_eq, hmodel.implementors_eq, horder, List.filter_map]
  congr 1
  refine List.filter_congr fun y hy => ?_
  have hy := h.alive_of_isVisible (List.mem_filter.1 hy).2
  rw [Function.comp_apply, Bool.eq_iff_iff]
  simp only [Bool.and_eq_true, bne_iff_ne, List.contains_iff_mem, h.interfaces_eq hy]
  exact and_congr (not_congr ⟨h.injective hy hx, congrArg f⟩)
    (h.mem_map_iff h.alive_of_mem_interfaces hx)

end Order

/-- A package that lists the images of the living types that it listed depends
on what it depended on. -/
theorem packageDependencies_eq (h : model.Mirrors image alive f) {package : PackageId}
    (htypes : image.typesIn package = ((model.typesIn package).filter alive).map f)
    (hpointer : ∀ {x}, alive x = true → image.packageOf (f x) = model.packageOf x) :
    image.packageDependencies package = model.packageDependencies package := by
  have hnone {x : TypeId} (hx : alive x = false) : model.resolvedDependencies x = [] := by
    simp [resolvedDependencies, h.dead hx, firstUnseen]
  have htargets : (image.typesIn package).flatMap image.resolvedDependencies =
      ((model.typesIn package).flatMap model.resolvedDependencies).map f := by
    rw [htypes, List.flatMap_map, List.map_flatMap]
    refine flatMap_filter (fun x _ hx => h.resolvedDependencies_eq hx) fun x _ hx => ?_
    simp [hnone hx]
  rw [himage.packageDependencies_eq, hmodel.packageDependencies_eq, htargets, List.filterMap_map]
  congr 1
  refine List.filterMap_congr fun target htarget => hpointer ?_
  obtain ⟨x, -, hx⟩ := List.mem_flatMap.1 htarget
  exact h.alive_of_isVisible (isVisible_of_mem_resolvedDependencies hx)

end Circles

end Mirrors

end Model

end TypeGraph
