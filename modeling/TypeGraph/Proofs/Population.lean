import Mathlib.Data.List.Induction
import TypeGraph.Proofs.Blueprint
import TypeGraph.Proofs.FirstDeclared
import TypeGraph.Proofs.Forgetting
import TypeGraph.Proofs.Provenance

/-!
# TypeGraph.Proofs.Population

Populating a model in any order.  A caller declares types, wires them with fresh
references and asks questions in between; the only rule is that a type is
declared before it is wired.

1. `Model.populate` carries such moves out, and `Model.Interleaving` says when two
   lists of moves differ in their interleaving and their questions only;
2. `outlined_populate` — after any moves the model is the one that the
   declarations alone make, with each type wired by its own moves;
3. `populate_any_order` — so nothing but memos and origins tells one interleaving
   from another one, and no answer does.
-/

namespace TypeGraph

/-! ## Moves -/

/-- One move of a caller who populates a model. -/
inductive Move where
  | declare (kind : TypeKind) (name : String)
  | setParent (ty : TypeId) (kind : TypeKind) (name : String)
  | addInterface (ty : TypeId) (kind : TypeKind) (name : String)
  | ask (query : Query)

namespace Move

/-- What happens to the model.  The references are fresh. -/
def event : Move → Event
  | .declare kind name => .operate (.addType kind name)
  | .setParent ty kind name => .operate (.setParent ty (.fresh kind name))
  | .addInterface ty kind name => .operate (.addInterface ty (.fresh kind name))
  | .ask query => .ask query

def declares : Move → Bool
  | .declare .. => true
  | _ => false

def wires (ty : TypeId) : Move → Bool
  | .setParent x .. | .addInterface x .. => x == ty
  | _ => false

section Simp

variable (ty x : TypeId) (kind : TypeKind) (name : String) (query : Query)

@[simp] theorem declares_declare : (declare kind name).declares = true := rfl
@[simp] theorem declares_setParent : (setParent x kind name).declares = false := rfl
@[simp] theorem declares_addInterface : (addInterface x kind name).declares = false := rfl
@[simp] theorem declares_ask : (ask query).declares = false := rfl
@[simp] theorem wires_declare : (declare kind name).wires ty = false := rfl
@[simp] theorem wires_ask : (ask query).wires ty = false := rfl

end Simp

/-- A move declares a type, wires one, or asks a question. -/
theorem wires_cases (move : Move) :
    (∃ kind name, move = .declare kind name) ∨
    (∃ ty, move.declares = false ∧ move.wires ty = true ∧ ∀ x, move.wires x = (ty == x)) ∨
    ∃ query, move = .ask query := by
  cases move with
  | declare kind name => exact .inl ⟨kind, name, rfl⟩
  | setParent ty kind name | addInterface ty kind name =>
      exact .inr (.inl ⟨ty, rfl, beq_self_eq_true ty, fun _ => rfl⟩)
  | ask query => exact .inr (.inr ⟨query, rfl⟩)

/-- Whatever declares is a declaration. -/
theorem exists_of_declares {move : Move} (h : move.declares = true) :
    ∃ kind name, move = .declare kind name := by
  cases move with
  | declare kind name => exact ⟨kind, name, rfl⟩
  | setParent | addInterface | ask => contradiction

/-- What a wiring move makes of the type that it wires: nothing if the kinds are
wrong, since it is refused then. -/
def wire (node : TypeNode) : Move → TypeNode
  | .setParent _ kind name =>
    if kind = .classType ∧ node.kind = .classType then
      { node with parent := some (.fresh kind name) }
    else node
  | .addInterface _ kind name =>
    if kind = .interfaceType then
      { node with interfaces := node.interfaces ++ [.fresh kind name] }
    else node
  | _ => node

end Move

/-- The type after all moves that wire it. -/
def TypeNode.wired (node : TypeNode) (moves : List Move) : TypeNode := moves.foldl Move.wire node

/-- Wiring does not look at where the type comes from. -/
theorem Move.wire_withOrigin (origin : Nat) (node : TypeNode) (move : Move) :
    Move.wire (node.withOrigin origin) move = (Move.wire node move).withOrigin origin := by
  cases move with
  | declare kind name | ask query => rfl
  | setParent ty kind name | addInterface ty kind name =>
      rw [wire, wire, apply_ite (TypeNode.withOrigin origin)]
      rfl

/-- A whole list of moves does not look at it either. -/
theorem TypeNode.wired_withOrigin (origin : Nat) (node : TypeNode) (moves : List Move) :
    (node.withOrigin origin).wired moves = (node.wired moves).withOrigin origin :=
  List.foldl_hom (TypeNode.withOrigin origin) (Move.wire_withOrigin origin)

namespace Model

def populate (model : Model) (moves : List Move) : Model := model.replay (moves.map Move.event)

/-- Moves may be made in two parts. -/
theorem populate_append (model : Model) (first second : List Move) :
    model.populate (first ++ second) = (model.populate first).populate second := by
  rw [populate, List.map_append, replay_append]
  rfl

end Model

/-- Every wiring move comes after the declaration of the type that it wires, when
so many types have been declared before the first move. -/
def InOrder (declared : Nat) : List Move → Prop
  | [] => True
  | .declare .. :: rest => InOrder (declared + 1) rest
  | .setParent ty .. :: rest | .addInterface ty .. :: rest =>
    ty.index < declared ∧ InOrder declared rest
  | .ask _ :: rest => InOrder declared rest

/-- The same types are declared in the same order, and each of them is wired by
the same moves in the same order. -/
structure Interleaving (moves moves' : List Move) : Prop where
  declarations : moves.filter Move.declares = moves'.filter Move.declares
  wirings : ∀ ty, moves.filter (Move.wires ty) = moves'.filter (Move.wires ty)

namespace InOrder

variable {declared : Nat} {moves moves' : List Move}

/-- Whether moves are in order may be told in two parts. -/
theorem append_iff : InOrder declared (moves ++ moves') ↔
    InOrder declared moves ∧ InOrder (declared + (moves.filter Move.declares).length) moves' := by
  induction moves generalizing declared with
  | nil => simp [InOrder]
  | cons move moves ih =>
      cases move with
      | declare kind name => simp [InOrder, ih, List.filter_cons, Nat.add_right_comm, Nat.add_assoc]
      | setParent ty kind name | addInterface ty kind name => simp [InOrder, ih, and_assoc]
      | ask query => simp [InOrder, ih]

/-- A type that is wired has been declared. -/
theorem index_lt {move : Move} (h : InOrder declared (move :: moves)) {ty : TypeId}
    (hwires : move.wires ty = true) : ty.index < declared := by
  cases move with
  | declare kind name | ask query => contradiction
  | setParent x kind name | addInterface x kind name =>
      obtain rfl : x = ty := beq_iff_eq.1 hwires
      exact h.1

/-- What has not been declared has not been wired. -/
theorem filter_wires_eq_nil (h : InOrder declared moves) {ty : TypeId}
    (hty : declared + (moves.filter Move.declares).length ≤ ty.index) :
    moves.filter (Move.wires ty) = [] := by
  rw [List.filter_eq_nil_iff]
  intro move hmove hwires
  obtain ⟨before, after, rfl⟩ := List.append_of_mem hmove
  have hlt := (append_iff.1 h).2.index_lt hwires
  rw [List.filter_append, List.length_append] at hty
  omega

end InOrder

namespace Model

variable {model : Model}

/-! ## One move -/

/-- Two changes to a type that come to the same. -/
theorem modifyType_congr {ty : TypeId} {change change' : TypeNode → TypeNode}
    (h : ∀ node, model.type? ty = some node → change node = change' node) :
    model.modifyType ty change = model.modifyType ty change' := by
  rw [modifyType, modifyType, modify_congr h]

/-- A wiring move does to the type that it wires what it makes of it, be it
refused or not, and nothing else. -/
theorem after_wire {move : Move} {ty : TypeId} (h : move.wires ty = true) :
    move.event.after model = model.modifyType ty (Move.wire · move) := by
  have hself {change : TypeNode → TypeNode}
      (hchange : ∀ node, model.type? ty = some node → change node = node) :
      model = model.modifyType ty change := by
    rw [modifyType, modify_eq_self hchange]
  cases move with
  | declare kind name => contradiction
  | ask query => contradiction
  | setParent x kind name =>
      obtain rfl : x = ty := beq_iff_eq.1 h
      show (Operation.setParent x (.fresh kind name)).after model = _
      rw [Operation.after_eq]
      split
      · next hrefused =>
          refine hself fun node hnode => if_neg ?_
          rintro ⟨rfl, hclass⟩
          simp [Operation.refusal?, TypeReference.fresh, refuseType, refuseForeign, refuseParent,
            hnode, hclass] at hrefused
      · next haccepted =>
          refine modifyType_congr fun node hnode => (if_pos ?_).symm
          by_cases hkind : kind = .classType
          · refine ⟨hkind, ?_⟩
            simpa [Operation.refusal?, TypeReference.fresh, refuseType, refuseForeign,
              refuseParent, hnode, hkind] using haccepted
          · simp [Operation.refusal?, TypeReference.fresh, hkind] at haccepted
  | addInterface x kind name =>
      obtain rfl : x = ty := beq_iff_eq.1 h
      show (Operation.addInterface x (.fresh kind name)).after model = _
      rw [Operation.after_eq]
      split
      · next hrefused =>
          refine hself fun node hnode => if_neg ?_
          rintro rfl
          simp [Operation.refusal?, TypeReference.fresh, refuseType, refuseForeign, hnode]
            at hrefused
      · next haccepted =>
          refine modifyType_congr fun node hnode => (if_pos ?_).symm
          by_cases hkind : kind = .interfaceType
          · exact hkind
          · simp [Operation.refusal?, TypeReference.fresh, hkind] at haccepted

/-- Wiring does not look at what references remember. -/
theorem unmemoized_wire {move : Move} {ty : TypeId} (h : move.wires ty = true) :
    (move.event.after model).unmemoized =
      model.unmemoized.modifyType ty (Move.wire · move) := by
  rw [after_wire h]
  refine mapReferences_modifyType fun node => ?_
  cases move with
  | declare kind name => rfl
  | ask query => rfl
  | setParent x kind name =>
      by_cases hkinds : kind = .classType ∧ node.kind = .classType <;>
        simp [Move.wire, TypeNode.mapReferences, TypeReference.fresh, TypeReference.forget, hkinds]
  | addInterface x kind name =>
      by_cases hkind : kind = .interfaceType <;>
        simp [Move.wire, TypeNode.mapReferences, TypeReference.fresh, TypeReference.forget, hkind]

/-- A declaration without memos. -/
theorem unmemoized_declare (kind : TypeKind) (name : String) :
    ((Move.declare kind name).event.after model).unmemoized =
      (model.unmemoized.addType kind name).2 :=
  mapReferences_addType kind name

/-- A question without memos is nothing. -/
theorem unmemoized_ask (query : Query) :
    ((Move.ask query).event.after model).unmemoized = model.unmemoized :=
  ((Forgets.refl model).after_right query).unmemoized.symm

/-! ## All moves -/

/-- The model is an outline whose types have been wired by moves of their own. -/
structure Outlined (model outline : Model) (moves : TypeId → List Move) : Prop where
  rest : model.unmemoized = { outline with types := model.unmemoized.types }
  size : model.unmemoized.types.size = outline.types.size
  type? : ∀ ty, model.unmemoized.type? ty = (outline.type? ty).map (·.wired (moves ty))

namespace Outlined

variable {outline other : Model} {moves : TypeId → List Move}

/-- Nothing but memos is left to chance, whatever the origin. -/
theorem unmemoized_eq {origin : Nat} (h : model.Outlined outline moves)
    (h' : other.Outlined (outline.withOrigin origin) moves) :
    other.unmemoized = model.unmemoized.withOrigin origin := by
  have htypes : other.unmemoized.types =
      model.unmemoized.types.map (·.withOrigin origin) := by
    refine Array.ext_getElem? fun i => ?_
    rw [Array.getElem?_map]
    refine (h'.type? ⟨i⟩).trans ((congrArg (Option.map _) (h.type? ⟨i⟩)).trans ?_).symm
    rw [type?_withOrigin, Option.map_map, Option.map_map]
    exact congrArg (Option.map · (outline.type? ⟨i⟩)) (funext fun node =>
      (node.wired_withOrigin origin (moves ⟨i⟩)).symm)
  rw [h'.rest, withOrigin, htypes, h.rest]
  rfl

theorem declare (h : model.Outlined outline moves) (kind : TypeKind) (name : String)
    (hnew : moves ⟨outline.types.size⟩ = []) :
    ((Move.declare kind name).event.after model).Outlined
      ((Move.declare kind name).event.after outline) moves := by
  have hafter : (Move.declare kind name).event.after outline = (outline.addType kind name).2 := rfl
  constructor
  · rw [unmemoized_declare, hafter, h.rest]
    simp [addType, h.size]
  · rw [unmemoized_declare, hafter]
    simp [addType, h.size]
  · intro ty
    have horigin : model.unmemoized.origin = outline.origin := by rw [h.rest]
    rw [unmemoized_declare, hafter, type?_addType, type?_addType, h.size, horigin]
    split
    · next hty =>
        have heq : ty = ⟨outline.types.size⟩ := congrArg TypeId.mk hty
        rw [heq, hnew]
        rfl
    · exact h.type? ty

theorem wire (h : model.Outlined outline moves) {move : Move} {ty : TypeId}
    (hmove : move.wires ty = true) :
    (move.event.after model).Outlined outline fun x =>
      if ty = x then moves x ++ [move] else moves x := by
  constructor
  · rw [unmemoized_wire hmove, h.rest]
    rfl
  · rw [unmemoized_wire hmove, ← h.size]
    exact Array.size_modify
  · intro x
    rw [unmemoized_wire hmove, type?_modifyType, h.type?]
    by_cases hx : ty = x
    · simp [hx, TypeNode.wired, Function.comp_def]
    · simp [hx]

theorem ask (h : model.Outlined outline moves) (query : Query) :
    ((Move.ask query).event.after model).Outlined outline moves where
  rest := by rw [unmemoized_ask]; exact h.rest
  size := by rw [unmemoized_ask]; exact h.size
  type? ty := by rw [unmemoized_ask]; exact h.type? ty

end Outlined

variable {origin : Nat} {filters : Filters} {moves moves' : List Move}

/-- The last move is made last. -/
theorem populate_concat (model : Model) (moves : List Move) (move : Move) :
    model.populate (moves ++ [move]) = move.event.after (model.populate moves) :=
  model.populate_append moves [move]

section Declarations

variable (h : ∀ move ∈ moves, move.declares = true)
include h

/-- Declarations alone make as many types as there are. -/
theorem size_populate_of_declares :
    ((Model.empty origin filters).populate moves).types.size = moves.length := by
  induction moves using List.reverseRecOn with
  | nil => rfl
  | append_singleton moves move ih =>
      obtain ⟨kind, name, rfl⟩ := Move.exists_of_declares (h move (by simp))
      rw [populate_concat, List.length_append, ← ih fun other hother => h other (by simp [hother])]
      exact Array.size_push _

/-- They make the same types elsewhere. -/
theorem populate_withOrigin_of_declares (origin origin' : Nat) :
    (Model.empty origin' filters).populate moves =
      ((Model.empty origin filters).populate moves).withOrigin origin' := by
  induction moves using List.reverseRecOn with
  | nil => simp [populate, replay, withOrigin, Model.empty]
  | append_singleton moves move ih =>
      obtain ⟨kind, name, rfl⟩ := Move.exists_of_declares (h move (by simp))
      rw [populate_concat, populate_concat, ih fun other hother => h other (by simp [hother])]
      exact addType_withOrigin kind name

end Declarations

/-- **Outlines**: whatever the order of the moves, the model is the one that the
declarations alone make, with each type wired by its own moves. -/
theorem outlined_populate (h : InOrder 0 moves) :
    ((Model.empty origin filters).populate moves).Outlined
      ((Model.empty origin filters).populate (moves.filter Move.declares))
      fun ty => moves.filter (Move.wires ty) := by
  induction moves using List.reverseRecOn with
  | nil =>
      refine ⟨rfl, ?_, fun ty => ?_⟩ <;>
        simp [populate, replay, type?, unmemoized, mapReferences, Model.empty]
  | append_singleton moves move ih =>
      obtain ⟨hinit, -⟩ := InOrder.append_iff.1 h
      have ih := ih hinit
      rw [populate_concat, List.filter_append]
      obtain ⟨kind, name, rfl⟩ | ⟨ty, hdeclares, hwires, hothers⟩ | ⟨query, rfl⟩ := move.wires_cases
      · -- the new type has not been wired
        have hsize : ((Model.empty origin filters).populate
            (moves.filter Move.declares)).types.size = (moves.filter Move.declares).length :=
          size_populate_of_declares fun _ hother => (List.mem_filter.1 hother).2
        have hnew : moves.filter (Move.wires ⟨((Model.empty origin filters).populate
            (moves.filter Move.declares)).types.size⟩) = [] :=
          hinit.filter_wires_eq_nil (Nat.le_of_eq ((Nat.zero_add _).trans hsize.symm))
        have hlast : [Move.declare kind name].filter Move.declares = [.declare kind name] := rfl
        rw [hlast, populate_concat]
        simpa using ih.declare kind name hnew
      · -- the move adds to the moves of the type that it wires
        have hmoves : (fun x => (moves ++ [move]).filter (Move.wires x)) = fun x =>
            if ty = x then moves.filter (Move.wires x) ++ [move]
            else moves.filter (Move.wires x) := by
          funext x
          by_cases hx : ty = x <;> simp [List.filter_append, hothers, hx]
        rw [hmoves]
        simpa [hdeclares] using ih.wire hwires
      · simpa using ih.ask query

/-- No move sets filters. -/
theorem filters_populate (model : Model) (moves : List Move) :
    (model.populate moves).filters = model.filters := by
  induction moves using List.reverseRecOn with
  | nil => rfl
  | append_singleton moves move ih =>
      rw [populate_concat, ← ih]
      obtain ⟨kind, name, rfl⟩ | ⟨ty, -, hwires, -⟩ | ⟨query, rfl⟩ := move.wires_cases
      · rfl
      · rw [after_wire hwires]
        rfl
      · show (Model.settle _ _).filters = _
        rw [settle_rest]

/-- The references of all moves are fresh. -/
theorem populate_faithful (origin : Nat) (filters : Filters) (moves : List Move) :
    ((Model.empty origin filters).populate moves).ReachableBy Event.Faithful := by
  induction moves using List.reverseRecOn with
  | nil => exact .empty origin filters
  | append_singleton moves move ih =>
      rw [populate_concat]
      refine ih.event move.event ?_
      cases move with
      | declare kind name | ask query => trivial
      | setParent ty kind name | addInterface ty kind name => rfl

/-- The dependencies without memos. -/
theorem dependencies_unmemoized (model : Model) (ty : TypeId) :
    model.unmemoized.dependencies ty = (model.dependencies ty).map (·.forget) := by
  rw [dependencies, dependencies, unmemoized, type?_mapReferences]
  cases model.type? ty with
  | none => rfl
  | some node => cases hparent : node.parent <;>
      simp [TypeNode.references, TypeNode.mapReferences, hparent]

/-- **Any order**: two runs that declare the same types in the same order and wire
each type by the same moves in the same order, each wiring after the declaration,
give models that are the same but for where they come from and what their
references remember, whatever is asked in between.  So the types have the same
dependencies, and every question has the same answer. -/
theorem populate_any_order (origin origin' : Nat) (hpure : filters.Pure)
    (hblind : filters.OriginBlind) (horder : InOrder 0 moves) (horder' : InOrder 0 moves')
    (h : Interleaving moves moves') :
    let first := (Model.empty origin filters).populate moves
    let second := (Model.empty origin' filters).populate moves'
    (∀ ty, (first.dependencies ty).map (·.forget) = (second.dependencies ty).map (·.forget)) ∧
      ∀ query : Query, query.answer first = query.answer second := by
  intro first second
  have hfirst : first.Outlined _ _ := outlined_populate horder
  have hunmemoized : second.unmemoized = first.unmemoized.withOrigin origin' := by
    have hsecond : second.Outlined _ _ := outlined_populate horder'
    rw [← h.declarations, populate_withOrigin_of_declares
      (fun move hmove => (List.mem_filter.1 hmove).2) origin] at hsecond
    simp only [← h.wirings] at hsecond
    exact hfirst.unmemoized_eq hsecond
  have hfilters : first.filters = filters := filters_populate _ moves
  have hfilters' : second.filters = filters := filters_populate _ moves'
  constructor
  · intro ty
    rw [← dependencies_unmemoized, ← dependencies_unmemoized, hunmemoized, dependencies_withOrigin]
  · intro query
    have hsound : first.MemosSound := (populate_faithful origin filters moves).memosSound
    have hsound' : second.MemosSound := (populate_faithful origin' filters moves').memosSound
    have hblind' : first.unmemoized.filters.OriginBlind := by
      change first.filters.OriginBlind
      rwa [hfilters]
    calc query.answer first
        = query.answer first.unmemoized := (query.answer_unmemoized hsound (hfilters ▸ hpure)).symm
      _ = query.answer (first.unmemoized.withOrigin origin') :=
          (query.answer_withOrigin hblind' origin').symm
      _ = query.answer second.unmemoized := by rw [hunmemoized]
      _ = query.answer second := query.answer_unmemoized hsound' (hfilters' ▸ hpure)

/-- A class that is wired, and asked about, before its parent is declared, and one
that is wired after everything is. -/
theorem populate_any_order_of_late_parent :
    let early : List Move := [.declare .classType "Dog", .setParent ⟨0⟩ .classType "animal",
      .ask (.ancestors ⟨0⟩), .declare .classType "Animal", .declare .classType "ANIMAL",
      .ask .dependencyGraph]
    let late : List Move := [.declare .classType "Dog", .declare .classType "Animal",
      .declare .classType "ANIMAL", .setParent ⟨0⟩ .classType "animal"]
    let filters := Filters.ofList [.internal]
    filters.Pure ∧ filters.OriginBlind ∧ InOrder 0 early ∧ InOrder 0 late ∧
      Interleaving early late ∧
      ((Model.empty 0 filters).populate early).ancestors ⟨0⟩ =
        ((Model.empty 1 filters).populate late).ancestors ⟨0⟩ := by
  intro early late filters
  have hinternal (entry : FilterId × Filter) (hentry : entry ∈ filters.entries) :
      ∀ test, entry.2 ≠ .custom test := by
    obtain rfl : entry = (⟨0⟩, .internal) := List.mem_singleton.1 hentry
    exact nofun
  have hpure : filters.Pure := fun entry hentry =>
    Filter.pure_of_ne_custom (hinternal entry hentry)
  have hblind : filters.OriginBlind := fun entry hentry =>
    Filter.originBlind_of_ne_custom (hinternal entry hentry)
  have hearly : InOrder 0 early := by simp [early, InOrder]
  have hlate : InOrder 0 late := by simp [late, InOrder]
  have hsame : Interleaving early late := ⟨rfl, fun ty => by simp [early, late, List.filter_cons]⟩
  obtain ⟨-, hanswers⟩ := populate_any_order 0 1 hpure hblind hearly hlate hsame
  exact ⟨hpure, hblind, hearly, hlate, hsame, Answer.handles.inj (hanswers (.ancestors ⟨0⟩))⟩

end Model

end TypeGraph
