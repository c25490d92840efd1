import Mathlib.Data.List.Chain
import Mathlib.Data.List.Perm.Subperm
import TypeGraph.Proofs.Answers
import TypeGraph.Report

/-!
# TypeGraph.Proofs.ParentChain

How far the chain of parents goes.

1. `MaximalChain` says what chain of types a type has above it: from parent to parent,
   no type twice, and no way on but to a type that is there already;
2. `chainFrom_iff` — there is one such chain, and `ancestorsFrom` lists it.  The induction
   needs the chain above types that have been visited (`ChainFrom`), since what is
   visited grows from parent to parent;
3. `ParentWalk.stops` — who goes up parent by parent and remembers what was visited stops
   after as many rounds as the chain is long;
4. `length_ancestors_lt` — the chain and its start are different types of the model, so
   there are fewer rounds than types.

Whether the chain comes back to the start, comes back to a type above it, extends itself
or ends at a hidden parent makes no difference to any of this.
-/

namespace TypeGraph.Model

variable {model : Model}

/-! ## The chain above a type -/

/-- The types above a type, nearest first, as far as that goes without repetition. -/
structure MaximalChain (model : Model) (ty : TypeId) (chain : List TypeId) : Prop where
  /-- Each type is followed by its visible parent. -/
  linked : List.IsChain model.Extends (ty :: chain)
  nodup : (ty :: chain).Nodup
  /-- The parent of the last one, if there is any, has been there before. -/
  ends : ∀ parent, model.Extends ((ty :: chain).getLast (List.cons_ne_nil ty chain)) parent →
    parent ∈ ty :: chain

/-- The types above a type, as far as that goes without a type that has been visited. -/
structure ChainFrom (model : Model) (visited : Std.HashSet TypeId) (ty : TypeId)
    (chain : List TypeId) : Prop where
  linked : List.IsChain model.Extends (ty :: chain)
  nodup : chain.Nodup
  unvisited : ∀ x ∈ chain, x ∉ visited
  ends : ∀ parent, model.Extends ((ty :: chain).getLast (List.cons_ne_nil ty chain)) parent →
    parent ∈ visited ∨ parent ∈ chain

section ChainFrom

variable {visited : Std.HashSet TypeId} {ty parent : TypeId} {chain : List TypeId}

/-- A maximal chain is one before which nothing but the type itself has been visited. -/
theorem maximalChain_iff : model.MaximalChain ty chain ↔ model.ChainFrom {ty} ty chain := by
  have hmem (x : TypeId) : x ∈ ty :: chain ↔ x ∈ ({ty} : Std.HashSet TypeId) ∨ x ∈ chain := by
    rw [List.mem_cons, mem_singleton_iff]
  constructor
  · intro h
    obtain ⟨hstart, hnodup⟩ := List.nodup_cons.1 h.nodup
    refine ⟨h.linked, hnodup, fun x hx hvisited => ?_, fun next hnext => ?_⟩
    · exact hstart (mem_singleton_iff.1 hvisited ▸ hx)
    · exact (hmem next).1 (h.ends next hnext)
  · intro h
    refine ⟨h.linked, List.nodup_cons.2 ⟨fun hstart => ?_, h.nodup⟩, fun next hnext => ?_⟩
    · exact h.unvisited ty hstart (mem_singleton_iff.2 rfl)
    · exact (hmem next).2 (h.ends next hnext)

/-- Nothing is above a type if its parent has been visited, or there is none. -/
theorem chainFrom_nil_iff :
    model.ChainFrom visited ty [] ↔ ∀ next, model.Extends ty next → next ∈ visited := by
  constructor
  · intro h next hnext
    exact (h.ends next hnext).resolve_right List.not_mem_nil
  · intro h
    exact ⟨.singleton ty, List.nodup_nil, nofun, fun next hnext => .inl (h next hnext)⟩

/-- The chain goes on from the parent, which has been visited by then. -/
theorem chainFrom_cons_iff :
    model.ChainFrom visited ty (parent :: chain) ↔
      model.Extends ty parent ∧ parent ∉ visited ∧
        model.ChainFrom (visited.insert parent) parent chain := by
  have hmem (x : TypeId) : x ∈ visited ∨ x ∈ parent :: chain ↔
      x ∈ visited.insert parent ∨ x ∈ chain := by
    rw [Std.HashSet.mem_insert, List.mem_cons, beq_iff_eq, eq_comm (a := parent)]
    tauto
  constructor
  · intro h
    obtain ⟨hfirst, hlinked⟩ := List.isChain_cons_cons.1 h.linked
    obtain ⟨honce, hnodup⟩ := List.nodup_cons.1 h.nodup
    obtain ⟨hnew, hrest⟩ := List.forall_mem_cons.1 h.unvisited
    refine ⟨hfirst, hnew, hlinked, hnodup, fun x hx hvisited => ?_, fun next hnext => ?_⟩
    · obtain heq | hvisited := Std.HashSet.mem_insert.1 hvisited
      · exact honce (beq_iff_eq.1 heq ▸ hx)
      · exact hrest x hx hvisited
    · exact (hmem next).1 (h.ends next hnext)
  · rintro ⟨hfirst, hnew, h⟩
    have honce : parent ∉ chain := fun hx => h.unvisited parent hx Std.HashSet.mem_insert_self
    have hrest : ∀ x ∈ chain, x ∉ visited := fun x hx hvisited =>
      h.unvisited x hx (Std.HashSet.mem_insert.2 (.inr hvisited))
    refine ⟨List.isChain_cons_cons.2 ⟨hfirst, h.linked⟩, List.nodup_cons.2 ⟨honce, h.nodup⟩,
      List.forall_mem_cons.2 ⟨hnew, hrest⟩, fun next hnext => ?_⟩
    exact (hmem next).2 (h.ends next hnext)

/-- There is one chain above a type, and it is the one that is listed. -/
theorem chainFrom_iff :
    model.ChainFrom visited ty chain ↔ chain = model.ancestorsFrom visited ty := by
  induction visited, ty using ancestorsFrom.induct model generalizing chain with
  | case1 visited ty hparent =>
      have hnone (next : TypeId) : ¬ model.Extends ty next := fun hnext =>
        Option.some_ne_none next (hnext.symm.trans hparent)
      rw [ancestorsFrom_of_none hparent]
      cases chain with
      | nil =>
          exact iff_of_true (chainFrom_nil_iff.2 fun next hnext => absurd hnext (hnone next)) rfl
      | cons next chain =>
          refine iff_of_false (fun h => ?_) (List.cons_ne_nil next chain)
          exact hnone next (chainFrom_cons_iff.1 h).1
  | case2 visited ty parent hparent hvisited =>
      have hback {next : TypeId} (hnext : model.Extends ty next) : next ∈ visited :=
        Option.some_inj.1 (hparent.symm.trans hnext) ▸ hvisited
      rw [ancestorsFrom_of_visited hparent hvisited]
      cases chain with
      | nil => exact iff_of_true (chainFrom_nil_iff.2 fun _ => hback) rfl
      | cons next chain =>
          refine iff_of_false (fun h => ?_) (List.cons_ne_nil next chain)
          obtain ⟨hnext, hnew, -⟩ := chainFrom_cons_iff.1 h
          exact hnew (hback hnext)
  | case3 visited ty parent hparent hnew ih =>
      rw [ancestorsFrom_of_new hparent hnew]
      cases chain with
      | nil =>
          refine iff_of_false (fun h => ?_) (List.cons_ne_nil parent _).symm
          exact hnew (chainFrom_nil_iff.1 h parent hparent)
      | cons next chain =>
          rw [chainFrom_cons_iff, List.cons.injEq]
          constructor
          · rintro ⟨hnext, -, hchain⟩
            obtain rfl := Option.some_inj.1 (hparent.symm.trans hnext)
            exact ⟨rfl, ih.1 hchain⟩
          · rintro ⟨rfl, hchain⟩
            exact ⟨hparent, hnew, ih.2 hchain⟩

end ChainFrom

/-! ## Going up -/

/-- How far the way up has led. -/
structure ParentWalk where
  current : TypeId
  visited : Std.HashSet TypeId
  /-- What has been met on the way, the start left out. -/
  chain : List TypeId

namespace ParentWalk

def start (ty : TypeId) : ParentWalk := ⟨ty, {ty}, []⟩

/-- One round: goes to the parent, or stops if there is none or it has been visited. -/
def step (model : Model) (walk : ParentWalk) : Option ParentWalk :=
  match model.parentClass walk.current with
  | none => none
  | some parent =>
    if walk.visited.contains parent then none
    else some ⟨parent, walk.visited.insert parent, walk.chain ++ [parent]⟩

/-- The walk stops after so many rounds more, and has met the chain by then. -/
inductive Stops (model : Model) : ParentWalk → Nat → List TypeId → Prop
  | here {walk : ParentWalk} (h : walk.step model = none) : Stops model walk 0 walk.chain
  | later {walk next : ParentWalk} {rounds : Nat} {chain : List TypeId}
      (h : walk.step model = some next) (hrest : Stops model next rounds chain) :
      Stops model walk (rounds + 1) chain

/-- From wherever the walk is, the rest of the chain is met, one type a round. -/
theorem stops (visited : Std.HashSet TypeId) (ty : TypeId) (chain : List TypeId) :
    Stops model ⟨ty, visited, chain⟩ (model.ancestorsFrom visited ty).length
      (chain ++ model.ancestorsFrom visited ty) := by
  induction visited, ty using ancestorsFrom.induct model generalizing chain with
  | case1 visited ty hparent =>
      rw [ancestorsFrom_of_none hparent, List.append_nil]
      exact .here (by simp only [step, hparent])
  | case2 visited ty parent hparent hvisited =>
      rw [ancestorsFrom_of_visited hparent hvisited, List.append_nil]
      exact .here (by simp only [step, hparent, if_pos hvisited])
  | case3 visited ty parent hparent hnew ih =>
      rw [ancestorsFrom_of_new hparent hnew, List.append_cons]
      exact .later (by simp only [step, hparent, if_neg hnew]) (ih _)

end ParentWalk

/-! ## How long the chain is -/

/-- If the type has ancestors, it is a type of the model, and so are they. -/
theorem length_ancestors_lt (hsize : 0 < model.types.size) (ty : TypeId) :
    (model.ancestors ty).length < model.types.size := by
  by_cases hty : ty.index < model.types.size
  · have hlisted := listsOthers_ancestors model ty
    have hnodup : ((ty :: model.ancestors ty).map (·.index)).Nodup := by
      refine (List.nodup_cons.2 ⟨hlisted.not_mem, hlisted.nodup⟩).map fun a b heq => ?_
      exact congrArg TypeId.mk heq
    have hsubset : (ty :: model.ancestors ty).map (·.index) ⊆ List.range model.types.size := by
      intro i hi
      obtain ⟨x, hx, rfl⟩ := List.mem_map.1 hi
      rw [List.mem_range]
      obtain rfl | hx := List.mem_cons.1 hx
      · exact hty
      · exact index_lt_of_isVisible (shows_iff.1 (hlisted.shows x hx))
    have hlength := (List.subperm_of_subset hnodup hsubset).length_le
    rwa [List.length_map, List.length_range, List.length_cons] at hlength
  · have hnone : model.parentClass ty = none := by
      rw [parentClass, declaredParent_foreign hty, Option.filter_none]
    rwa [ancestors, ancestorsFrom_of_none hnone]

/-- The depth in a summary is the number of ancestors; only types have summaries. -/
theorem depth_of_summarize {ty : TypeId} {summary : TypeSummary}
    (h : model.summarize ty = some summary) :
    summary.depth = (model.ancestors ty).length ∧ 0 < model.types.size := by
  obtain ⟨node, hnode, rfl⟩ := Option.map_eq_some_iff.1 h
  obtain ⟨hty, -⟩ := Array.getElem?_eq_some_iff.1 hnode
  exact ⟨rfl, Nat.zero_lt_of_lt hty⟩

/-- **Ancestors**: going up the parents stops, however they are declared.  What has been
met by then is the chain above the type, the only one, and the depth of the type is its
length, which is less than the number of types. -/
theorem ancestors_maximalChain (model : Model) (ty : TypeId) :
    (ParentWalk.start ty).Stops model (model.ancestors ty).length (model.ancestors ty) ∧
      (∀ chain, model.MaximalChain ty chain ↔ chain = model.ancestors ty) ∧
      (0 < model.types.size → (model.ancestors ty).length < model.types.size) ∧
      ∀ summary, model.summarize ty = some summary →
        summary.depth = (model.ancestors ty).length ∧ summary.depth < model.types.size := by
  refine ⟨ParentWalk.stops _ ty [], fun chain => maximalChain_iff.trans chainFrom_iff,
    fun hsize => length_ancestors_lt hsize ty, fun summary h => ?_⟩
  obtain ⟨hdepth, hsize⟩ := depth_of_summarize h
  exact ⟨hdepth, hdepth ▸ length_ancestors_lt hsize ty⟩

/-- A class below a circle of two others, all of them there are. -/
theorem ancestors_maximalChain_of_circle :
    let model := (Model.empty 0 .empty).run [
      .addType .classType "Leaf", .addType .classType "Left", .addType .classType "Right",
      .setParent ⟨0⟩ ⟨.classType, "Left", some ⟨1⟩⟩,
      .setParent ⟨1⟩ ⟨.classType, "Right", some ⟨2⟩⟩,
      .setParent ⟨2⟩ ⟨.classType, "Left", some ⟨1⟩⟩]
    model.MaximalChain ⟨0⟩ [⟨1⟩, ⟨2⟩] ∧ model.ancestors ⟨0⟩ = [⟨1⟩, ⟨2⟩] ∧
      (ParentWalk.start ⟨0⟩).Stops model 2 [⟨1⟩, ⟨2⟩] ∧ model.types.size = 3 ∧
      ∃ summary, model.summarize ⟨0⟩ = some summary ∧ summary.depth = 2 := by
  intro model
  have hleaf : model.parentClass ⟨0⟩ = some ⟨1⟩ := by decide
  have hleft : model.parentClass ⟨1⟩ = some ⟨2⟩ := by decide
  have hright : model.parentClass ⟨2⟩ = some ⟨1⟩ := by decide
  have hchain : model.MaximalChain ⟨0⟩ [⟨1⟩, ⟨2⟩] := by
    refine ⟨.cons_cons hleaf (.cons_cons hleft (.singleton _)), by decide, fun next hnext => ?_⟩
    obtain rfl : (⟨1⟩ : TypeId) = next := Option.some_inj.1 (hright.symm.trans hnext)
    decide
  obtain ⟨hstops, hunique, -, hdepth⟩ := ancestors_maximalChain model ⟨0⟩
  have hancestors : model.ancestors ⟨0⟩ = [⟨1⟩, ⟨2⟩] := ((hunique _).1 hchain).symm
  rw [hancestors] at hstops
  have hsummary : (model.summarize ⟨0⟩).isSome := by
    rw [summarize, Option.isSome_map]
    decide
  obtain ⟨summary, hsummarize⟩ := Option.isSome_iff_exists.1 hsummary
  refine ⟨hchain, hancestors, hstops, by decide, summary, hsummarize, ?_⟩
  rw [(hdepth summary hsummarize).1, hancestors]
  rfl

end TypeGraph.Model
