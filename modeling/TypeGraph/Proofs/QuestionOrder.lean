import Mathlib.Data.List.Basic
import TypeGraph.Proofs.Settled

/-!
# TypeGraph.Proofs.QuestionOrder

Questions in any order.  A question lets references remember what they point at, and
later questions meet these references; the answers are the same as without it, whatever
else the references remember:

1. `Model.askAll_afterAll` — in a run of questions each one is answered as if it were
   the first, one that follows a single reference included;
2. `Model.reportInOrder_eq` — so the summaries of a report may be worked out in any
   order, each on what the ones before it have left behind.

Nothing is asked of what references remember at the start: it may be a type of another
model, or one that the name does not resolve to.
-/

namespace TypeGraph.Model

variable {model : Model}

/-! ## Questions in turn -/

def afterAll (model : Model) (queries : List Query) : Model := queries.foldl after model

/-- What some questions in turn are answered with, each on the model that the ones
before it have left behind. -/
def askAll (model : Model) : List Query → List Answer
  | [] => []
  | query :: queries => (model.ask query).1 :: (model.ask query).2.askAll queries

/-- A question after others is answered as if it were the first. -/
theorem answer_afterAll (hpure : model.filters.Pure) (before : List Query) (query : Query) :
    query.answer (model.afterAll before) = query.answer model := by
  obtain ⟨sites, hsites⟩ := model.exists_settle_eq_foldl_after before
  rw [afterAll, hsites, query.answer_settle hpure]

/-- Questions may be asked in two parts. -/
theorem afterAll_append (model : Model) (first second : List Query) :
    model.afterAll (first ++ second) = (model.afterAll first).afterAll second :=
  List.foldl_append

/-- **Questions**: whatever has been asked before, each one of some questions in turn is
answered as if it were the first. -/
theorem askAll_afterAll (hpure : model.filters.Pure) (before queries : List Query) :
    (model.afterAll before).askAll queries = queries.map (·.answer model) := by
  induction queries generalizing before with
  | nil => rfl
  | cons query queries ih =>
      have hrest := ih (before ++ [query])
      rw [afterAll_append] at hrest
      rw [List.map_cons, ← hrest, ← answer_afterAll hpure before query]
      rfl

/-- Questions leave the filters alone. -/
theorem filters_afterAll (model : Model) (queries : List Query) :
    (model.afterAll queries).filters = model.filters := by
  obtain ⟨sites, hsites⟩ := model.exists_settle_eq_foldl_after queries
  rw [afterAll, hsites, settle_rest]

/-- They leave the handles alone. -/
theorem typeIds_afterAll (model : Model) (queries : List Query) :
    (model.afterAll queries).typeIds = model.typeIds := by
  obtain ⟨sites, hsites⟩ := model.exists_settle_eq_foldl_after queries
  rw [afterAll, hsites]
  have hids : KeepsView (·.id) model (model.settle sites) :=
    .settle (fun _ _ _ => rfl) model sites
  exact hids.map_eq

/-! ## Reports -/

/-- The summaries of some types, worked out in turn, each under the type that it is
about. -/
def summariesInTurn (model : Model) : List TypeId → List (TypeId × Option TypeSummary)
  | [] => []
  | ty :: order => (ty, model.summarize ty) :: (model.after (.summarize ty)).summariesInTurn order

/-- The report if the summaries are worked out in the given order.  They are put in the
order of creation; the circles are looked for when all of them are there. -/
def reportInOrder (model : Model) (order : List TypeId) : Report :=
  let done := model.afterAll (order.map .summarize)
  { stats := done.stats
    types := model.typeIds.filterMap fun ty => ((model.summariesInTurn order).lookup ty).join
    cycles := done.dependencyCycles.map (·.map done.typeName) }

/-- A summary is the same after a question. -/
theorem summarize_after (hpure : model.filters.Pure) (query : Query) (ty : TypeId) :
    (model.after query).summarize ty = model.summarize ty :=
  Answer.summary.inj (answer_afterAll hpure [query] (.summarize ty))

/-- Summaries that are made in turn are those that the first model gives. -/
theorem summariesInTurn_eq (hpure : model.filters.Pure) (order : List TypeId) :
    model.summariesInTurn order = order.map fun ty => (ty, model.summarize ty) := by
  induction order generalizing model with
  | nil => rfl
  | cons ty order ih =>
      have hfilters : (model.after (.summarize ty)).filters = model.filters :=
        model.filters_afterAll [.summarize ty]
      have hpure' : (model.after (.summarize ty)).filters.Pure := by rwa [hfilters]
      rw [summariesInTurn, ih hpure', List.map_cons, funext (summarize_after hpure (.summarize ty))]

/-- **Reports**: the order in which the summaries are worked out does not matter. -/
theorem reportInOrder_eq (hpure : model.filters.Pure) {order : List TypeId}
    (horder : order.Perm model.typeIds) : model.reportInOrder order = model.report := by
  have htypes : model.typeIds.filterMap
      (fun ty => ((model.summariesInTurn order).lookup ty).join) =
        model.typeIds.filterMap model.summarize := by
    refine List.filterMap_congr fun ty hty => ?_
    rw [summariesInTurn_eq hpure, List.lookup_graph model.summarize (horder.mem_iff.2 hty),
      Option.join_some]
  have hdone : (model.afterAll (order.map .summarize)).report = model.report :=
    Answer.report.inj (answer_afterAll hpure (order.map .summarize) .report)
  rw [reportInOrder, htypes]
  exact congrArg (fun done : Report => { done with types := model.report.types }) hdone

/-- Every type of the model has a summary, so none is missing from a report. -/
theorem Numbered.map_some_types_report (h : model.Numbered) :
    model.report.types.map some = model.typeIds.map model.summarize := by
  have hsome : ∀ summary ∈ model.typeIds.map model.summarize, summary.isSome = true := by
    intro summary hsummary
    obtain ⟨ty, hty, rfl⟩ := List.mem_map.1 hsummary
    obtain ⟨node, hnode, rfl⟩ := List.mem_map.1 hty
    rw [summarize, h.type?_id hnode, Option.map_some, Option.isSome_some]
  exact List.map_filterMap_some_eq_filter_map_isSome.trans (List.filter_eq_self.2 hsome)

/-- **The order of questions does not matter**: in a model of any history, whatever its
references remember, each question of a run is answered as if it were the first, and a
report lists the summaries of all types in the order of creation in whatever order they
are worked out. -/
theorem Reachable.answers_in_any_order (h : model.Reachable) (hpure : model.filters.Pure)
    (before : List Query) :
    (∀ queries, (model.afterAll before).askAll queries = queries.map (·.answer model)) ∧
      (∀ order, order.Perm model.typeIds →
        (model.afterAll before).reportInOrder order = model.report) ∧
      model.report.types.map some = model.typeIds.map model.summarize := by
  refine ⟨askAll_afterAll hpure before, fun order horder => ?_, h.numbered.map_some_types_report⟩
  have hpure' : (model.afterAll before).filters.Pure := by rwa [filters_afterAll]
  have hreport : (model.afterAll before).report = model.report :=
    Answer.report.inj (answer_afterAll hpure before .report)
  have horder' : order.Perm (model.afterAll before).typeIds := by rwa [typeIds_afterAll]
  rw [reportInOrder_eq hpure' horder', hreport]

/-- One reference of `Square` remembers a type of another model, one the class `Shape`
under the name of an interface, and one nothing until a question is asked. -/
theorem answers_in_any_order_of_foreign_memo :
    let model := (Model.empty 0 (.ofList [.userDefined])).run [
      .addType .classType "Square", .addType .classType "Shape", .addType .interfaceType "Named",
      .setUserDefined ⟨0⟩, .setUserDefined ⟨2⟩,
      .addInterface ⟨0⟩ ⟨.interfaceType, "Sold", some ⟨9⟩⟩,
      .addInterface ⟨0⟩ ⟨.interfaceType, "Named", some ⟨1⟩⟩,
      .setParent ⟨0⟩ ⟨.classType, "Shape", none⟩]
    let before : List Query := [.report, .ancestors ⟨0⟩, .summarize ⟨2⟩]
    model.Reachable ∧ model.filters.Pure ∧
      (model.reference? (.interface ⟨0⟩ 0)).bind model.resolve = some ⟨9⟩ ∧
      model.type? ⟨9⟩ = none ∧
      (model.reference? (.interface ⟨0⟩ 1)).bind model.resolve = some ⟨1⟩ ∧
      List.Perm [⟨2⟩, ⟨0⟩, ⟨1⟩] model.typeIds ∧
      (∀ queries, (model.afterAll before).askAll queries = queries.map (·.answer model)) ∧
      (∀ order, order.Perm model.typeIds →
        (model.afterAll before).reportInOrder order = model.report) ∧
      model.report.types.map some = model.typeIds.map model.summarize := by
  intro model before
  have hreachable : model.Reachable := .run _ (.empty 0 (.ofList [.userDefined]))
  have hpure : model.filters.Pure := by
    intro entry hentry
    obtain rfl : entry = (⟨0⟩, .userDefined) := List.mem_singleton.1 hentry
    exact Filter.pure_of_ne_custom nofun
  exact ⟨hreachable, hpure, by decide, by decide, by decide, by decide,
    hreachable.answers_in_any_order hpure before⟩

end TypeGraph.Model
