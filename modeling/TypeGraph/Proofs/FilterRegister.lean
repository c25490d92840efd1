import TypeGraph.Filter

/-!
# TypeGraph.Proofs.FilterRegister

A collection of filters over time.  Filters are registered under names, removed by
name, and cleared:

1. `Filters.Ordered.run` — the names ascend in the order of registration and the next
   name is above them, so a name stands for one filter (`Ordered.entries_remove`);
2. `Filters.map_index_issued` — names count up, so none is given out twice;
3. `Filters.mem_entries_run` — a filter is registered if it has been added and neither
   removed nor cleared since;
4. `Filters.Lacks.run` — two collections, of which one lacks a filter, stay alike but
   for that filter and the names after it;
5. `FilterPool.registers` — several collections, copies of each other among them: each
   one is what its own history makes of the empty collection.
-/

namespace TypeGraph

namespace Filters

variable {filters : Filters} {id : FilterId} {filter : Filter}

/-! ## Changes -/

/-- What can be done to a collection. -/
inductive Change where
  | add (filter : Filter)
  | remove (id : FilterId)
  | clear

def Change.after (filters : Filters) : Change → Filters
  | .add filter => (filters.add filter).2
  | .remove id => filters.remove id
  | .clear => filters.clear

def run (filters : Filters) (changes : List Change) : Filters :=
  changes.foldl (fun filters change => change.after filters) filters

/-- A history may be cut anywhere. -/
theorem run_append (filters : Filters) (first second : List Change) :
    filters.run (first ++ second) = (filters.run first).run second :=
  List.foldl_append

/-! ## Names in order -/

/-- The names ascend in the order of registration, and the next one is above them. -/
structure Ordered (filters : Filters) : Prop where
  ascending : filters.entries.Pairwise fun a b => a.1.index < b.1.index
  below : ∀ entry ∈ filters.entries, entry.1.index < filters.next.index

namespace Ordered

theorem empty : Filters.empty.Ordered := ⟨.nil, nofun⟩

/-- A filter that is added gets an id that no registered one has. -/
theorem add (h : filters.Ordered) (filter : Filter) : (filters.add filter).2.Ordered where
  ascending := by
    refine List.pairwise_append.2 ⟨h.ascending, List.pairwise_singleton _ _, ?_⟩
    intro old hold new hnew
    rw [List.mem_singleton.1 hnew]
    exact h.below old hold
  below entry hentry := by
    show entry.1.index < filters.next.index + 1
    obtain hold | hnew := List.mem_append.1 hentry
    · exact Nat.lt_succ_of_lt (h.below entry hold)
    · rw [List.mem_singleton.1 hnew]
      exact Nat.lt_succ_self _

theorem remove (h : filters.Ordered) (id : FilterId) : (filters.remove id).Ordered where
  ascending := h.ascending.filter _
  below entry hentry := h.below entry (List.mem_filter.1 hentry).1

/-- One change keeps the entries in the order of their ids. -/
theorem after (h : filters.Ordered) (change : Change) : (change.after filters).Ordered := by
  cases change with
  | add filter => exact h.add filter
  | remove id => exact h.remove id
  | clear => exact ⟨.nil, nofun⟩

theorem run (h : filters.Ordered) (changes : List Change) : (filters.run changes).Ordered := by
  induction changes generalizing filters with
  | nil => exact h
  | cons change changes ih => exact ih (h.after change)

/-- A removal takes one filter out, and the others stay in their order. -/
theorem entries_remove (h : filters.Ordered) {before after : List (FilterId × Filter)}
    (hsplit : filters.entries = before ++ (id, filter) :: after) :
    (filters.remove id).entries = before ++ after := by
  have hascending := h.ascending
  rw [hsplit, List.pairwise_append, List.pairwise_cons] at hascending
  obtain ⟨-, ⟨hafter, -⟩, hbefore⟩ := hascending
  have hkeeps {entry : FilterId × Filter} (hne : entry.1.index ≠ id.index) :
      (entry.1 != id) = true := bne_iff_ne.2 fun heq => hne (congrArg FilterId.index heq)
  show filters.entries.filter (·.1 != id) = before ++ after
  rw [hsplit, List.filter_append, List.filter_cons_of_neg (by simp)]
  congr 1
  · exact List.filter_eq_self.2 fun entry hentry =>
      hkeeps (Nat.ne_of_lt (hbefore entry hentry _ List.mem_cons_self))
  · exact List.filter_eq_self.2 fun entry hentry => hkeeps (Nat.ne_of_gt (hafter entry hentry))

end Ordered

/-! ## What a removal reports -/

/-- What a removal reports: whether there is one filter less. -/
def removes (filters : Filters) (id : FilterId) : Bool := (filters.remove id).size != filters.size

/-- An id is registered if some filter is registered under it. -/
theorem contains_iff : filters.contains id = true ↔ ∃ filter, (id, filter) ∈ filters.entries := by
  rw [contains, List.any_eq_true]
  constructor
  · rintro ⟨⟨other, filter⟩, hentry, heq⟩
    obtain rfl := eq_of_beq heq
    exact ⟨filter, hentry⟩
  · rintro ⟨filter, hentry⟩
    exact ⟨(id, filter), hentry, beq_self_eq_true id⟩

/-- Removing an id tells whether it is registered, by the number of filters before and
after. -/
theorem removes_eq_contains (filters : Filters) (id : FilterId) :
    filters.removes id = filters.contains id := by
  rw [Bool.eq_iff_iff, removes, bne_iff_ne, size, size, remove, Ne,
    List.length_filter_eq_length_iff, contains, List.any_eq_true]
  simp

/-- Removing an id that is not registered does nothing. -/
theorem remove_of_not_contains (h : filters.contains id = false) : filters.remove id = filters := by
  have hkeeps : filters.entries.filter (·.1 != id) = filters.entries := by
    rw [contains, List.any_eq_false] at h
    exact List.filter_eq_self.2 fun entry hentry => by simpa using h entry hentry
  rw [remove, hkeeps]

/-! ## The names that are given out -/

/-- The name that a change gives out, if it registers a filter. -/
def Change.issue? (filters : Filters) : Change → Option FilterId
  | .add filter => some (filters.add filter).1
  | .remove _ | .clear => none

/-- The names that some changes in turn give out. -/
def issued (filters : Filters) : List Change → List FilterId
  | [] => []
  | change :: changes => (change.issue? filters).toList ++ (change.after filters).issued changes

/-- Adding a filter gives out the next id. -/
theorem issued_add (filters : Filters) (filter : Filter) (changes : List Change) :
    filters.issued (.add filter :: changes) =
      filters.next :: (filters.add filter).2.issued changes := rfl

/-- As many ids have been given out as filters have been added. -/
theorem next_run (filters : Filters) (changes : List Change) :
    (filters.run changes).next.index = filters.next.index + (filters.issued changes).length := by
  induction changes generalizing filters with
  | nil => rfl
  | cons change changes ih =>
      refine (ih (change.after filters)).trans ?_
      cases change with
      | add filter => rw [issued_add, List.length_cons, Nat.add_comm _ 1, ← Nat.add_assoc]; rfl
      | remove id => rfl
      | clear => rfl

/-- The names that are given out count up from the next one. -/
theorem map_index_issued (filters : Filters) (changes : List Change) :
    (filters.issued changes).map (·.index) =
      List.range' filters.next.index (filters.issued changes).length := by
  induction changes generalizing filters with
  | nil => rfl
  | cons change changes ih =>
      cases change with
      | add filter =>
          rw [issued_add, List.map_cons, ih, List.length_cons, List.range'_succ]
          rfl
      | remove id => exact ih (filters.remove id)
      | clear => exact ih filters.clear

/-- No id is given out twice, whatever is removed in between. -/
theorem nodup_issued (filters : Filters) (changes : List Change) :
    (filters.issued changes).Nodup := by
  have hnodup : ((filters.issued changes).map (·.index)).Nodup := by
    rw [map_index_issued]
    exact List.nodup_range'
  exact (List.pairwise_map.1 hnodup).imp fun hne heq => hne (congrArg FilterId.index heq)

/-- Clearing the collection does not bring names back. -/
example : (empty.issued [.add .internal, .clear, .add .userDefined]).map (·.index) = [0, 1] := rfl

/-! ## What is registered -/

/-- The changes neither remove what is registered under the name nor clear the
collection. -/
def Spares (changes : List Change) (id : FilterId) : Prop :=
  .remove id ∉ changes ∧ .clear ∉ changes

/-- One of the changes adds the filter, under the name, and the later ones spare it. -/
def Survives (filters : Filters) (changes : List Change) (id : FilterId) (filter : Filter) : Prop :=
  ∃ before after, changes = before ++ .add filter :: after ∧
    (filters.run before).next = id ∧ Spares after id

/-- A history spares an id if its first change does and the rest does. -/
theorem spares_cons {change : Change} {changes : List Change} :
    Spares (change :: changes) id ↔ Spares [change] id ∧ Spares changes id := by
  simp only [Spares, List.mem_cons, List.not_mem_nil, or_false, not_or]
  exact and_and_and_comm

/-- A filter that survives a history is the one that the first change adds, or it
survives the rest. -/
theorem survives_cons {change : Change} {changes : List Change} :
    filters.Survives (change :: changes) id filter ↔
      (change = .add filter ∧ filters.next = id ∧ Spares changes id) ∨
        (change.after filters).Survives changes id filter := by
  constructor
  · rintro ⟨before, after, hsplit, hnext, hspares⟩
    cases before with
    | nil =>
        obtain ⟨rfl, rfl⟩ := List.cons.inj hsplit
        exact .inl ⟨rfl, hnext, hspares⟩
    | cons first before =>
        obtain ⟨rfl, rfl⟩ := List.cons.inj hsplit
        exact .inr ⟨before, after, rfl, hnext, hspares⟩
  · rintro (⟨rfl, hnext, hspares⟩ | ⟨before, after, rfl, hnext, hspares⟩)
    · exact ⟨[], changes, rfl, hnext, hspares⟩
    · exact ⟨change :: before, after, rfl, hnext, hspares⟩

/-- What is registered after a change has been before and is spared, or has just been
added. -/
theorem mem_entries_after (change : Change) : (id, filter) ∈ (change.after filters).entries ↔
    ((id, filter) ∈ filters.entries ∧ Spares [change] id) ∨
      (change = .add filter ∧ filters.next = id) := by
  cases change with
  | add other =>
      show (id, filter) ∈ filters.entries ++ [(filters.next, other)] ↔ _
      simp [Spares, eq_comm, and_comm]
  | remove other =>
      show (id, filter) ∈ filters.entries.filter (·.1 != other) ↔ _
      simp [Spares]
  | clear =>
      show (id, filter) ∈ [] ↔ _
      simp [Spares]

/-- **What is registered**: a filter that was there at the start and has been spared, or
one that has been added and spared since. -/
theorem mem_entries_run (filters : Filters) (changes : List Change) (id : FilterId)
    (filter : Filter) : (id, filter) ∈ (filters.run changes).entries ↔
      ((id, filter) ∈ filters.entries ∧ Spares changes id) ∨
        filters.Survives changes id filter := by
  induction changes generalizing filters with
  | nil => simp [run, Spares, Survives]
  | cons change changes ih =>
      rw [survives_cons, spares_cons]
      refine (ih (change.after filters)).trans ?_
      rw [mem_entries_after, or_and_right, or_assoc, and_assoc, and_assoc]

/-- A type is visible if every filter accepts it that has been added and spared since. -/
theorem accepts_run_empty (history : List Change) (node : TypeNode) (package : Option Package) :
    (empty.run history).accepts node package = true ↔
      ∀ id filter, empty.Survives history id filter → filter.accepts node package = true := by
  have hmem (id : FilterId) (filter : Filter) :
      (id, filter) ∈ (empty.run history).entries ↔ empty.Survives history id filter := by
    rw [mem_entries_run]
    simp [empty]
  rw [accepts, List.all_eq_true]
  constructor
  · exact fun h id filter hsurvives => h (id, filter) ((hmem id filter).2 hsurvives)
  · exact fun h entry hentry => h entry.1 entry.2 ((hmem entry.1 entry.2).1 hentry)

end Filters

/-! ## A filter that is added and removed again -/

/-- The name in a collection to which the filter of the name `gone` has never been added:
later names come one earlier. -/
def FilterId.without (id gone : FilterId) : FilterId :=
  if id.index < gone.index then id else ⟨id.index - 1⟩

/-- Ids that were given out before the missing one stay as they are. -/
theorem FilterId.without_of_lt {id gone : FilterId} (h : id.index < gone.index) :
    id.without gone = id := if_pos h

/-- Leaving one id out tells the others apart as before. -/
theorem FilterId.without_inj {a b gone : FilterId} (ha : a ≠ gone) (hb : b ≠ gone) :
    a.without gone = b.without gone ↔ a = b := by
  obtain ⟨a⟩ := a
  obtain ⟨b⟩ := b
  obtain ⟨gone⟩ := gone
  simp only [without, FilterId.mk.injEq, ne_eq] at *
  split <;> split <;> simp only [FilterId.mk.injEq] <;> omega

namespace Filters

variable {filters more less : Filters} {gone : FilterId}

/-- The same change of a collection to which the filter of the name `gone` has never been
added; to remove that filter is to do nothing. -/
def Change.without (gone : FilterId) : Change → Option Change
  | .add filter => some (.add filter)
  | .remove id => if id = gone then none else some (.remove (id.without gone))
  | .clear => some .clear

/-- The same changes of a collection to which the filter of the name `gone` has never been
added. -/
def changesWithout (gone : FilterId) (changes : List Change) : List Change :=
  changes.filterMap (·.without gone)

/-- The second collection is the first one, had the filter of the name `gone` never been
added. -/
structure Lacks (gone : FilterId) (more less : Filters) : Prop where
  issued : gone.index < more.next.index
  next : more.next.index = less.next.index + 1
  entries : less.entries =
    (more.entries.filter (·.1 != gone)).map fun entry => (entry.1.without gone, entry.2)

namespace Lacks

/-- A filter that has just been added is one that the collection lacks without it. -/
theorem of_add (h : filters.Ordered) (filter : Filter) :
    Lacks filters.next (filters.add filter).2 filters where
  issued := Nat.lt_succ_self _
  next := rfl
  entries := by
    have hold : filters.entries.filter (·.1 != filters.next) = filters.entries :=
      List.filter_eq_self.2 fun entry hentry =>
        bne_iff_ne.2 fun heq => Nat.ne_of_lt (h.below entry hentry) (congrArg FilterId.index heq)
    have hsame : ∀ entry ∈ filters.entries, (entry.1.without filters.next, entry.2) = entry :=
      fun entry hentry => by rw [FilterId.without_of_lt (h.below entry hentry)]
    show filters.entries = ((filters.entries ++ [(filters.next, filter)]).filter
      (·.1 != filters.next)).map _
    rw [List.filter_append, hold, List.filter_cons_of_neg (by simp), List.filter_nil,
      List.append_nil]
    exact (List.map_congr_left hsame).trans (List.map_id _) |>.symm

theorem add (h : Lacks gone more less) (filter : Filter) :
    Lacks gone (more.add filter).2 (less.add filter).2 where
  issued := Nat.lt_succ_of_lt h.issued
  next := congrArg Nat.succ h.next
  entries := by
    have hne : (more.next != gone) = true :=
      bne_iff_ne.2 fun heq => Nat.ne_of_gt h.issued (congrArg FilterId.index heq)
    have hnext : more.next.without gone = less.next := by
      rw [FilterId.without, if_neg (Nat.not_lt_of_gt h.issued), h.next]
      rfl
    show less.entries ++ [(less.next, filter)] =
      ((more.entries ++ [(more.next, filter)]).filter (·.1 != gone)).map _
    rw [List.filter_append, List.map_append, h.entries]
    simp [hne, hnext]

/-- Removing the filter that makes the difference: none is left but the numbering. -/
theorem remove_gone (h : Lacks gone more less) : Lacks gone (more.remove gone) less where
  issued := h.issued
  next := h.next
  entries := by
    show less.entries = ((more.entries.filter (·.1 != gone)).filter (·.1 != gone)).map _
    rw [List.filter_filter, h.entries]
    simp only [Bool.and_self]

theorem remove (h : Lacks gone more less) {id : FilterId} (hid : id ≠ gone) :
    Lacks gone (more.remove id) (less.remove (id.without gone)) where
  issued := h.issued
  next := h.next
  entries := by
    show less.entries.filter (·.1 != id.without gone) =
      ((more.entries.filter (·.1 != id)).filter (·.1 != gone)).map _
    rw [h.entries, List.filter_map, List.filter_filter, List.filter_filter]
    congr 1
    refine List.filter_congr fun entry _ => ?_
    by_cases hentry : entry.1 = gone
    · simp [hentry]
    · have hinj := FilterId.without_inj hentry hid
      simp [bne, hentry, hinj, Bool.beq_eq_decide_eq]

theorem clear (h : Lacks gone more less) : Lacks gone more.clear less.clear :=
  ⟨h.issued, h.next, rfl⟩

theorem change (h : Lacks gone more less) (change : Change) :
    Lacks gone (change.after more) (less.run (change.without gone).toList) := by
  cases change with
  | add filter => exact h.add filter
  | remove id =>
      rw [Change.without]
      by_cases hid : id = gone
      · rw [if_pos hid, hid]
        exact h.remove_gone
      · rw [if_neg hid]
        exact h.remove hid
  | clear => exact h.clear

theorem run (h : Lacks gone more less) (changes : List Change) :
    Lacks gone (more.run changes) (less.run (changesWithout gone changes)) := by
  induction changes generalizing more less with
  | nil => exact h
  | cons change changes ih =>
      have hsplit : changesWithout gone (change :: changes) =
          (change.without gone).toList ++ changesWithout gone changes := by
        rw [changesWithout, List.filterMap_cons]
        cases change.without gone <;> rfl
      rw [hsplit, run_append]
      exact ih (h.change change)

/-- Once the filter is gone, the same filters are left, in the same order. -/
theorem map_filter_eq (h : Lacks gone more less)
    (habsent : ∀ entry ∈ more.entries, entry.1 ≠ gone) :
    more.entries.map (·.2) = less.entries.map (·.2) := by
  rw [h.entries, List.filter_eq_self.2 fun entry hentry => bne_iff_ne.2 (habsent entry hentry),
    List.map_map]
  rfl

end Lacks

/-- A name that has been given out before is not given out again. -/
theorem ne_of_mem_run (hissued : gone.index < filters.next.index)
    (habsent : ∀ entry ∈ filters.entries, entry.1 ≠ gone) (changes : List Change) :
    ∀ entry ∈ (filters.run changes).entries, entry.1 ≠ gone := by
  intro entry hentry heq
  obtain ⟨hold, -⟩ | ⟨before, after, -, hnext, -⟩ :=
    (filters.mem_entries_run changes entry.1 entry.2).1 hentry
  · exact habsent _ hold heq
  · have hlater := filters.next_run before
    rw [hnext, heq] at hlater
    omega

/-- A filter that is added and removed again leaves the filters that would be there if it
had never been added. -/
theorem map_filter_run (h : filters.Ordered) (filter : Filter) (between later : List Change) :
    (filters.run (.add filter :: between ++ .remove filters.next :: later)).entries.map (·.2) =
      (filters.run (changesWithout filters.next (between ++ later))).entries.map (·.2) := by
  have hremoved : Lacks filters.next (((filters.add filter).2.run between).remove filters.next)
      (filters.run (changesWithout filters.next between)) :=
    ((Lacks.of_add h filter).run between).remove_gone
  have habsent : ∀ entry ∈ (((filters.add filter).2.run between).remove filters.next).entries,
      entry.1 ≠ filters.next := fun entry hentry => bne_iff_ne.1 (List.mem_filter.1 hentry).2
  have hend := (hremoved.run later).map_filter_eq (ne_of_mem_run hremoved.issued habsent later)
  rw [changesWithout, List.filterMap_append, run_append, run_append]
  exact hend

/-- Ids do not matter for what is accepted. -/
theorem accepts_eq (node : TypeNode) (package : Option Package)
    (h : more.entries.map (·.2) = less.entries.map (·.2)) :
    more.accepts node package = less.accepts node package := by
  have hall (filters : Filters) : filters.accepts node package =
      (filters.entries.map (·.2)).all (·.accepts node package) := by
    rw [List.all_map]
    rfl
  rw [hall, hall, h]

/-! ## Histories -/

/-- What a collection keeps to, given all changes since it was empty. -/
structure Registers (history : List Change) : Prop where
  /-- The registered names ascend and are below the next one. -/
  ordered : (empty.run history).Ordered
  /-- Names count up from zero, whatever has been removed or cleared in between. -/
  counted : (empty.issued history).map (·.index) = List.range (empty.issued history).length
  neverTwice : (empty.issued history).Nodup
  /-- A removal reports whether the name is registered. -/
  removes_iff : ∀ id, (empty.run history).removes id = true ↔
    ∃ filter, (id, filter) ∈ (empty.run history).entries
  /-- It takes out that filter, and leaves the others in their order. -/
  removed : ∀ id filter before after,
    (empty.run history).entries = before ++ (id, filter) :: after →
      ((empty.run history).remove id).entries = before ++ after
  unremoved : ∀ id, (empty.run history).removes id = false →
    (empty.run history).remove id = empty.run history
  /-- A type is visible if every filter accepts it that has been added, and neither removed
  nor cleared since. -/
  accepts_iff : ∀ node package, (empty.run history).accepts node package = true ↔
    ∀ id filter, empty.Survives history id filter → filter.accepts node package = true
  /-- A filter that is added and removed again changes no verdict. -/
  undone : ∀ filter between later node package,
    (empty.run (history ++ .add filter :: between ++
        .remove (empty.run history).next :: later)).accepts node package =
      (empty.run (history ++ changesWithout (empty.run history).next (between ++ later))).accepts
        node package

/-- What a collection holds after a history, clause by clause. -/
theorem registers_of_history (history : List Change) : Registers history where
  ordered := Ordered.empty.run history
  counted := by
    rw [map_index_issued, List.range_eq_range']
    rfl
  neverTwice := nodup_issued _ history
  removes_iff id := by rw [removes_eq_contains, contains_iff]
  removed _ _ _ _ hsplit := (Ordered.empty.run history).entries_remove hsplit
  unremoved id h := remove_of_not_contains (by rwa [← removes_eq_contains])
  accepts_iff := accepts_run_empty history
  undone filter between later node package := by
    rw [List.append_assoc, run_append, run_append _ history (changesWithout _ _)]
    exact accepts_eq node package
      (map_filter_run (Ordered.empty.run history) filter between later)

end Filters

/-! ## Several collections -/

/-- What somebody does with collections of filters, which have numbers in the order of
creation. -/
inductive FilterPool.Step where
  | create
  | copy (index : Nat)
  | change (index : Nat) (change : Filters.Change)

namespace FilterPool

/-- What a step does to things that are made, copied and changed. -/
def Step.on {α : Type} (new : α) (change : α → Filters.Change → α) (pool : List α) :
    Step → List α
  | .create => pool ++ [new]
  | .copy index => pool ++ pool[index]?.toList
  | .change index made => pool.modify index (change · made)

/-- The collections after some steps in turn. -/
def collections (steps : List Step) : List Filters :=
  steps.foldl (fun pool step => step.on .empty Filters.Change.after pool) []

/-- The histories of the collections: a copy takes over the history of what it is made of. -/
def histories (steps : List Step) : List (List Filters.Change) :=
  steps.foldl (fun pool step => step.on [] (fun history change => history ++ [change]) pool) []

/-- What is made of things step by step is made of what they are made of. -/
theorem Step.map_on {α β : Type} {f : α → β} {change : α → Filters.Change → α}
    {change' : β → Filters.Change → β} (h : ∀ a made, f (change a made) = change' (f a) made)
    (new : α) (step : Step) (pool : List α) :
    (step.on new change pool).map f = step.on (f new) change' (pool.map f) := by
  cases step with
  | create => simp [on]
  | copy index => cases h : pool[index]? <;> simp [on, h]
  | change index made =>
      apply List.ext_getElem?
      intro i
      simp only [on, List.getElem?_map, List.getElem?_modify]
      cases pool[i]? with
      | none => rfl
      | some a => by_cases hi : index = i <;> simp [hi, h]

/-- Each collection is what its own history makes of the empty one. -/
theorem collections_eq_map (steps : List Step) :
    collections steps = (histories steps).map Filters.empty.run := by
  have hrecord (history : List Filters.Change) (change : Filters.Change) :
      Filters.empty.run (history ++ [change]) = change.after (Filters.empty.run history) :=
    Filters.run_append .empty history [change]
  have hstep (pool : List (List Filters.Change)) (step : Step) :
      step.on .empty Filters.Change.after (pool.map Filters.empty.run) =
        (step.on [] (fun history change => history ++ [change]) pool).map Filters.empty.run :=
    (step.map_on hrecord [] pool).symm
  unfold collections histories
  rw [← List.foldl_hom (List.map Filters.empty.run) hstep, List.map_nil]

/-- **Registration**: whatever is done with collections of filters and with copies of them,
each one is what its own history makes of the empty collection, and every history keeps
names apart, lets a removal take out the filter of that name and no other one, and shows
a type if the filters accept it that are left. -/
theorem registers (steps : List Step) :
    collections steps = (histories steps).map Filters.empty.run ∧
      ∀ history, Filters.Registers history :=
  ⟨collections_eq_map steps, Filters.registers_of_history⟩

end FilterPool

end TypeGraph
