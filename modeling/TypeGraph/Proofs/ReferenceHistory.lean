import TypeGraph.Reference

/-!
# TypeGraph.Proofs.ReferenceHistory

A reference over time.  It may be followed in any tables, in those of a model, of its
copies or in others, and the tables may change in any way in between:

1. `TypeReference.firstHit` — the first table that has the name decides for good, and
   tables without it before that leave no trace;
2. `ReferencePool.replies_eq` — of several references that somebody holds, copies of
   each other among them, each one answers as if it were alone;
3. `ReferencePool.firstHit_of_copies` — both together, and a copy starts with what the
   reference remembers at that moment.
-/

namespace TypeGraph

namespace TypeReference

variable {reference : TypeReference} {table : SymbolTable} {tables : List SymbolTable}
  {ty : TypeId}

/-! ## One reference -/

/-- The reference after it has been followed in some tables in turn. -/
def followed (reference : TypeReference) (tables : List SymbolTable) : TypeReference :=
  tables.foldl settle reference

/-- What following the reference in some tables in turn shows. -/
def answers (reference : TypeReference) : List SymbolTable → List (Option TypeId)
  | [] => []
  | table :: tables => reference.target? table :: (reference.settle table).answers tables

/-- Tables may be followed in two parts. -/
theorem followed_append (reference : TypeReference) (first second : List SymbolTable) :
    reference.followed (first ++ second) = (reference.followed first).followed second :=
  List.foldl_append

/-- The answers come in two parts then. -/
theorem answers_append (reference : TypeReference) (first second : List SymbolTable) :
    reference.answers (first ++ second) =
      reference.answers first ++ (reference.followed first).answers second := by
  induction first generalizing reference with
  | nil => rfl
  | cons table first ih =>
      rw [List.cons_append, answers, ih, answers, List.cons_append]
      rfl

/-! ### A reference that has been found -/

/-- Who remembers a type points at it, whatever the table knows. -/
theorem target?_of_memo (h : reference.memo = some ty) (table : SymbolTable) :
    reference.target? table = some ty := by
  rw [target?, h]

/-- And does not change any more. -/
theorem settle_of_memo (h : reference.memo = some ty) (table : SymbolTable) :
    reference.settle table = reference := by
  rw [settle, target?_of_memo h, ← h]

/-- However many tables are followed. -/
theorem followed_of_memo (h : reference.memo = some ty) (tables : List SymbolTable) :
    reference.followed tables = reference := by
  induction tables with
  | nil => rfl
  | cons table tables ih =>
      rw [followed, List.foldl_cons, settle_of_memo h]
      exact ih

/-- All answers are that type. -/
theorem answers_of_memo (h : reference.memo = some ty) (tables : List SymbolTable) :
    reference.answers tables = List.replicate tables.length (some ty) := by
  induction tables with
  | nil => rfl
  | cons table tables ih =>
      rw [answers, target?_of_memo h, settle_of_memo h, ih, List.length_cons, List.replicate_succ]

/-! ### A reference that has not been found -/

/-- Nothing is found in a table without the key. -/
theorem target?_of_not_mem (hmemo : reference.memo = none)
    (hmiss : symbolKey reference.name ∉ table) : reference.target? table = none := by
  rw [target?, hmemo]
  exact Std.HashMap.getElem?_eq_none hmiss

/-- And nothing is remembered. -/
theorem settle_of_not_mem (hmemo : reference.memo = none)
    (hmiss : symbolKey reference.name ∉ table) : reference.settle table = reference := by
  rw [settle, target?_of_not_mem hmemo hmiss, ← hmemo]

/-- Tables that do not have the name leave no trace. -/
theorem followed_of_misses (hmemo : reference.memo = none)
    (hmisses : ∀ table ∈ tables, symbolKey reference.name ∉ table) :
    reference.followed tables = reference := by
  induction tables with
  | nil => rfl
  | cons table tables ih =>
      obtain ⟨hmiss, hrest⟩ := List.forall_mem_cons.1 hmisses
      rw [followed, List.foldl_cons, settle_of_not_mem hmemo hmiss]
      exact ih hrest

/-- As long as no table has the key all answers are none. -/
theorem answers_of_misses (hmemo : reference.memo = none)
    (hmisses : ∀ table ∈ tables, symbolKey reference.name ∉ table) :
    reference.answers tables = List.replicate tables.length none := by
  induction tables with
  | nil => rfl
  | cons table tables ih =>
      obtain ⟨hmiss, hrest⟩ := List.forall_mem_cons.1 hmisses
      rw [answers, target?_of_not_mem hmemo hmiss, settle_of_not_mem hmemo hmiss, ih hrest,
        List.length_cons, List.replicate_succ]

/-- The first hit is remembered. -/
theorem memo_settle_of_hit (hmemo : reference.memo = none)
    (hhit : table[symbolKey reference.name]? = some ty) :
    (reference.settle table).memo = some ty := by
  rw [settle, target?, hmemo]
  exact hhit

/-! ### The first hit -/

/-- The first table that has the name decides for good what the reference shows and
remembers. -/
structure FirstHit (reference : TypeReference) (tables : List SymbolTable) : Prop where
  /-- What is remembered is shown, whatever the tables say. -/
  known : ∀ ty, reference.memo = some ty →
    reference.answers tables = List.replicate tables.length (some ty) ∧
      ∀ count, (reference.followed (tables.take count)).isResolved = true
  /-- Nothing is shown or remembered up to the first table that has the name. -/
  missed : reference.memo = none → ∀ before after, tables = before ++ after →
    (∀ table ∈ before, symbolKey reference.name ∉ table) →
      (reference.answers tables).take before.length = List.replicate before.length none ∧
        ∀ count ≤ before.length,
          (reference.followed (tables.take count)).isResolved = false
  /-- From that table on the type found there is shown, and remembered. -/
  found : reference.memo = none → ∀ before hit after ty, tables = before ++ hit :: after →
    (∀ table ∈ before, symbolKey reference.name ∉ table) →
      hit[symbolKey reference.name]? = some ty →
        (reference.answers tables).drop before.length =
            List.replicate (after.length + 1) (some ty) ∧
          ∀ count > before.length,
            (reference.followed (tables.take count)).memo = some ty ∧
              (reference.followed (tables.take count)).isResolved = true

/-- There is one answer for each table. -/
theorem length_answers (reference : TypeReference) (tables : List SymbolTable) :
    (reference.answers tables).length = tables.length := by
  induction tables generalizing reference with
  | nil => rfl
  | cons table tables ih => rw [answers, List.length_cons, ih, List.length_cons]

/-- **One reference**: the first table that has the name decides. -/
theorem firstHit (reference : TypeReference) (tables : List SymbolTable) :
    reference.FirstHit tables where
  known ty hmemo := by
    refine ⟨answers_of_memo hmemo tables, fun count => ?_⟩
    rw [followed_of_memo hmemo, isResolved, hmemo, Option.isSome_some]
  missed hmemo before after htables hmisses := by
    subst htables
    constructor
    · rw [answers_append, List.take_left' (length_answers reference before),
        answers_of_misses hmemo hmisses]
    · intro count hcount
      have hearlier : ∀ table ∈ before.take count, symbolKey reference.name ∉ table :=
        fun table htable => hmisses table (List.mem_of_mem_take htable)
      rw [List.take_append_of_le_length hcount, followed_of_misses hmemo hearlier, isResolved,
        hmemo, Option.isSome_none]
  found hmemo before hit after ty htables hmisses hhit := by
    subst htables
    have hsettled := memo_settle_of_hit hmemo hhit
    constructor
    · rw [answers_append, List.drop_left' (length_answers reference before),
        followed_of_misses hmemo hmisses, answers, answers_of_memo hsettled,
        List.replicate_succ, ← hsettled, settle]
    · intro count hcount
      obtain ⟨more, rfl⟩ : ∃ more, count = before.length + (more + 1) :=
        ⟨count - before.length - 1, by omega⟩
      have hafter : reference.followed ((before ++ hit :: after).take
          (before.length + (more + 1))) = reference.settle hit := by
        rw [List.take_length_add_append, followed_append, followed_of_misses hmemo hmisses,
          List.take_succ_cons, followed, List.foldl_cons]
        exact followed_of_memo hsettled (after.take more)
      rw [hafter, isResolved, hsettled]
      exact ⟨rfl, rfl⟩

end TypeReference

/-! ## Several references -/

/-- The references that somebody holds, by number in the order of creation. -/
abbrev ReferencePool := List TypeReference

/-- What the holder does with references. -/
inductive ReferencePool.Step where
  /-- A new reference, unless the name is blank. -/
  | mention (kind : TypeKind) (name : String)
  /-- A copy of a reference. -/
  | copy (index : Nat)
  /-- Follows a reference in a table. -/
  | follow (index : Nat) (table : SymbolTable)

namespace ReferencePool

variable {pool : ReferencePool} {index : Nat} {reference : TypeReference}

def next (pool : ReferencePool) : Step → ReferencePool
  | .mention kind name => pool ++ (TypeReference.new? kind name).toList
  | .copy index => pool ++ pool[index]?.toList
  | .follow index table => pool.modify index (·.settle table)

def run (pool : ReferencePool) (steps : List Step) : ReferencePool := steps.foldl next pool

/-- What a step shows of the reference with the number, if it follows that one. -/
def reply (pool : ReferencePool) (index : Nat) : Step → Option (Option TypeId)
  | .follow other table =>
    if other = index then pool[index]?.map (·.target? table) else none
  | _ => none

/-- What some steps in turn show of the reference with the number. -/
def replies (pool : ReferencePool) (index : Nat) : List Step → List (Option TypeId)
  | [] => []
  | step :: steps => (pool.reply index step).toList ++ (pool.next step).replies index steps

/-- The table in which a step follows the reference with the number. -/
def Step.tableOf (index : Nat) : Step → Option SymbolTable
  | .follow other table => if other = index then some table else none
  | _ => none

/-- The tables in which some steps in turn follow the reference with the number. -/
def tablesOf (index : Nat) (steps : List Step) : List SymbolTable :=
  steps.filterMap (·.tableOf index)

/-- A step does to a reference what following it does, if it follows that one, and
nothing otherwise. -/
theorem getElem?_next (h : pool[index]? = some reference) (step : Step) :
    (pool.next step)[index]? = some (reference.followed (step.tableOf index).toList) := by
  have hbound : index < pool.length := (List.getElem?_eq_some_iff.1 h).1
  cases step with
  | mention kind name => exact (List.getElem?_append_left hbound).trans h
  | copy other => exact (List.getElem?_append_left hbound).trans h
  | follow other table =>
      rw [next, List.getElem?_modify, h, Option.map_eq_map, Option.map_some, Step.tableOf]
      by_cases hother : other = index
      · rw [if_pos hother, if_pos hother]
        rfl
      · rw [if_neg hother, if_neg hother]
        rfl

/-- The tables in which a reference is followed, step by step. -/
theorem tablesOf_cons (index : Nat) (step : Step) (steps : List Step) :
    tablesOf index (step :: steps) = (step.tableOf index).toList ++ tablesOf index steps := by
  rw [tablesOf, List.filterMap_cons]
  cases step.tableOf index <;> rfl

/-- **A run** does to a reference what following it in its own tables does. -/
theorem getElem?_run (h : pool[index]? = some reference) (steps : List Step) :
    (pool.run steps)[index]? = some (reference.followed (tablesOf index steps)) := by
  induction steps generalizing pool reference with
  | nil => exact h
  | cons step steps ih =>
      rw [tablesOf_cons, TypeReference.followed_append]
      exact ih (getElem?_next h step)

/-- A reference answers in the step that follows it, and in no other one. -/
theorem reply_eq (h : pool[index]? = some reference) (step : Step) :
    (pool.reply index step).toList = reference.answers (step.tableOf index).toList := by
  cases step with
  | follow other table =>
      rw [reply, Step.tableOf, h]
      split <;> rfl
  | _ => rfl

/-- **Alone**: in a run a reference answers as it would if there were no others. -/
theorem replies_eq (h : pool[index]? = some reference) (steps : List Step) :
    pool.replies index steps = reference.answers (tablesOf index steps) := by
  induction steps generalizing pool reference with
  | nil => rfl
  | cons step steps ih =>
      rw [replies, tablesOf_cons, TypeReference.answers_append, reply_eq h step,
        ih (getElem?_next h step)]

/-- A copy takes the next number; it and its original are as the original was. -/
theorem getElem?_copy (h : pool[index]? = some reference) :
    (pool.next (.copy index))[pool.length]? = some reference ∧
      (pool.next (.copy index))[index]? = some reference := by
  refine ⟨?_, getElem?_next h (.copy index)⟩
  rw [next, h, Option.toList_some, List.getElem?_concat_length]

/-- Two references that are alike now, and from now on answer each as if the other were
not there. -/
structure Apart (pool : ReferencePool) (original copy : Nat) (reference : TypeReference) :
    Prop where
  ne : original ≠ copy
  original_eq : pool[original]? = some reference
  copy_eq : pool[copy]? = some reference
  replies_original : ∀ later,
    pool.replies original later = reference.answers (tablesOf original later)
  replies_copy : ∀ later, pool.replies copy later = reference.answers (tablesOf copy later)

/-- A copy and its original are apart from the moment of copying. -/
theorem apart_of_copy (h : pool[index]? = some reference) :
    (pool.next (.copy index)).Apart index pool.length reference where
  ne := Nat.ne_of_lt (List.getElem?_eq_some_iff.1 h).1
  original_eq := (getElem?_copy h).2
  copy_eq := (getElem?_copy h).1
  replies_original := replies_eq (getElem?_copy h).2
  replies_copy := replies_eq (getElem?_copy h).1

/-- **Histories**: in any run a reference shows what the first table that has its name
says, among those in which it is followed itself; and if it is copied after that, the
copy starts with what it remembers then, and each goes its own way. -/
theorem firstHit_of_copies (h : pool[index]? = some reference) (steps : List Step) :
    pool.replies index steps = reference.answers (tablesOf index steps) ∧
      (pool.run steps)[index]? = some (reference.followed (tablesOf index steps)) ∧
      reference.FirstHit (tablesOf index steps) ∧
      ((pool.run steps).next (.copy index)).Apart index (pool.run steps).length
        (reference.followed (tablesOf index steps)) :=
  ⟨replies_eq h steps, getElem?_run h steps, reference.firstHit _,
    apart_of_copy (getElem?_run h steps)⟩

/-- A reference is followed in vain and copied.  The copy meets one type of its name and
the original another one, and no later table changes that. -/
theorem firstHit_of_copies_of_rebound_name :
    let base : TypeReference := ⟨.classType, "\\base", none⟩
    let first : SymbolTable := SymbolTable.declare ∅ "Base" ⟨1⟩
    let second : SymbolTable := SymbolTable.declare ∅ "Base" ⟨9⟩
    let copied := (run [base] [.follow 0 ∅]).next (.copy 0)
    let later : List Step := [.follow 1 second, .follow 0 first, .follow 1 first, .follow 0 second]
    ([base] : ReferencePool)[0]? = some base ∧ replies [base] 0 [.follow 0 ∅] = [none] ∧
      copied.replies 0 later = [some ⟨1⟩, some ⟨1⟩] ∧
        copied.replies 1 later = [some ⟨9⟩, some ⟨9⟩] := by
  intro base first second copied later
  have hdeclare (ty : TypeId) :
      (SymbolTable.declare ∅ "Base" ty)[symbolKey base.name]? = some ty := by
    have hkey : symbolKey "Base" = symbolKey base.name := by decide +kernel
    rw [SymbolTable.declare, hkey, Std.HashMap.getElem?_insertIfNew,
      if_pos ⟨beq_self_eq_true _, Std.HashMap.not_mem_empty⟩]
  have hempty : ∀ table ∈ [(∅ : SymbolTable)], symbolKey base.name ∉ table := by simp
  have hbase : ([base] : ReferencePool)[0]? = some base := rfl
  obtain ⟨hreplies, -, hhistory, hapart⟩ := firstHit_of_copies hbase [.follow 0 ∅]
  have hmissed := (hhistory.missed rfl [∅] [] rfl hempty).1
  have hmoment : base.followed [∅] = base := TypeReference.followed_of_misses rfl hempty
  have hmeets (hit after : SymbolTable) (ty : TypeId)
      (hhit : hit[symbolKey base.name]? = some ty) :
      base.answers [hit, after] = [some ty, some ty] :=
    ((base.firstHit [hit, after]).found rfl [] hit [after] ty rfl (by simp) hhit).1
  refine ⟨hbase, hreplies.trans hmissed, ?_, ?_⟩
  · refine (hapart.replies_original later).trans ?_
    exact (congrArg (TypeReference.answers · [first, second]) hmoment).trans
      (hmeets first second ⟨1⟩ (hdeclare ⟨1⟩))
  · refine (hapart.replies_copy later).trans ?_
    exact (congrArg (TypeReference.answers · [second, first]) hmoment).trans
      (hmeets second first ⟨9⟩ (hdeclare ⟨9⟩))

end ReferencePool

end TypeGraph
