import TypeGraph.Proofs.Links

/-!
# TypeGraph.Proofs.PlainWalk

The order in which interfaces are listed, said without any memory of what
has been visited: the plain walk goes through the interfaces of a type in
source order, below each one as soon as it is listed, and then below the
parent, and turns back only where it would enter a type that it is inside of.

A walk with its two sets lists what the plain walk lists, each type once.
While it is inside the types of a path, every other type that it has expanded
is finished: whatever the links of that type lead to has been met or expanded
(`Walk.Tracks`).  What the plain walk lists below a finished type is therefore
nothing new (`mem_seen_of_mem_below`), and leaving it out changes nothing
(`follow_tracks`).
-/

namespace TypeGraph.Model

variable {model : Model}

/-! ## The plain walk -/

/-- How many of the first `size` handles are not on a path. -/
def offPath (size : Nat) (path : List TypeId) : Nat :=
  (List.range size).countP fun i => !path.contains ⟨i⟩

/-- A type more on the path leaves no more types off it. -/
theorem offPath_cons_le (size : Nat) (path : List TypeId) (ty : TypeId) :
    offPath size (ty :: path) ≤ offPath size path := by
  refine List.countP_mono_left fun i _ h => ?_
  simp only [List.contains_cons, Bool.not_eq_true', Bool.or_eq_false_iff] at h
  rw [h.2, Bool.not_false]

/-- A new type on the path leaves one less. -/
theorem offPath_cons_lt {size : Nat} {path : List TypeId} {ty : TypeId} (hsize : ty.index < size)
    (hnew : ty ∉ path) : offPath size (ty :: path) < offPath size path := by
  refine countP_lt_countP (List.mem_range.2 hsize) (by simpa using hnew) (by simp) ?_
  intro i _ h
  simp only [List.contains_cons, Bool.not_eq_true', Bool.or_eq_false_iff] at h
  rw [h.2, Bool.not_false]

/-- A path grows by a type of the model, or it ends at a foreign handle. -/
theorem offPath_lex {size : Nat} {path : List TypeId} {ty target : TypeId}
    (hty : ty.index < size) (hnew : target ∉ path) :
    Prod.Lex (· < ·) (· < ·)
      (offPath size (target :: path), if target.index < size then 1 else 0)
      (offPath size path, if ty.index < size then 1 else 0) := by
  by_cases htarget : target.index < size
  · exact .left _ _ (offPath_cons_lt htarget hnew)
  · rw [if_pos hty, if_neg htarget]
    exact Prod.Lex.right' _ (offPath_cons_le size path target) Nat.zero_lt_one

/-- The plain walk from a type, which is the last one on a path: each of its
interfaces followed by the walk from there, then the walk from its parent;
no walk from a type that is on the path already. -/
def plainWalk (model : Model) (path : List TypeId) (ty : TypeId) : List TypeId :=
  ((model.declaredInterfaces ty).attach.flatMap fun ⟨i, _hi⟩ =>
      i :: if _h : i ∈ path then [] else model.plainWalk (i :: path) i)
    ++ ((model.declaredParent ty).toList.attach.flatMap fun ⟨p, _hp⟩ =>
      if _h : p ∈ path then [] else model.plainWalk (p :: path) p)
termination_by (offPath model.types.size path, if ty.index < model.types.size then 1 else 0)
decreasing_by
  · exact offPath_lex (index_lt_of_leadsTo (.interface _hi)) _h
  · exact offPath_lex (index_lt_of_leadsTo (.parent (Option.mem_toList.1 _hp))) _h

/-- The walk from a type unless it is on the path already. -/
def below (model : Model) (path : List TypeId) (ty : TypeId) : List TypeId :=
  if ty ∈ path then [] else model.plainWalk (ty :: path) ty

/-- What the plain walk lists along one link. -/
def trail (model : Model) (path : List TypeId) : Link → List TypeId
  | .interface ty => ty :: model.below path ty
  | .parent ty => model.below path ty

/-- The walk goes through the links of the type, in order. -/
theorem plainWalk_eq (model : Model) (path : List TypeId) (ty : TypeId) :
    model.plainWalk path ty = (model.links ty).flatMap (model.trail path) := by
  rw [plainWalk, links_eq, List.flatMap_append, List.flatMap_map, List.flatMap_map]
  simp only [dite_eq_ite, List.flatMap_subtype, List.unattach_attach]
  rfl

/-- Below a type is what a walk meets that goes on from it, unless it is on the path. -/
theorem mem_below {path : List TypeId} {ty x : TypeId} :
    x ∈ model.below path ty ↔ ty ∉ path ∧ x ∈ model.plainWalk (ty :: path) ty := by
  by_cases h : ty ∈ path <;> simp [below, h]

/-- Whatever the plain walk lists is an interface of a type that the walk
reaches. -/
theorem exists_of_mem_plainWalk {path : List TypeId} {ty x : TypeId}
    (h : x ∈ model.plainWalk path ty) :
    ∃ y, model.Reaches ty y ∧ x ∈ model.declaredInterfaces y := by
  induction path, ty using plainWalk.induct model with
  | case1 path ty ih_interface ih_parent =>
      rw [plainWalk_eq, List.mem_flatMap] at h
      obtain ⟨link, hlink, hx⟩ := h
      cases link with
      | interface i =>
          have hi := interface_mem_links.1 hlink
          obtain rfl | hx := List.mem_cons.1 hx
          · exact ⟨ty, .refl, hi⟩
          · obtain ⟨hpath, hx⟩ := mem_below.1 hx
            obtain ⟨y, hy, hxy⟩ := ih_interface i hi hpath hx
            exact ⟨y, .head (.interface hi) hy, hxy⟩
      | parent p =>
          have hp := parent_mem_links.1 hlink
          obtain ⟨hpath, hx⟩ := mem_below.1 hx
          obtain ⟨y, hy, hxy⟩ := ih_parent p (Option.mem_toList.2 hp) hpath hx
          exact ⟨y, .head (.parent hp) hy, hxy⟩

/-! ## Meeting a list of interfaces -/

/-- The walk once the interfaces of a list have been met in turn, those that
it has seen before left out. -/
def meetAll (model : Model) (walk : Walk) (types : List TypeId) : Walk :=
  types.foldl (fun walk ty => if walk.seen.contains ty then walk else model.meet walk ty) walk

/-- Meeting types may be done in two parts. -/
theorem meetAll_append (walk : Walk) (first second : List TypeId) :
    model.meetAll walk (first ++ second) = model.meetAll (model.meetAll walk first) second :=
  List.foldl_append

/-- What has been seen is met without effect. -/
theorem meetAll_cons_of_mem {walk : Walk} {ty : TypeId} {types : List TypeId}
    (h : ty ∈ walk.seen) : model.meetAll walk (ty :: types) = model.meetAll walk types := by
  rw [meetAll, List.foldl_cons, if_pos (Std.HashSet.contains_iff_mem.2 h)]
  rfl

/-- What is new is met, and then the rest. -/
theorem meetAll_cons_of_not_mem {walk : Walk} {ty : TypeId} {types : List TypeId}
    (h : ty ∉ walk.seen) :
    model.meetAll walk (ty :: types) = model.meetAll (model.meet walk ty) types := by
  rw [meetAll, List.foldl_cons, if_neg (mt Std.HashSet.contains_iff_mem.1 h)]
  rfl

/-- Interfaces that have all been seen are nothing new. -/
theorem meetAll_of_seen {walk : Walk} {types : List TypeId} (h : ∀ ty ∈ types, ty ∈ walk.seen) :
    model.meetAll walk types = walk := by
  induction types with
  | nil => rfl
  | cons ty types ih =>
      rw [meetAll_cons_of_mem (h ty List.mem_cons_self)]
      exact ih fun x hx => h x (List.mem_cons_of_mem ty hx)

/-- After a type has been met it has been seen. -/
theorem mem_seen_meet {walk : Walk} {ty x : TypeId} :
    x ∈ (model.meet walk ty).seen ↔ x = ty ∨ x ∈ walk.seen := by
  rw [meet, Std.HashSet.mem_insert, beq_iff_eq, eq_comm]

/-- After types have been met they all have been seen. -/
theorem mem_seen_meetAll {walk : Walk} {types : List TypeId} {x : TypeId} :
    x ∈ (model.meetAll walk types).seen ↔ x ∈ walk.seen ∨ x ∈ types := by
  induction types generalizing walk with
  | nil => simp [meetAll]
  | cons ty types ih =>
      by_cases h : ty ∈ walk.seen
      · rw [meetAll_cons_of_mem h, ih, List.mem_cons, or_left_comm]
        exact ⟨.inr, fun hx => hx.elim (fun hty => .inl (hty ▸ h)) id⟩
      · rw [meetAll_cons_of_not_mem h, ih, mem_seen_meet, List.mem_cons, or_assoc, or_left_comm]

/-- What is met for the first time is found if it is visible. -/
theorem found_meetAll (walk : Walk) (types : List TypeId) :
    (model.meetAll walk types).found.toList = walk.found.toList
      ++ ((types.filter fun ty => !walk.seen.contains ty).eraseDups).filter model.isVisible := by
  induction types generalizing walk with
  | nil => simp [meetAll]
  | cons ty types ih =>
      by_cases h : ty ∈ walk.seen
      · rw [meetAll_cons_of_mem h, ih, List.filter_cons_of_neg (by simpa using h)]
      · have hseen : (fun x => !(model.meet walk ty).seen.contains x)
            = fun x => (!x == ty) && !walk.seen.contains x := by
          funext x
          rw [Bool.eq_iff_iff]
          simp [mem_seen_meet]
        rw [meetAll_cons_of_not_mem h, ih, List.filter_cons_of_pos (by simpa using h),
          List.eraseDups_cons, List.filter_filter, hseen]
        by_cases hvis : model.isVisible ty = true
        · simp [meet, hvis]
        · simp [meet, hvis]

/-- Taking a type's links is no part of meeting interfaces. -/
theorem meetAll_expanded (walk : Walk) (expanded : Std.HashSet TypeId) (types : List TypeId) :
    model.meetAll { walk with expanded } types = { model.meetAll walk types with expanded } := by
  induction types generalizing walk with
  | nil => rfl
  | cons ty types ih =>
      by_cases h : ty ∈ walk.seen
      · rw [meetAll_cons_of_mem h, ← ih]
        exact meetAll_cons_of_mem h
      · rw [meetAll_cons_of_not_mem h, ← ih]
        exact meetAll_cons_of_not_mem h

/-! ## A walk inside a path -/

/-- Whether nothing is left to do about a link: an interface has been met, a
parent has been expanded unless it is foreign. -/
def Link.Done (model : Model) (walk : Walk) : Link → Prop
  | .interface ty => ty ∈ walk.seen
  | .parent ty => ty.index < model.types.size → ty ∈ walk.expanded

/-- A walk that is inside the types of a path and has finished all others
that it has expanded. -/
structure Walk.Tracks (model : Model) (path : List TypeId) (walk : Walk) : Prop where
  path_expanded : ∀ ty ∈ path, ty.index < model.types.size → ty ∈ walk.expanded
  seen_expanded : ∀ ty ∈ walk.seen, ty.index < model.types.size → ty ∈ walk.expanded
  finished : ∀ ty ∈ walk.expanded, ty ∉ path → ∀ link ∈ model.links ty, link.Done model walk

/-- A link that is done stays done. -/
theorem Link.Done.mono {walk after : Walk} {link : Link} (h : link.Done model walk)
    (hseen : ∀ ty ∈ walk.seen, ty ∈ after.seen)
    (hexpanded : ∀ ty ∈ walk.expanded, ty ∈ after.expanded) : link.Done model after := by
  cases link with
  | interface ty => exact hseen ty h
  | parent ty => exact fun hty => hexpanded ty (h hty)

namespace Walk.Tracks

variable {path : List TypeId} {walk : Walk} {ty : TypeId}

/-- A type that can still be expanded is not on the path. -/
theorem not_mem_path (h : walk.Tracks model path) (hexp : model.canExpand walk ty = true) :
    ty ∉ path := by
  intro hpath
  have hnew := canExpand_iff.1 hexp
  exact hnew.2 (h.path_expanded ty hpath hnew.1)

/-- A type that cannot be expanded is foreign or has been expanded. -/
theorem mem_expanded_of_not (hexp : ¬ model.canExpand walk ty = true)
    (hty : ty.index < model.types.size) : ty ∈ walk.expanded := by
  rw [canExpand_iff] at hexp
  exact Decidable.byContradiction fun hnew => hexp ⟨hty, hnew⟩

/-- Below a finished type there is nothing that has not been seen. -/
theorem mem_seen_of_mem_plainWalk (h : walk.Tracks model path) {longer : List TypeId} {x : TypeId}
    (hlonger : ∀ y ∈ path, y ∈ longer) (hty : ty ∉ path)
    (hexp : ty.index < model.types.size → ty ∈ walk.expanded)
    (hx : x ∈ model.plainWalk longer ty) : x ∈ walk.seen := by
  induction longer, ty using plainWalk.induct model with
  | case1 longer ty ih_interface ih_parent =>
      rw [plainWalk_eq, List.mem_flatMap] at hx
      obtain ⟨link, hlink, hx⟩ := hx
      have hlonger' : ∀ next, ∀ y ∈ path, y ∈ next :: longer :=
        fun next y hy => List.mem_cons_of_mem next (hlonger y hy)
      cases link with
      | interface i =>
          have hi := interface_mem_links.1 hlink
          have hseen : i ∈ walk.seen :=
            h.finished ty (hexp (index_lt_of_leadsTo (.interface hi))) hty _ hlink
          obtain rfl | hx := List.mem_cons.1 hx
          · exact hseen
          · obtain ⟨hnew, hx⟩ := mem_below.1 hx
            exact ih_interface i hi hnew (hlonger' i) (mt (hlonger i) hnew)
              (h.seen_expanded i hseen) hx
      | parent p =>
          have hp := parent_mem_links.1 hlink
          have hdone : p.index < model.types.size → p ∈ walk.expanded :=
            h.finished ty (hexp (index_lt_of_leadsTo (.parent hp))) hty _ hlink
          obtain ⟨hnew, hx⟩ := mem_below.1 hx
          exact ih_parent p (Option.mem_toList.2 hp) hnew (hlonger' p) (mt (hlonger p) hnew)
            hdone hx

/-- What is below a type that has been expanded has been seen. -/
theorem mem_seen_of_mem_below (h : walk.Tracks model path) {x : TypeId}
    (hexp : ty.index < model.types.size → ty ∈ walk.expanded)
    (hx : x ∈ model.below path ty) : x ∈ walk.seen := by
  obtain ⟨hty, hx⟩ := mem_below.1 hx
  exact h.mem_seen_of_mem_plainWalk (fun y hy => List.mem_cons_of_mem ty hy) hty hexp hx

theorem meet (h : walk.Tracks model path)
    (hexp : ty.index < model.types.size → ty ∈ walk.expanded) :
    (model.meet walk ty).Tracks model path where
  path_expanded := h.path_expanded
  seen_expanded := by
    intro x hx hsize
    obtain rfl | hx := mem_seen_meet.1 hx
    · exact hexp hsize
    · exact h.seen_expanded x hx hsize
  finished := by
    intro x hx hpath link hlink
    exact (h.finished x hx hpath link hlink).mono (fun y hy => mem_seen_meet.2 (.inr hy))
      fun y hy => hy

theorem enter (h : walk.Tracks model path) (ty : TypeId) :
    Walk.Tracks model (ty :: path) { walk with expanded := walk.expanded.insert ty } where
  path_expanded := by
    intro x hx hsize
    rw [Std.HashSet.mem_insert, beq_iff_eq]
    obtain rfl | hx := List.mem_cons.1 hx
    · exact .inl rfl
    · exact .inr (h.path_expanded x hx hsize)
  seen_expanded := by
    intro x hx hsize
    exact Std.HashSet.mem_insert.2 (.inr (h.seen_expanded x hx hsize))
  finished := by
    intro x hx hpath link hlink
    rw [List.mem_cons, not_or] at hpath
    rw [Std.HashSet.mem_insert, beq_iff_eq] at hx
    have hx : x ∈ walk.expanded := hx.resolve_left fun heq => hpath.1 heq.symm
    exact (h.finished x hx hpath.2 link hlink).mono (fun y hy => hy)
      fun y hy => Std.HashSet.mem_insert.2 (.inr hy)

/-- When all links of a type have been taken, it is finished. -/
theorem leave (h : walk.Tracks model (ty :: path))
    (hdone : ∀ link ∈ model.links ty, link.Done model walk) : walk.Tracks model path where
  path_expanded := fun x hx => h.path_expanded x (List.mem_cons_of_mem ty hx)
  seen_expanded := h.seen_expanded
  finished := by
    intro x hx hpath link hlink
    by_cases heq : x = ty
    · exact hdone link (heq ▸ hlink)
    · exact h.finished x hx (by simp [heq, hpath]) link hlink

end Walk.Tracks

/-! ## Taking links -/

/-- That a walk inside a path has taken some links: nothing is left to do
about them, and what has been met is what the plain walk lists along them. -/
structure Takes (model : Model) (path : List TypeId) (links : List Link) (walk after : Walk) :
    Prop where
  tracks : after.Tracks model path
  expanded_subset : ∀ ty ∈ walk.expanded, ty ∈ after.expanded
  done : ∀ link ∈ links, link.Done model after
  met : { after with expanded := walk.expanded }
    = model.meetAll walk (links.flatMap (model.trail path))

namespace Takes

variable {path : List TypeId} {walk after last : Walk} {ty : TypeId}

/-- What has been seen afterwards. -/
theorem seen_eq {links : List Link} (h : Takes model path links walk after) :
    after.seen = (model.meetAll walk (links.flatMap (model.trail path))).seen := by
  rw [← h.met]

/-- What has been found afterwards, in order. -/
theorem found_eq {links : List Link} (h : Takes model path links walk after) :
    after.found = (model.meetAll walk (links.flatMap (model.trail path))).found := by
  rw [← h.met]

/-- Nothing is forgotten on the way. -/
theorem seen_subset {links : List Link} (h : Takes model path links walk after) :
    ∀ x ∈ walk.seen, x ∈ after.seen := by
  intro x hx
  rw [h.seen_eq]
  exact mem_seen_meetAll.2 (.inl hx)

theorem nil (h : walk.Tracks model path) : Takes model path [] walk walk where
  tracks := h
  expanded_subset := fun _ hx => hx
  done := fun _ hlink => (List.not_mem_nil hlink).elim
  met := rfl

theorem append {first second : List Link} (h : Takes model path first walk after)
    (h' : Takes model path second after last) : Takes model path (first ++ second) walk last where
  tracks := h'.tracks
  expanded_subset := fun x hx => h'.expanded_subset x (h.expanded_subset x hx)
  done := by
    intro link hlink
    obtain hlink | hlink := List.mem_append.1 hlink
    · exact (h.done link hlink).mono h'.seen_subset h'.expanded_subset
    · exact h'.done link hlink
  met := by
    rw [List.flatMap_append, meetAll_append, ← h.met, meetAll_expanded, ← h'.met]

/-- An interface that has been met before. -/
theorem interface_seen (h : walk.Tracks model path) (hseen : ty ∈ walk.seen) :
    Takes model path [.interface ty] walk walk where
  tracks := h
  expanded_subset := fun _ hx => hx
  done := by
    intro link hlink
    rw [List.mem_singleton.1 hlink]
    exact hseen
  met := by
    rw [List.flatMap_singleton, trail, meetAll_cons_of_mem hseen, meetAll_of_seen]
    exact fun x hx => h.mem_seen_of_mem_below (h.seen_expanded ty hseen) hx

/-- An interface that is met for the first time and not expanded. -/
theorem interface_met (h : walk.Tracks model path) (hseen : ty ∉ walk.seen)
    (hexp : ¬ model.canExpand walk ty = true) :
    Takes model path [.interface ty] walk (model.meet walk ty) where
  tracks := h.meet (Walk.Tracks.mem_expanded_of_not hexp)
  expanded_subset := fun _ hx => hx
  done := by
    intro link hlink
    rw [List.mem_singleton.1 hlink]
    exact mem_seen_meet.2 (.inl rfl)
  met := by
    rw [List.flatMap_singleton, trail, meetAll_cons_of_not_mem hseen, meetAll_of_seen]
    · rfl
    · intro x hx
      have hx := h.mem_seen_of_mem_below (Walk.Tracks.mem_expanded_of_not hexp) hx
      exact mem_seen_meet.2 (.inr hx)

/-- An interface that is met for the first time and expanded. -/
theorem interface_expanded (h : walk.Tracks model path) (hseen : ty ∉ walk.seen)
    (hexp : model.canExpand walk ty = true)
    (hlinks : Takes model (ty :: path) (model.links ty)
      { model.meet walk ty with expanded := walk.expanded.insert ty } after) :
    Takes model path [.interface ty] walk after where
  tracks := hlinks.tracks.leave hlinks.done
  expanded_subset := fun x hx =>
    hlinks.expanded_subset x (Std.HashSet.mem_insert.2 (.inr hx))
  done := by
    intro link hlink
    rw [List.mem_singleton.1 hlink]
    have hmet : ty ∈ (model.meet walk ty).seen := mem_seen_meet.2 (.inl rfl)
    exact hlinks.seen_subset ty hmet
  met := by
    have hmet := congrArg (fun w : Walk => { w with expanded := walk.expanded }) hlinks.met
    rw [meetAll_expanded] at hmet
    rw [List.flatMap_singleton, trail, meetAll_cons_of_not_mem hseen, below,
      if_neg (h.not_mem_path hexp), plainWalk_eq]
    refine hmet.trans ?_
    rw [← meetAll_expanded]
    rfl

/-- A parent that is foreign or expanded already. -/
theorem parent_passed (h : walk.Tracks model path) (hexp : ¬ model.canExpand walk ty = true) :
    Takes model path [.parent ty] walk walk where
  tracks := h
  expanded_subset := fun _ hx => hx
  done := by
    intro link hlink
    rw [List.mem_singleton.1 hlink]
    exact Walk.Tracks.mem_expanded_of_not hexp
  met := by
    rw [List.flatMap_singleton, trail, meetAll_of_seen]
    exact fun x hx => h.mem_seen_of_mem_below (Walk.Tracks.mem_expanded_of_not hexp) hx

/-- A parent that is expanded. -/
theorem parent_expanded (h : walk.Tracks model path) (hexp : model.canExpand walk ty = true)
    (hlinks : Takes model (ty :: path) (model.links ty)
      { walk with expanded := walk.expanded.insert ty } after) :
    Takes model path [.parent ty] walk after where
  tracks := hlinks.tracks.leave hlinks.done
  expanded_subset := fun x hx =>
    hlinks.expanded_subset x (Std.HashSet.mem_insert.2 (.inr hx))
  done := by
    intro link hlink
    rw [List.mem_singleton.1 hlink]
    exact fun _ => hlinks.expanded_subset ty (Std.HashSet.mem_insert.2 (.inl (by simp)))
  met := by
    have hmet := congrArg (fun w : Walk => { w with expanded := walk.expanded }) hlinks.met
    rw [meetAll_expanded] at hmet
    rw [List.flatMap_singleton, trail, below, if_neg (h.not_mem_path hexp), plainWalk_eq]
    refine hmet.trans ?_
    rw [← meetAll_expanded]

end Takes

/-- The more has been visited, the less is left. -/
theorem unvisited_le_of_subset {size : Nat} {visited later : Std.HashSet TypeId}
    (h : ∀ ty ∈ visited, ty ∈ later) : unvisited size later ≤ unvisited size visited := by
  refine List.countP_mono_left fun i _ hi => ?_
  rw [Bool.not_eq_true', Std.HashSet.contains_eq_false_iff_not_mem] at hi ⊢
  exact fun hmem => hi (h _ hmem)

/-- Expanding a type leaves less, and so does whatever comes after that. -/
theorem unvisited_lt_of_canExpand {walk : Walk} {ty : TypeId} {later : Std.HashSet TypeId}
    (hexp : model.canExpand walk ty = true) (h : ∀ x ∈ walk.expanded.insert ty, x ∈ later) :
    unvisited model.types.size later < unvisited model.types.size walk.expanded := by
  obtain ⟨hsize, hnew⟩ := canExpand_iff.1 hexp
  exact Nat.lt_of_le_of_lt (unvisited_le_of_subset h)
    (unvisited_insert_lt hsize (Std.HashSet.contains_eq_false_iff_not_mem.2 hnew))

/-- A walk inside a path takes the links that it is given. -/
theorem follow_takes {path : List TypeId} : (links : List Link) → (walk : Walk) →
    walk.Tracks model path → Takes model path links walk (model.follow links walk)
  | [], walk, h => by
      rw [follow]
      exact .nil h
  | .interface ty :: rest, walk, h => by
      rw [follow]
      by_cases hseen : walk.seen.contains ty = true
      · rw [if_pos hseen]
        have first := Takes.interface_seen h (Std.HashSet.contains_iff_mem.1 hseen)
        exact first.append (follow_takes rest walk h)
      · have hnew : ty ∉ walk.seen := mt Std.HashSet.contains_iff_mem.2 hseen
        rw [if_neg hseen]
        by_cases hexp : model.canExpand walk ty = true
        · rw [dif_pos hexp, follow_append]
          have inner := follow_takes (model.links ty)
            { model.meet walk ty with expanded := walk.expanded.insert ty }
            ((h.enter ty).meet fun _ => Std.HashSet.mem_insert.2 (.inl (by simp)))
          have hsubset := inner.expanded_subset
          have first := Takes.interface_expanded h hnew hexp inner
          exact first.append (follow_takes rest _ first.tracks)
        · rw [dif_neg hexp]
          have first := Takes.interface_met h hnew hexp
          exact first.append (follow_takes rest _ first.tracks)
  | .parent ty :: rest, walk, h => by
      rw [follow]
      by_cases hexp : model.canExpand walk ty = true
      · rw [dif_pos hexp, follow_append]
        have inner := follow_takes (model.links ty)
          { walk with expanded := walk.expanded.insert ty } (h.enter ty)
        have hsubset := inner.expanded_subset
        have first := Takes.parent_expanded h hexp inner
        exact first.append (follow_takes rest _ first.tracks)
      · rw [dif_neg hexp]
        have first := Takes.parent_passed h hexp
        exact first.append (follow_takes rest walk h)
termination_by links walk => (unvisited model.types.size walk.expanded, links.length)
decreasing_by
  all_goals simp_wf
  · exact Prod.Lex.right _ (Nat.lt_succ_self _)
  · exact Prod.Lex.left _ _ (unvisited_lt_of_canExpand hexp fun _ hx => hx)
  · exact Prod.Lex.left _ _ (unvisited_lt_of_canExpand hexp hsubset)
  · exact Prod.Lex.right _ (Nat.lt_succ_self _)
  · exact Prod.Lex.left _ _ (unvisited_lt_of_canExpand hexp fun _ hx => hx)
  · exact Prod.Lex.left _ _ (unvisited_lt_of_canExpand hexp hsubset)
  · exact Prod.Lex.right _ (Nat.lt_succ_self _)

end TypeGraph.Model
