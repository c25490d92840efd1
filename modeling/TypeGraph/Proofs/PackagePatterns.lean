import TypeGraph.Proofs.Glob
import TypeGraph.Proofs.LowerCase

/-!
# TypeGraph.Proofs.PackagePatterns

Patterns of package names in any case.  Pattern and name are lowered before they are
compared, each as a whole, and a star has no case.  So a `Σ` next to a star may be
taken for the end of a word in the pattern and not in the name, or the other way round.

* `isInstance_lowerChars` — nothing else is in the way: where each `Σ` of the pattern
  has the same form in the name, a match outlives lower case;
* `isInstance_lowerChars_iff_isSteady` — the patterns that never lose a match are those
  in which no `Σ` hangs on a star.  For the others there is a text to put in the place
  of the stars by which forms are lost, and none won (`count_lowerAfter_fillStars`);
* `Filter.rejects_instances_iff_isSteady` — what that means for a filter of packages;
* `Filter.ofPatterns_hidesBelow` — the pattern of a namespace ends in a separator and a star, on
  which no `Σ` hangs, and hides what is below the namespace.
-/

namespace TypeGraph.Text

variable {pattern text : List Char}

/-! ## Lower case of an instance -/

theorem isMark_star : isMark '*' = true := by decide

theorem isMark_separator : isMark '\\' = true := by decide

/-- Only a star is lowered to a star. -/
theorem star_not_mem_lowerChar {c : Char} (hc : c ≠ '*') : '*' ∉ lowerChar c :=
  fun hmem => hc (eq_of_mem_lowerChar isMark_star hmem)

/-- Character by character, lower case keeps an instance one. -/
theorem IsInstance.flatMap_lowerChar (h : IsInstance pattern text) :
    IsInstance (pattern.flatMap lowerChar) (text.flatMap lowerChar) := by
  induction h with
  | nil => exact .nil
  | char hc _ ih =>
      rw [List.flatMap_cons, List.flatMap_cons]
      exact (literal_append_iff (star_not_mem_lowerChar hc)).2 ih
  | star filling _ ih =>
      rw [List.flatMap_cons, List.flatMap_append, lowerChar_mark isMark_star]
      exact .star _ ih

/-- A match outlives lower case if each `Σ` has the same form in pattern and text. -/
theorem isInstance_lowerChars (h : IsInstance (formSigmas [] pattern) (formSigmas [] text)) :
    IsInstance (lowerChars pattern) (lowerChars text) := by
  rw [lowerChars, lowerChars, lowerAfter_eq_flatMap, lowerAfter_eq_flatMap]
  exact h.flatMap_lowerChar

/-- But for stars, an instance has all the characters of its pattern. -/
theorem IsInstance.count_le {c : Char} (hc : c ≠ '*') (h : IsInstance pattern text) :
    pattern.count c ≤ text.count c := by
  induction h with
  | nil => exact Nat.le_refl _
  | char _ _ ih =>
      rw [List.count_cons, List.count_cons]
      exact Nat.add_le_add_right ih _
  | star filling _ ih =>
      rw [List.count_cons_of_ne hc.symm, List.count_append]
      exact Nat.le_add_left_of_le ih

/-! ## Sigmas that hang on a star -/

/-- Whether the first character that is not case ignorable is a star. -/
def meetsStar (cs : List Char) : Bool :=
  (cs.dropWhile caseIgnorableSet.contains).head? == some '*'

/-- One of the two sides of a character in a text. -/
inductive Side where
  | before
  | after
  deriving DecidableEq, Repr

/-- Whether the form of a `Σ` between two texts (the one before it nearest character
first) depends on what the star stands for that it meets on one side.  It is at the end
of a word if there is case before it and none after it. -/
def hangsOn (before after : List Char) : Side → Bool
  | .before => meetsStar before && !startsCased after
  | .after => startsCased before && meetsStar after

/-- How many `Σ`s of a text that follows `before` hang on a star on one side. -/
def hanging (side : Side) (before : List Char) : List Char → Nat
  | [] => 0
  | c :: rest =>
    (if c = 'Σ' then (hangsOn before rest side).toNat else 0) + hanging side (c :: before) rest

/-- Whether every `Σ` of a pattern has one form, whatever the stars stand for. -/
def isSteady (pattern : List Char) : Bool :=
  hanging .before [] pattern == 0 && hanging .after [] pattern == 0

/-- A pattern is steady if no sigma in it hangs on what a star stands for, on either
side. -/
theorem isSteady_iff : isSteady pattern = true ↔ ∀ side, hanging side [] pattern = 0 := by
  rw [isSteady, Bool.and_eq_true, beq_iff_eq, beq_iff_eq]
  constructor
  · rintro ⟨hbefore, hafter⟩ side
    cases side with
    | before => exact hbefore
    | after => exact hafter
  · exact fun h => ⟨h .before, h .after⟩

/-- Without a sigma nothing hangs. -/
theorem hanging_eq_zero (side : Side) (before : List Char) (h : 'Σ' ∉ pattern) :
    hanging side before pattern = 0 := by
  induction pattern generalizing before with
  | nil => rfl
  | cons c pattern ih =>
      have hc : c ≠ 'Σ' := fun heq => h (heq ▸ List.mem_cons_self)
      rw [hanging, if_neg hc, ih (c :: before) (mt (List.mem_cons_of_mem c) h)]

/-- Other letters have one form each. -/
theorem isSteady_of_not_mem (h : 'Σ' ∉ pattern) : isSteady pattern = true :=
  isSteady_iff.2 fun side => hanging_eq_zero side [] h

/-! ## What a `Σ` sees of an instance -/

/-- The text shows case where the pattern does, and where the pattern shows a star it
shows case if `starCased` says so. -/
def Reveals (starCased : Bool) (pattern text : List Char) : Prop :=
  startsCased text = (startsCased pattern || meetsStar pattern && starCased)

/-- A character that is ignored is passed. -/
theorem meetsStar_cons_of_ignorable {c : Char} (h : caseIgnorableSet.contains c = true) :
    meetsStar (c :: pattern) = meetsStar pattern := by
  rw [meetsStar, List.dropWhile_cons_of_pos h, meetsStar]

/-- The first one that is not ignored decides whether a star is met. -/
theorem meetsStar_cons_of_not_ignorable {c : Char} (h : ¬ caseIgnorableSet.contains c = true) :
    meetsStar (c :: pattern) = (c == '*') := by
  rw [meetsStar, List.dropWhile_cons_of_neg h]
  rfl

theorem star_not_ignorable : ¬ caseIgnorableSet.contains '*' = true := by
  rw [caseIgnorable_mark isMark_star]
  exact Bool.false_ne_true

/-- A star is not a cased character itself. -/
theorem startsCased_star : startsCased ('*' :: pattern) = false := by
  rw [startsCased_cons_of_not_ignorable star_not_ignorable, cased_mark isMark_star]

theorem meetsStar_star : meetsStar ('*' :: pattern) = true :=
  meetsStar_cons_of_not_ignorable star_not_ignorable

/-- A star has no case. -/
theorem startsCased_of_meetsStar (h : meetsStar pattern = true) : startsCased pattern = false := by
  rw [meetsStar, beq_iff_eq, List.head?_eq_some_iff] at h
  obtain ⟨rest, hrest⟩ := h
  rw [startsCased, hrest]
  exact cased_mark isMark_star

namespace Reveals

variable {starCased : Bool}

theorem nil (starCased : Bool) : Reveals starCased [] [] := rfl

/-- Characters that stand for themselves do not matter. -/
theorem cons {c : Char} (hc : c ≠ '*') (h : Reveals starCased pattern text) :
    Reveals starCased (c :: pattern) (c :: text) := by
  unfold Reveals at h ⊢
  by_cases hignorable : caseIgnorableSet.contains c = true
  · rw [startsCased_cons_of_ignorable hignorable, startsCased_cons_of_ignorable hignorable,
      meetsStar_cons_of_ignorable hignorable, h]
  · rw [startsCased_cons_of_not_ignorable hignorable,
      startsCased_cons_of_not_ignorable hignorable,
      meetsStar_cons_of_not_ignorable hignorable, beq_eq_false_iff_ne.2 hc, Bool.false_and,
      Bool.or_false]

/-- What a star stands for begins with a cased character, or it does not. -/
theorem star (h : startsCased text = starCased) : Reveals starCased ('*' :: pattern) text := by
  rw [Reveals, startsCased_star, meetsStar_star, h]
  rfl

end Reveals

/-- Every instance tells what its first star stands for. -/
theorem IsInstance.reveals (h : IsInstance pattern text) :
    ∃ starCased, Reveals starCased pattern text := by
  induction h with
  | nil => exact ⟨false, .nil false⟩
  | char hc _ ih =>
      obtain ⟨starCased, hreveals⟩ := ih
      exact ⟨starCased, hreveals.cons hc⟩
  | star filling _ _ => exact ⟨_, .star rfl⟩

/-! ## Steady patterns -/

section Steady

variable {before before' after after' : List Char} {caseBefore caseAfter : Bool}

/-- A `Σ` that hangs on no star has the same form in an instance. -/
theorem lowerSigma_eq (hbefore : Reveals caseBefore before before')
    (hafter : Reveals caseAfter after after')
    (hsteady : ∀ side, hangsOn before after side = false) :
    lowerSigma before' after' = lowerSigma before after := by
  have hleft : (meetsStar before && !startsCased after) = false := hsteady .before
  have hright : (startsCased before && meetsStar after) = false := hsteady .after
  rw [lowerSigma, lowerSigma, hbefore, hafter]
  cases hb : meetsStar before with
  | true =>
      -- there is case after it, so it does not matter what is before it
      have hcased : startsCased after = true := by simpa [hb] using hleft
      simp [hcased]
  | false =>
      cases ha : meetsStar after with
      | true =>
          have huncased : startsCased before = false := by simpa [ha] using hright
          simp [huncased]
      | false => simp

/-- Where no `Σ` hangs on a star, an instance remains one when each gets its form. -/
theorem IsInstance.formSigmas (h : IsInstance pattern text)
    (hbefore : ∃ starCased, Reveals starCased before before')
    (hsteady : ∀ side, hanging side before pattern = 0) :
    IsInstance (formSigmas before pattern) (formSigmas before' text) := by
  induction h generalizing before before' with
  | nil => exact .nil
  | @char c pattern text hc h ih =>
      obtain ⟨caseBefore, hbefore⟩ := hbefore
      obtain ⟨caseAfter, hafter⟩ := h.reveals
      have hrest := ih ⟨caseBefore, hbefore.cons hc⟩ fun side =>
        (Nat.add_eq_zero_iff.1 (hsteady side)).2
      rw [Text.formSigmas, Text.formSigmas]
      split
      · rename_i hsigma
        have hform : lowerSigma before' text = lowerSigma before pattern := by
          refine lowerSigma_eq hbefore hafter fun side => ?_
          have hhead := (Nat.add_eq_zero_iff.1 (hsteady side)).1
          rwa [if_pos hsigma, Bool.toNat_eq_zero] at hhead
        have hne : lowerSigma before pattern ≠ '*' := by
          obtain heq | heq := lowerSigma_cases before pattern <;> rw [heq] <;> decide
        rw [hform]
        exact .char hne hrest
      · exact .char hc hrest
  | @star pattern text filling h ih =>
      obtain ⟨formed, hformed⟩ := exists_formSigmas_append before' filling text
      rw [hformed]
      refine .star formed (ih ⟨_, .star rfl⟩ fun side => ?_)
      exact (Nat.add_eq_zero_iff.1 (hsteady side)).2

end Steady

/-! ## Losing a match -/

/-- What takes a form away from each `Σ` that hangs on a star on one side: that side of
the text shows case, and the other one does not. -/
def filler : Side → List Char
  | .before => [' ', 'A']
  | .after => ['A', ' ']

/-- The form that is taken away. -/
def lostForm : Side → Char
  | .before => 'σ'
  | .after => 'ς'

/-- The instance of a pattern that has the filler in the place of each star. -/
def fillStars (side : Side) (pattern : List Char) : List Char :=
  pattern.flatMap fun c => if c = '*' then filler side else [c]

/-- Stars that are filled make an instance. -/
theorem isInstance_fillStars (side : Side) (pattern : List Char) :
    IsInstance pattern (fillStars side pattern) := by
  induction pattern with
  | nil => exact .nil
  | cons c pattern ih =>
      rw [fillStars, List.flatMap_cons]
      split
      · rename_i hc
        rw [hc]
        exact .star _ ih
      · rename_i hc
        exact .char hc ih

/-- A filler begins with a cased letter on the one side only. -/
theorem startsCased_filler (side : Side) :
    startsCased (filler side ++ text) = decide (side = .after) := by
  cases side
  all_goals
    rw [filler, List.cons_append, startsCased_cons_of_not_ignorable (by decide +kernel)]
    decide +kernel

/-- It ends with a cased letter on the other side only. -/
theorem startsCased_reverse_filler (side : Side) :
    startsCased ((filler side).reverse ++ text) = decide (side = .before) := by
  cases side
  all_goals
    rw [filler, List.reverse_cons, List.reverse_singleton, List.singleton_append,
      List.cons_append, startsCased_cons_of_not_ignorable (by decide +kernel)]
    decide +kernel

/-- The filled pattern is an instance in which stars stand for the filler. -/
theorem reveals_fillStars (side : Side) (pattern : List Char) :
    Reveals (side = .after) pattern (fillStars side pattern) := by
  induction pattern with
  | nil => exact .nil _
  | cons c pattern ih =>
      rw [fillStars, List.flatMap_cons]
      split
      · rename_i hc
        rw [hc]
        exact .star (startsCased_filler side)
      · rename_i hc
        exact ih.cons hc

section Lost

variable {side : Side} {before before' after after' : List Char}

/-- Whether a sigma takes the form that gets lost, what stands around it says. -/
theorem count_lowerSigma (side : Side) (before after : List Char) :
    [lowerSigma before after].count (lostForm side) =
      (if side = .after then startsCased before && !startsCased after
        else !(startsCased before && !startsCased after)).toNat := by
  rw [lowerSigma]
  cases startsCased before && !startsCased after <;> cases side <;> rfl

/-- The filler takes the form away from a `Σ` if it hangs on a star on that side, and
gives it to none. -/
theorem count_lowerAt (hbefore : Reveals (side = .before) before before')
    (hafter : Reveals (side = .after) after after') (c : Char) :
    (lowerAt before' c after').count (lostForm side) +
        (if c = 'Σ' then (hangsOn before after side).toNat else 0) =
      (lowerAt before c after).count (lostForm side) := by
  rw [lowerAt, lowerAt]
  split
  · rw [count_lowerSigma, count_lowerSigma, hbefore, hafter]
    cases side with
    | before =>
        cases hb : meetsStar before with
        | false => simp [hangsOn, hb]
        | true =>
            have huncased := startsCased_of_meetsStar hb
            cases ha : startsCased after <;> simp [hangsOn, hb, ha, huncased]
    | after =>
        cases ha : meetsStar after with
        | false => simp [hangsOn, ha]
        | true =>
            have huncased := startsCased_of_meetsStar ha
            cases hb : startsCased before <;> simp [hangsOn, ha, hb, huncased]
  · rfl

/-- The filler has no `Σ`, and none of its characters becomes one of the forms. -/
theorem count_lowerAfter_filler (side : Side) (before text : List Char) :
    (lowerAfter before (filler side ++ text)).count (lostForm side) =
      (lowerAfter ((filler side).reverse ++ before) text).count (lostForm side) := by
  have hlower : lowerAfter before (filler side ++ text) =
      (filler side).flatMap lowerChar ++ lowerAfter ((filler side).reverse ++ before) text := by
    cases side <;> rfl
  have hnone : ((filler side).flatMap lowerChar).count (lostForm side) = 0 := by
    cases side <;> decide
  rw [hlower, List.count_append, hnone, Nat.zero_add]

/-- With the filler in the place of each star, as many forms are lost as there are
`Σ`s that hang on a star on that side. -/
theorem count_lowerAfter_fillStars (hbefore : Reveals (side = .before) before before')
    (pattern : List Char) :
    (lowerAfter before' (fillStars side pattern)).count (lostForm side) +
        hanging side before pattern =
      (lowerAfter before pattern).count (lostForm side) := by
  induction pattern generalizing before before' with
  | nil => rfl
  | cons c pattern ih =>
      rw [fillStars, List.flatMap_cons, hanging, lowerAfter_cons, List.count_append]
      split
      · rename_i hc
        have hbehind : Reveals (side = .before) ('*' :: before)
            ((filler side).reverse ++ before') := .star (startsCased_reverse_filler side)
        have hrest := ih hbehind
        have hstar : [c].count (lostForm side) = 0 := by rw [hc]; cases side <;> decide
        have hmark : isMark c = true := hc ▸ isMark_star
        rw [count_lowerAfter_filler, lowerAt_mark hmark, hstar, if_neg (mark_ne_sigma hmark), hc,
          Nat.zero_add, Nat.zero_add]
        exact hrest
      · rename_i hc
        have hhead := count_lowerAt hbefore (reveals_fillStars side pattern) c
        have hrest := ih (hbefore.cons hc)
        rw [List.singleton_append, lowerAfter_cons, List.count_append, ← hhead, ← hrest]
        exact Nat.add_add_add_comm _ _ _ _

end Lost

/-- **Lower case and patterns**: a pattern loses none of its instances in lower case
exactly if no `Σ` of it hangs on a star. -/
theorem isInstance_lowerChars_iff_isSteady :
    (∀ text, IsInstance pattern text → IsInstance (lowerChars pattern) (lowerChars text)) ↔
      isSteady pattern = true := by
  rw [isSteady_iff]
  constructor
  · intro h side
    have hform : lostForm side ≠ '*' := by cases side <;> decide
    have hle := (h _ (isInstance_fillStars side pattern)).count_le hform
    have hlost := count_lowerAfter_fillStars (.nil (side = .before)) pattern
    rw [lowerChars, lowerChars] at hle
    omega
  · intro h text hinstance
    exact isInstance_lowerChars (hinstance.formSigmas ⟨false, .nil false⟩ h)

-- a `Σ` that a separator keeps apart from the star
example : isSteady ['Ο', 'Σ', '\\', '*'] = true := by decide +kernel
example : isSteady ['Ο', 'Σ', '*'] = false := by decide +kernel

/-! ## What begins with a literal -/

/-- A star at the end of a pattern leaves a beginning to compare. -/
theorem IsInstance.literal_star_iff {literal : List Char} (hliteral : '*' ∉ literal) :
    IsInstance (literal ++ ['*']) text ↔ literal <+: text := by
  rw [literal_iff hliteral]
  constructor
  · rintro ⟨tail, rfl, -⟩
    exact List.prefix_append literal tail
  · rintro ⟨tail, rfl⟩
    exact ⟨tail, rfl, star_iff.2 ⟨tail, [], (List.append_nil tail).symm, .nil⟩⟩

/-- A text in lower case goes on with a separator only where the text does, whatever a
`Σ` at the end of its first part is. -/
theorem head?_of_prefix_lowerChars {first more : List Char}
    (h : lowerChars first ++ ['\\'] <+: lowerChars (first ++ more)) :
    more.head? = some '\\' := by
  obtain ⟨tail, htail⟩ := h
  obtain ⟨lowered, hlength, happend⟩ := exists_lowerAfter_append [] first more
  rw [lowerChars, lowerChars, happend, List.append_assoc] at htail
  have hmore := (List.append_inj htail hlength.symm).2
  exact head?_of_head?_lowerAfter isMark_separator (congrArg List.head? hmore).symm

end TypeGraph.Text

namespace TypeGraph.Filter

variable {node : TypeNode} {package : Package}

/-- A filter for one pattern compares it with the name in lower case. -/
theorem rejects_iff (pattern : String) :
    (ofPatterns [pattern]).accepts node (some package) = false ↔
      Text.IsInstance (Text.lowerChars pattern.toList) (Text.lowerChars package.name.toList) := by
  simp [ofPatterns, accepts, anyMatches, Text.toList_lowercase, Text.globMatches_iff]

/-- A package may have any name, so a filter hides all instances of a pattern if the
pattern loses none of them in lower case. -/
theorem rejects_every_instance_iff (pattern : String) :
    (∀ (node : TypeNode) (package : Package),
      Text.IsInstance pattern.toList package.name.toList →
        (ofPatterns [pattern]).accepts node (some package) = false) ↔
      Text.isSteady pattern.toList = true := by
  rw [← Text.isInstance_lowerChars_iff_isSteady]
  constructor
  · intro h text hinstance
    have hrejects := h (.bare ⟨0⟩ 0 "" .classType) ⟨⟨0⟩, 0, String.ofList text, [], []⟩
      (by rwa [String.toList_ofList])
    rwa [rejects_iff, String.toList_ofList] at hrejects
  · intro h node package hinstance
    exact (rejects_iff pattern).2 (h _ hinstance)

/-- **Instances in any case**: a filter hides the types of a package whose name is an
instance of the pattern with each `Σ` in the same form.  It does so for every instance
exactly if no `Σ` of the pattern hangs on a star, so always if there is no `Σ` in it. -/
theorem rejects_instances_iff_isSteady (pattern : String) :
    (∀ (node : TypeNode) (package : Package),
      Text.IsInstance (Text.formSigmas [] pattern.toList)
          (Text.formSigmas [] package.name.toList) →
        (ofPatterns [pattern]).accepts node (some package) = false) ∧
    ((∀ (node : TypeNode) (package : Package),
      Text.IsInstance pattern.toList package.name.toList →
        (ofPatterns [pattern]).accepts node (some package) = false) ↔
      Text.isSteady pattern.toList = true) ∧
    ('Σ' ∉ pattern.toList → Text.isSteady pattern.toList = true) :=
  ⟨fun _ _ h => (rejects_iff pattern).2 (Text.isInstance_lowerChars h),
    rejects_every_instance_iff pattern, Text.isSteady_of_not_mem⟩

/-- Three patterns: one without `Σ`, one where it stands before a separator, and one
where it stands before a star, which here stands for the end of the word. -/
theorem rejects_instances_of_words :
    let node : TypeNode := .bare ⟨0⟩ 0 "Map" .classType
    let street : Package := ⟨⟨0⟩, 0, "ΟΣ\\ΣΑ", [], []⟩
    let word : Package := ⟨⟨0⟩, 0, "ΟΣ ΣΑ", [], []⟩
    'Σ' ∉ "Vendor\\*".toList ∧ Text.isSteady "Vendor\\*".toList = true ∧
      Text.isSteady "ΟΣ\\*".toList = true ∧
      Text.IsInstance "ΟΣ\\*".toList street.name.toList ∧
      (ofPatterns ["ΟΣ\\*"]).accepts node (some street) = false ∧
      Text.isSteady "ΟΣ*".toList = false ∧
      Text.IsInstance (Text.formSigmas [] "ΟΣ*".toList) (Text.formSigmas [] word.name.toList) ∧
      (ofPatterns ["ΟΣ*"]).accepts node (some word) = false := by
  intro node street word
  have habsent : 'Σ' ∉ "Vendor\\*".toList := by decide
  have hsteady : Text.isSteady "ΟΣ\\*".toList = true := by decide +kernel
  have hstreet : Text.IsInstance "ΟΣ\\*".toList "ΟΣ\\ΣΑ".toList :=
    .char (by decide) (.char (by decide) (.char (by decide) (.star ['Σ', 'Α'] .nil)))
  have hforms : Text.formSigmas [] "ΟΣ*".toList = ['Ο', 'ς', '*'] ∧
      Text.formSigmas [] word.name.toList = ['Ο', 'ς', ' ', 'σ', 'Α'] := by decide +kernel
  have hword : Text.IsInstance (Text.formSigmas [] "ΟΣ*".toList)
      (Text.formSigmas [] word.name.toList) := by
    rw [hforms.1, hforms.2]
    exact .char (by decide) (.char (by decide) (.star [' ', 'σ', 'Α'] .nil))
  exact ⟨habsent, (rejects_instances_iff_isSteady "Vendor\\*").2.2 habsent, hsteady, hstreet,
    (rejects_instances_iff_isSteady "ΟΣ\\*").2.1.2 hsteady node street hstreet,
    by decide +kernel, hword, (rejects_instances_iff_isSteady "ΟΣ*").1 node word hword⟩

/-- In the pattern the `Σ` is at the end of a word, in the name it is inside one. -/
theorem accepts_instance_with_letter_after_sigma :
    Text.IsInstance "ΑΣ*".toList "ΑΣΒ".toList ∧
      (ofPatterns ["ΑΣ*"]).accepts (.bare ⟨0⟩ 0 "Map" .classType)
        (some ⟨⟨0⟩, 0, "ΑΣΒ", [], []⟩) = true := by
  have hlower : Text.lowerChars "ΑΣ*".toList = ['α', 'ς', '*'] ∧
      Text.lowerChars "ΑΣΒ".toList = ['α', 'σ', 'β'] := by decide +kernel
  refine ⟨.char (by decide) (.char (by decide) (.star ['Β'] .nil)), ?_⟩
  rw [← Bool.not_eq_false, rejects_iff, hlower.1, hlower.2,
    Text.IsInstance.cons_iff (by decide)]
  rintro ⟨tail, htail, h⟩
  obtain rfl := (List.cons.inj htail).2
  rw [Text.IsInstance.cons_iff (by decide)] at h
  obtain ⟨rest, hrest, -⟩ := h
  exact absurd (List.cons.inj hrest).1 (by decide)

/-! ## The pattern of a namespace -/

/-- The filter hides what is below a namespace, whatever the case of its name, and
neither the namespace itself nor what is beside it. -/
structure HidesBelow (filter : Filter) (namespaceName : String) : Prop where
  /-- The packages that are hidden begin with the namespace and a separator. -/
  hidden_iff : ∀ (node : TypeNode) (package : Package),
    filter.accepts node (some package) = false ↔
      Text.lowerChars namespaceName.toList ++ ['\\'] <+: Text.lowerChars package.name.toList
  below : ∀ (node : TypeNode) (package : Package) (spelling name : String),
    Text.lowercase spelling = Text.lowercase namespaceName →
      package.name = spelling ++ "\\" ++ name → filter.accepts node (some package) = false
  itself : ∀ (node : TypeNode) (package : Package),
    Text.lowercase package.name = Text.lowercase namespaceName →
      filter.accepts node (some package) = true
  /-- A name that goes on in another way is not hidden. -/
  beside : ∀ (node : TypeNode) (package : Package) (spelling more : String),
    Text.lowercase spelling = Text.lowercase namespaceName →
      package.name = spelling ++ more → more.toList.head? ≠ some '\\' →
        filter.accepts node (some package) = true

section Namespaces

variable {namespaceName : String} (hstar : '*' ∉ namespaceName.toList)
include hstar

/-- The separator comes between the name and the star, so the name is lowered as it is
where it stands alone. -/
theorem rejects_namespace_iff :
    (ofPatterns [namespaceName ++ "\\*"]).accepts node (some package) = false ↔
      Text.lowerChars namespaceName.toList ++ ['\\'] <+:
        Text.lowerChars package.name.toList := by
  have hpattern : (namespaceName ++ "\\*").toList = namespaceName.toList ++ '\\' :: ['*'] := by
    rw [String.toList_append]
    rfl
  have hend : Text.lowerChars ['*'] = ['*'] := by decide
  have hliteral : '*' ∉ Text.lowerChars namespaceName.toList ++ ['\\'] := by
    intro hmem
    obtain hname | hend := List.mem_append.1 hmem
    · exact hstar (Text.mem_of_mem_lowerAfter Text.isMark_star hname)
    · exact absurd hend (by decide)
  rw [rejects_iff, hpattern, Text.lowerChars_append_mark Text.isMark_separator, hend,
    List.append_cons, Text.IsInstance.literal_star_iff hliteral]

/-- A `Σ` at the end of the name may have another form where the package's name goes on,
but there is no separator behind it. -/
theorem accepts_beside_namespace {spelling more : String}
    (hspelling : Text.lowercase spelling = Text.lowercase namespaceName)
    (hname : package.name = spelling ++ more) (hmore : more.toList.head? ≠ some '\\') :
    (ofPatterns [namespaceName ++ "\\*"]).accepts node (some package) = true := by
  rw [← Bool.not_eq_false, rejects_namespace_iff hstar, hname, String.toList_append,
    ← Text.toList_lowercase, ← hspelling, Text.toList_lowercase]
  exact mt Text.head?_of_prefix_lowerChars hmore

end Namespaces

/-- **Namespaces**: a namespace followed by a separator and a star hides the packages
that begin with the namespace and a separator in lower case, and no others. -/
theorem ofPatterns_hidesBelow (namespaceName : String) (hstar : '*' ∉ namespaceName.toList) :
    (ofPatterns [namespaceName ++ "\\*"]).HidesBelow namespaceName where
  hidden_iff _ _ := rejects_namespace_iff hstar
  below node package spelling name hspelling hname := by
    have hcut := Text.lowerChars_append_mark Text.isMark_separator spelling.toList name.toList
    rw [rejects_namespace_iff hstar, hname, String.toList_append, String.toList_append,
      List.append_assoc, ← Text.toList_lowercase, ← hspelling, Text.toList_lowercase]
    exact ⟨_, (List.append_assoc _ _ _).trans hcut.symm⟩
  itself node package hname := by
    have hwhole : package.name = package.name ++ "" := String.append_empty.symm
    exact accepts_beside_namespace hstar hname hwhole nofun
  beside _ _ _ _ hspelling hname hmore := accepts_beside_namespace hstar hspelling hname hmore

/-- A namespace whose last letter has two small forms, and another way to spell it. -/
theorem ofPatterns_hidesBelow_of_word :
    '*' ∉ "ΟΣ".toList ∧ Text.lowercase "Ος" = Text.lowercase "ΟΣ" ∧
      (ofPatterns ["ΟΣ\\*"]).HidesBelow "ΟΣ" :=
  ⟨by decide, by decide +kernel, ofPatterns_hidesBelow "ΟΣ" (by decide)⟩

end TypeGraph.Filter
