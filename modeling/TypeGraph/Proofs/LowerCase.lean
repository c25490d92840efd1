import TypeGraph.Text.Lowercase

/-!
# TypeGraph.Proofs.LowerCase

Lower case of a text, taken apart.  Only the letter `Σ` looks at what stands around
it, and it looks no further than the first character on either side that is not case
ignorable.

* `eq_of_mem_lowerChar` — no character but a star turns into a star, and no other one
  into a separator of namespaces;
* `lowerChars_append_mark` — at one of these, a text falls into two that are lowered
  each for itself;
* `lowerAfter_eq_flatMap` — once each `Σ` has the form that its place gives it, the
  rest goes character by character.
-/

namespace TypeGraph.Text

/-! ## Marks -/

/-- The characters that mean something in the pattern of a package name: a star, and a
separator of namespaces. -/
def isMark (c : Char) : Bool := c == '*' || c == '\\'

section Marks

variable {mark : Char} (hmark : isMark mark = true)
include hmark

theorem isMark_cases : mark = '*' ∨ mark = '\\' := by simpa [isMark] using hmark

/-- A mark has no case. -/
theorem lowerChar_mark : lowerChar mark = [mark] := by
  obtain rfl | rfl := isMark_cases hmark <;> decide

theorem mark_ne_sigma : mark ≠ 'Σ' := by
  obtain rfl | rfl := isMark_cases hmark <;> decide

/-- The case of a sigma is not looked for behind a mark: marks are not ignored. -/
theorem caseIgnorable_mark : caseIgnorableSet.contains mark = false := by
  obtain rfl | rfl := isMark_cases hmark <;> decide +kernel

/-- A mark is not a cased character. -/
theorem cased_mark : casedSet.contains mark = false := by
  obtain rfl | rfl := isMark_cases hmark <;> decide +kernel

/-- An ASCII character that turns into a mark is one. -/
theorem eq_of_toLower_eq_mark {c : Char} (hascii : c.toNat < 0x80) (h : c.toLower = mark) :
    c = mark := by
  have hall : ∀ n < 0x80, isMark (Char.ofNat n).toLower = true →
      Char.ofNat n = (Char.ofNat n).toLower := by decide
  have hc := hall c.toNat hascii
  rw [Char.ofNat_toNat, h] at hc
  exact hc hmark

/-- The lower-case letters of the table all come behind the marks. -/
theorem ofNat_apply_ne_mark {run : CaseRun} (hrun : run ∈ caseRuns) {n : Nat}
    (hcovers : run.covers n = true) : Char.ofNat (run.apply n) ≠ mark := by
  have htable : ∀ run ∈ caseRuns, 0x60 < run.first + run.shift := by decide +kernel
  have hfirst : run.first ≤ n := by
    simp only [CaseRun.covers, Bool.and_eq_true, decide_eq_true_eq] at hcovers
    exact hcovers.1.1
  have hbehind : 0x60 < run.apply n := by
    have hbound := htable run hrun
    rw [CaseRun.apply]
    omega
  have hmarkCode : 0 < mark.toNat ∧ mark.toNat < 0x60 := by
    obtain rfl | rfl := isMark_cases hmark <;> decide
  have hcode : (Char.ofNat (run.apply n)).toNat = run.apply n ∨
      (Char.ofNat (run.apply n)).toNat = 0 := by
    by_cases hvalid : (run.apply n).isValidChar
    · exact .inl (by rw [Char.ofNat, dif_pos hvalid]; rfl)
    · exact .inr (by rw [Char.ofNat, dif_neg hvalid]; rfl)
  intro heq
  rw [heq] at hcode
  omega

/-- What is a mark in lower case was one before. -/
theorem eq_of_mem_lowerChar {c : Char} (h : mark ∈ lowerChar c) : c = mark := by
  rw [lowerChar] at h
  split at h
  · rename_i hascii
    exact eq_of_toLower_eq_mark hmark hascii (List.mem_singleton.1 h).symm
  · split at h
    · obtain rfl | rfl := isMark_cases hmark <;> simp at h
    · split at h
      · rename_i run hfind
        have hcovers := List.find?_some hfind
        have hrun := List.mem_of_find?_eq_some hfind
        exact absurd (List.mem_singleton.1 h).symm (ofNat_apply_ne_mark hmark hrun hcovers)
      · exact (List.mem_singleton.1 h).symm

end Marks

/-- Lower case is never nothing. -/
theorem lowerChar_ne_nil (c : Char) : lowerChar c ≠ [] := by
  rw [lowerChar]
  split
  · exact List.cons_ne_nil _ _
  · split
    · exact List.cons_ne_nil _ _
    · split <;> exact List.cons_ne_nil _ _

/-! ## What a `Σ` sees -/

section Neighbours

variable {c : Char} {cs : List Char}

/-- A character that is ignored is passed. -/
theorem startsCased_cons_of_ignorable (h : caseIgnorableSet.contains c = true) :
    startsCased (c :: cs) = startsCased cs := by
  rw [startsCased, List.dropWhile_cons_of_pos h, startsCased]

/-- The first one that is not ignored decides. -/
theorem startsCased_cons_of_not_ignorable (h : ¬ caseIgnorableSet.contains c = true) :
    startsCased (c :: cs) = casedSet.contains c := by
  rw [startsCased, List.dropWhile_cons_of_neg h]

/-- No `Σ` sees past a mark, and what it sees there has no case. -/
theorem startsCased_append_mark (hmark : isMark c = true) (first rest : List Char) :
    startsCased (first ++ c :: rest) = startsCased first := by
  have hignorable : ¬ caseIgnorableSet.contains c = true := by
    rw [caseIgnorable_mark hmark]
    exact Bool.false_ne_true
  induction first with
  | nil =>
      rw [List.nil_append, startsCased_cons_of_not_ignorable hignorable, cased_mark hmark]
      rfl
  | cons d first ih =>
      rw [List.cons_append]
      by_cases hd : caseIgnorableSet.contains d = true
      · rw [startsCased_cons_of_ignorable hd, startsCased_cons_of_ignorable hd, ih]
      · rw [startsCased_cons_of_not_ignorable hd, startsCased_cons_of_not_ignorable hd]

end Neighbours

/-- A sigma is lowered to one of its two forms. -/
theorem lowerSigma_cases (before after : List Char) :
    lowerSigma before after = 'ς' ∨ lowerSigma before after = 'σ' := by
  rw [lowerSigma]
  split
  · exact .inl rfl
  · exact .inr rfl

/-! ## One character after another -/

/-- Lower case of a character between the text before it (nearest character first)
and the text after it. -/
def lowerAt (before : List Char) (c : Char) (after : List Char) : List Char :=
  if c = 'Σ' then [lowerSigma before after] else lowerChar c

/-- A text is lowered character by character, given what stands before. -/
theorem lowerAfter_cons (before : List Char) (c : Char) (rest : List Char) :
    lowerAfter before (c :: rest) = lowerAt before c rest ++ lowerAfter (c :: before) rest :=
  rfl

/-- What stands around a character is looked at for cased characters only. -/
theorem lowerAt_congr {before before' after after' : List Char} (c : Char)
    (hbefore : startsCased before = startsCased before')
    (hafter : startsCased after = startsCased after') :
    lowerAt before c after = lowerAt before' c after' := by
  rw [lowerAt, lowerAt, lowerSigma, lowerSigma, hbefore, hafter]

/-- A mark stays as it is. -/
theorem lowerAt_mark {c : Char} (hmark : isMark c = true) (before after : List Char) :
    lowerAt before c after = [c] := by
  rw [lowerAt, if_neg (mark_ne_sigma hmark), lowerChar_mark hmark]

/-- Nothing else is lowered to a mark. -/
theorem eq_of_mem_lowerAt {mark : Char} (hmark : isMark mark = true) {before after : List Char}
    {c : Char} (h : mark ∈ lowerAt before c after) : c = mark := by
  rw [lowerAt] at h
  split at h
  · obtain rfl := List.mem_singleton.1 h
    obtain heq | heq := lowerSigma_cases before after <;> rw [heq] at hmark <;> contradiction
  · exact eq_of_mem_lowerChar hmark h

/-- The marks of a text in lower case are those of the text. -/
theorem mem_of_mem_lowerAfter {mark : Char} (hmark : isMark mark = true) {before cs : List Char}
    (h : mark ∈ lowerAfter before cs) : mark ∈ cs := by
  induction cs generalizing before with
  | nil => cases h
  | cons c cs ih =>
      obtain hhead | hrest := List.mem_append.1 (lowerAfter_cons before c cs ▸ h)
      · exact List.mem_cons.2 (.inl (eq_of_mem_lowerAt hmark hhead).symm)
      · exact List.mem_cons_of_mem c (ih hrest)

/-- How long a `Σ` gets does not depend on its place either. -/
theorem length_lowerAt (before : List Char) (c : Char) (after : List Char) :
    (lowerAt before c after).length = (lowerChar c).length := by
  have hsigma : (lowerChar 'Σ').length = 1 := by decide +kernel
  rw [lowerAt]
  split
  · rename_i hc
    rw [hc, hsigma, List.length_singleton]
  · rfl

/-- A text in lower case starts with a mark only if the text does. -/
theorem head?_of_head?_lowerAfter {mark : Char} (hmark : isMark mark = true)
    {before cs : List Char} (h : (lowerAfter before cs).head? = some mark) :
    cs.head? = some mark := by
  cases cs with
  | nil => cases h
  | cons c cs =>
      have hne : lowerAt before c cs ≠ [] := by
        intro hnil
        have hlength := length_lowerAt before c cs
        rw [hnil] at hlength
        exact lowerChar_ne_nil c (List.length_eq_zero_iff.1 hlength.symm)
      obtain ⟨d, ds, hlower⟩ := List.exists_cons_of_ne_nil hne
      rw [lowerAfter_cons, hlower] at h
      have hmem : mark ∈ lowerAt before c cs := by
        rw [hlower, ← Option.some_inj.1 h]
        exact List.mem_cons_self
      rw [eq_of_mem_lowerAt hmark hmem, List.head?_cons]

/-- What stands before a text counts for as much as a `Σ` at its start would see. -/
theorem lowerAfter_congr {before before' : List Char}
    (h : ∀ between, startsCased (between ++ before) = startsCased (between ++ before'))
    (cs : List Char) : lowerAfter before cs = lowerAfter before' cs := by
  induction cs generalizing before before' with
  | nil => rfl
  | cons c cs ih =>
      have hrest : lowerAfter (c :: before) cs = lowerAfter (c :: before') cs := by
        refine ih fun between => ?_
        have hmore := h (between ++ [c])
        rwa [List.append_assoc, List.append_assoc] at hmore
      have hhead : lowerAt before c cs = lowerAt before' c cs := lowerAt_congr c (h []) rfl
      rw [lowerAfter_cons, lowerAfter_cons, hhead, hrest]

/-- What comes after a text may change the `Σ`s in it, but neither its length nor what
it is itself in lower case. -/
theorem exists_lowerAfter_append (before first rest : List Char) :
    ∃ lowered, lowered.length = (lowerAfter before first).length ∧
      lowerAfter before (first ++ rest) =
        lowered ++ lowerAfter (first.reverse ++ before) rest := by
  induction first generalizing before with
  | nil => exact ⟨[], rfl, rfl⟩
  | cons c first ih =>
      obtain ⟨lowered, hlength, heq⟩ := ih (c :: before)
      refine ⟨lowerAt before c (first ++ rest) ++ lowered, ?_, ?_⟩
      · rw [List.length_append, length_lowerAt, hlength, lowerAfter_cons, List.length_append,
          length_lowerAt]
      · rw [List.cons_append, lowerAfter_cons, heq, List.append_assoc, List.reverse_cons,
          List.append_assoc]
        rfl

/-- A mark cuts a text: what stands before it and what stands behind it are lowered
apart. -/
theorem lowerAfter_append_mark {mark : Char} (hmark : isMark mark = true)
    (before first rest : List Char) :
    lowerAfter before (first ++ mark :: rest) =
      lowerAfter before first ++ mark :: lowerChars rest := by
  induction first generalizing before with
  | nil =>
      have hrest : lowerAfter (mark :: before) rest = lowerAfter [] rest :=
        lowerAfter_congr (fun between => by
          rw [startsCased_append_mark hmark, List.append_nil]) rest
      rw [List.nil_append, lowerAfter_cons, lowerAt_mark hmark, hrest]
      rfl
  | cons c first ih =>
      rw [List.cons_append, lowerAfter_cons, lowerAfter_cons, ih, List.append_assoc,
        lowerAt_congr c rfl (startsCased_append_mark hmark first rest)]

/-- At a mark a text falls into two that are lowered each for itself. -/
theorem lowerChars_append_mark {mark : Char} (hmark : isMark mark = true)
    (first rest : List Char) :
    lowerChars (first ++ mark :: rest) = lowerChars first ++ mark :: lowerChars rest :=
  lowerAfter_append_mark hmark [] first rest

/-! ## Giving each `Σ` its form -/

/-- A text that follows `before` (nearest character first) with the lower case of each
`Σ` in its place, and all else as it is. -/
def formSigmas (before : List Char) : List Char → List Char
  | [] => []
  | c :: rest => (if c = 'Σ' then lowerSigma before rest else c) :: formSigmas (c :: before) rest

/-- Both forms of the sigma are in lower case. -/
theorem lowerChar_lowerSigma (before after : List Char) :
    lowerChar (lowerSigma before after) = [lowerSigma before after] := by
  obtain h | h := lowerSigma_cases before after <;> rw [h] <;> decide +kernel

/-- Lowering is choosing the forms of the sigmas, and then going character by
character. -/
theorem lowerAfter_eq_flatMap (before cs : List Char) :
    lowerAfter before cs = (formSigmas before cs).flatMap lowerChar := by
  induction cs generalizing before with
  | nil => rfl
  | cons c cs ih =>
      rw [lowerAfter_cons, formSigmas, List.flatMap_cons, ih, lowerAt]
      split
      · rw [lowerChar_lowerSigma]
      · rfl

/-- Whatever becomes of the first part of a text, the sigmas of the second one are
formed behind it. -/
theorem exists_formSigmas_append (before first rest : List Char) :
    ∃ formed, formSigmas before (first ++ rest) =
      formed ++ formSigmas (first.reverse ++ before) rest := by
  induction first generalizing before with
  | nil => exact ⟨[], rfl⟩
  | cons c first ih =>
      obtain ⟨formed, heq⟩ := ih (c :: before)
      rw [List.cons_append, formSigmas, heq, List.reverse_cons, List.append_assoc]
      exact ⟨_ :: formed, rfl⟩

-- the same word, at the end of a text and before a letter
example : formSigmas [] ['Ο', 'Σ', '*'] = ['Ο', 'ς', '*'] := by decide +kernel
example : formSigmas [] ['Ο', 'Σ', 'Α'] = ['Ο', 'σ', 'Α'] := by decide +kernel

end TypeGraph.Text
