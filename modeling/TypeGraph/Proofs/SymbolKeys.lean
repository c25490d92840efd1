import TypeGraph.Name
import TypeGraph.Proofs.LowerCase

/-!
# TypeGraph.Proofs.SymbolKeys

The key of a name is its normal form.  Spellings that differ in nothing but the case
of ASCII letters or the separators in front share it, and it is its own key:

1. `CaseRun.covers_apply` — no capital letter leads to another one, so a character
   of a text in lower case stays as it is (`lowerChar_of_mem`);
2. `lowerChars_map_toLower` — the case of an ASCII letter is lost, and no `Σ` beside
   it sees the difference;
3. `lowerChars_dropSeparators` — it does not matter whether the separators in front
   are dropped before or after.
-/

namespace TypeGraph

namespace Text

/-! ## Capital letters -/

/-- The letters that are not their own lower case: those of ASCII, `İ` (which is alone
and whose lower case is no single letter) and those of the table. -/
def capitalRuns : List CaseRun := ⟨0x41, 0x5A, 1, 32⟩ :: ⟨0x130, 0x130, 1, 0⟩ :: caseRuns

namespace CaseRun

/-- Whether what a run leads to lies before another run, behind it, or between its
letters. -/
def misses (run other : CaseRun) : Bool :=
  (run.apply run.last).blt other.first || other.last.blt (run.apply run.first) ||
    (other.step == 2 && (run.step == 2 || run.first == run.last) &&
      (run.apply run.first + other.first) % 2 == 1)

variable {run other : CaseRun} {n : Nat}

/-- A run covers every letter in its range whose distance from the first is a multiple
of the step. -/
theorem covers_iff :
    run.covers n = true ↔ (run.first ≤ n ∧ n ≤ run.last) ∧ (n - run.first) % run.step = 0 := by
  simp [covers]

/-- A run does not cover what it is shown to miss. -/
theorem covers_apply_of_misses (h : run.misses other = true)
    (hpositive : 0 ≤ run.first + run.shift) (hcovers : run.covers n = true) :
    other.covers (run.apply n) = false := by
  simp only [misses, Bool.or_eq_true, Bool.and_eq_true, beq_iff_eq, Nat.blt_eq, apply] at h
  rw [covers_iff] at hcovers
  rw [Bool.eq_false_iff, Ne, covers_iff, apply]
  obtain ⟨⟨hfirst, hlast⟩, hstep⟩ := hcovers
  rintro ⟨⟨hfirst', hlast'⟩, hstep'⟩
  obtain (hbefore | hbehind) | ⟨⟨hother, hrun⟩, hodd⟩ := h
  · omega
  · omega
  · -- both go by twos, one along the even numbers and the other along the odd ones
    rw [hother] at hstep'
    obtain hrun | hrun := hrun
    · rw [hrun] at hstep
      omega
    · omega

/-- **Runs**: the lower case of a letter of the table is no capital letter. -/
theorem covers_apply (hrun : run ∈ caseRuns) (hcovers : run.covers n = true)
    (hother : other ∈ capitalRuns) : other.covers (run.apply n) = false := by
  have hpositive : ∀ run ∈ caseRuns, 0 ≤ run.first + run.shift := by decide +kernel
  have hmisses : caseRuns.all (fun run => capitalRuns.all run.misses) = true := by decide +kernel
  have hpair := List.all_eq_true.1 (List.all_eq_true.1 hmisses run hrun) other hother
  exact covers_apply_of_misses hpair (hpositive run hrun) hcovers

end CaseRun

/-! ## Lower case stays -/

/-- Whatever is no capital letter of ASCII stays as it is. -/
theorem toLower_of_not_capital {c : Char} (h : ¬ (0x41 ≤ c.toNat ∧ c.toNat ≤ 0x5A)) :
    c.toLower = c :=
  dif_neg h

/-- A character in no run of capital letters is its own lower case. -/
theorem lowerChar_of_not_covers {c : Char}
    (h : ∀ run ∈ capitalRuns, run.covers c.toNat = false) : lowerChar c = [c] := by
  have hascii : c.toLower = c := by
    refine toLower_of_not_capital fun hletter => ?_
    have hcovers := h ⟨0x41, 0x5A, 1, 32⟩ List.mem_cons_self
    rw [Bool.eq_false_iff, Ne, CaseRun.covers_iff] at hcovers
    exact hcovers ⟨hletter, Nat.mod_one _⟩
  have hdotted : c ≠ 'İ' := by
    rintro rfl
    exact absurd (h ⟨0x130, 0x130, 1, 0⟩ (by simp [capitalRuns])) (by decide)
  have hfind : caseRuns.find? (·.covers c.toNat) = none :=
    List.find?_eq_none.2 fun run hrun => by
      rw [h run (List.mem_cons_of_mem _ (List.mem_cons_of_mem _ hrun))]
      exact Bool.false_ne_true
  rw [lowerChar, hascii, if_neg hdotted, hfind]
  split <;> rfl

/-- The lower case of a character is in lower case. -/
theorem lowerChar_of_mem {c d : Char} (h : d ∈ lowerChar c) : lowerChar d = [d] := by
  rw [lowerChar] at h
  split at h
  · rename_i hascii
    have hall : ∀ n < 0x80, lowerChar (Char.ofNat n).toLower = [(Char.ofNat n).toLower] := by
      decide
    have hc := hall c.toNat hascii
    rw [Char.ofNat_toNat] at hc
    rw [List.mem_singleton.1 h, hc]
  · rename_i hascii
    split at h
    · obtain rfl | hdot := List.mem_cons.1 h
      · rfl
      · obtain rfl := List.mem_singleton.1 hdot
        exact lowerChar_of_not_covers (by decide +kernel)
    · rename_i hdotted
      split at h
      · rename_i run hfind
        obtain rfl := List.mem_singleton.1 h
        have hcovers := List.find?_some hfind
        have hrun := List.mem_of_find?_eq_some hfind
        by_cases hvalid : (run.apply c.toNat).isValidChar
        · have hcode : (Char.ofNat (run.apply c.toNat)).toNat = run.apply c.toNat := by
            rw [Char.ofNat, dif_pos hvalid]
            rfl
          refine lowerChar_of_not_covers fun other hother => ?_
          rw [hcode]
          exact CaseRun.covers_apply hrun hcovers hother
        · rw [Char.ofNat, dif_neg hvalid]
          decide
      · rename_i hfind
        obtain rfl := List.mem_singleton.1 h
        rw [lowerChar, if_neg hascii, if_neg hdotted, hfind]

/-- A character of a text in lower case is its own lower case. -/
theorem lowerChar_of_mem_lowerAfter {before cs : List Char} {d : Char}
    (h : d ∈ lowerAfter before cs) : lowerChar d = [d] := by
  induction cs generalizing before with
  | nil => cases h
  | cons c cs ih =>
      obtain hhead | hrest := List.mem_append.1 (lowerAfter_cons before c cs ▸ h)
      · rw [lowerAt] at hhead
        split at hhead
        · obtain rfl := List.mem_singleton.1 hhead
          exact lowerChar_lowerSigma before cs
        · exact lowerChar_of_mem hhead
      · exact ih hrest

/-- A text whose characters all are their own lower case stays as it is. -/
theorem lowerAfter_of_lower {before cs : List Char} (h : ∀ c ∈ cs, lowerChar c = [c]) :
    lowerAfter before cs = cs := by
  induction cs generalizing before with
  | nil => rfl
  | cons c cs ih =>
      have hc := h c List.mem_cons_self
      have hsigma : c ≠ 'Σ' := by
        rintro rfl
        exact absurd hc (by decide +kernel)
      rw [lowerAfter_cons, lowerAt, if_neg hsigma, hc,
        ih fun d hd => h d (List.mem_cons_of_mem c hd)]
      rfl

/-! ## The case of ASCII letters -/

/-- A property of characters that ASCII letters have in both cases or in none. -/
theorem toLower_congr {α : Type} (view : Char → α)
    (h : ∀ n < 26, view (Char.ofNat (0x41 + n)).toLower = view (Char.ofNat (0x41 + n)))
    (c : Char) : view c.toLower = view c := by
  by_cases hletter : 0x41 ≤ c.toNat ∧ c.toNat ≤ 0x5A
  · have hc := h (c.toNat - 0x41) (by omega)
    rwa [Nat.add_sub_cancel' hletter.1, Char.ofNat_toNat] at hc
  · rw [toLower_of_not_capital hletter]

/-- The lower case of a letter does not depend on its case in ASCII. -/
theorem lowerChar_toLower (c : Char) : lowerChar c.toLower = lowerChar c :=
  toLower_congr lowerChar (by decide) c

/-- A sigma is not a letter of ASCII. -/
theorem toLower_eq_sigma_iff (c : Char) : c.toLower = 'Σ' ↔ c = 'Σ' := by
  have hsigma : (c.toLower == 'Σ') = (c == 'Σ') := toLower_congr (· == 'Σ') (by decide) c
  rw [← beq_iff_eq, hsigma, beq_iff_eq]

/-- No `Σ` looks through an ASCII letter. -/
theorem caseIgnorable_letter {c : Char}
    (h : 0x41 ≤ c.toNat ∧ c.toNat ≤ 0x5A ∨ 0x61 ≤ c.toNat ∧ c.toNat ≤ 0x7A) :
    caseIgnorableSet.contains c = false := by
  have htable : ∀ range ∈ caseIgnorableSet.ranges,
      range.2 < 0x41 ∨ 0x5A < range.1 ∧ range.2 < 0x61 ∨ 0x7A < range.1 := by decide +kernel
  rw [Bool.eq_false_iff, Ne, CharSet.contains_iff]
  rintro ⟨range, hrange, hfirst, hlast⟩
  have hrange := htable range hrange
  omega

/-- Whether a character is ignored does not depend on its case in ASCII. -/
theorem caseIgnorable_toLower (c : Char) :
    caseIgnorableSet.contains c.toLower = caseIgnorableSet.contains c := by
  by_cases hletter : 0x41 ≤ c.toNat ∧ c.toNat ≤ 0x5A
  · have hcode : c.toLower.toNat - c.toNat = 32 := by
      have hall : ∀ n < 0x80, 0x41 ≤ n ∧ n ≤ 0x5A → (Char.ofNat n).toLower.toNat - n = 32 := by
        decide
      have hc := hall c.toNat (by omega) hletter
      rwa [Char.ofNat_toNat] at hc
    rw [caseIgnorable_letter (.inl hletter), caseIgnorable_letter (.inr (by omega))]
  · rw [toLower_of_not_capital hletter]

/-- No `Σ` sees in which case an ASCII letter is. -/
theorem startsCased_map_toLower (cs : List Char) :
    startsCased (cs.map Char.toLower) = startsCased cs := by
  have hcased (c : Char) : casedSet.contains c.toLower = casedSet.contains c :=
    toLower_congr casedSet.contains (by decide +kernel) c
  induction cs with
  | nil => rfl
  | cons c cs ih =>
      rw [List.map_cons]
      by_cases hc : caseIgnorableSet.contains c = true
      · rw [startsCased_cons_of_ignorable ((caseIgnorable_toLower c).trans hc),
          startsCased_cons_of_ignorable hc, ih]
      · rw [startsCased_cons_of_not_ignorable (by rwa [caseIgnorable_toLower]),
          startsCased_cons_of_not_ignorable hc, hcased]

/-- The case of ASCII letters is lost in lower case, whatever stands before them. -/
theorem lowerAfter_map_toLower (before cs : List Char) :
    lowerAfter (before.map Char.toLower) (cs.map Char.toLower) = lowerAfter before cs := by
  induction cs generalizing before with
  | nil => rfl
  | cons c cs ih =>
      have hhead : lowerAt (before.map Char.toLower) c.toLower (cs.map Char.toLower) =
          lowerAt before c cs := by
        rw [lowerAt, lowerAt, lowerSigma, lowerSigma, startsCased_map_toLower,
          startsCased_map_toLower, lowerChar_toLower]
        simp only [toLower_eq_sigma_iff]
      have hrest := ih (c :: before)
      rw [List.map_cons] at hrest
      rw [List.map_cons, lowerAfter_cons, lowerAfter_cons, hhead, hrest]

/-- **Case**: the lower case of a text does not depend on the case of its ASCII
letters. -/
theorem lowerChars_map_toLower (cs : List Char) :
    lowerChars (cs.map Char.toLower) = lowerChars cs :=
  lowerAfter_map_toLower [] cs

end Text

/-! ## Separators in front -/

theorem dropSeparators_cons_separator (cs : List Char) :
    dropSeparators (separator :: cs) = dropSeparators cs := rfl

/-- A name that does not begin with a separator stays as it is. -/
theorem dropSeparators_of_head? {cs : List Char} (h : cs.head? ≠ some separator) :
    dropSeparators cs = cs := by
  cases cs with
  | nil => rfl
  | cons c cs =>
      refine List.dropWhile_cons_of_neg fun hc => h ?_
      rw [eq_of_beq hc, List.head?_cons]

/-- No separator is left in front. -/
theorem head?_dropSeparators (cs : List Char) : (dropSeparators cs).head? ≠ some separator := by
  intro h
  have hfirst := List.head?_dropWhile_not (· == separator) cs
  rw [← dropSeparators, h] at hfirst
  simp at hfirst

/-- Lowering puts no separator in front. -/
theorem head?_lowerChars {cs : List Char} (h : cs.head? ≠ some separator) :
    (Text.lowerChars cs).head? ≠ some separator :=
  mt (Text.head?_of_head?_lowerAfter rfl) h

/-- **Separators**: those in front may be dropped before or after. -/
theorem lowerChars_dropSeparators (cs : List Char) :
    Text.lowerChars (dropSeparators cs) = dropSeparators (Text.lowerChars cs) := by
  induction cs with
  | nil => rfl
  | cons c cs ih =>
      by_cases hc : c = separator
      · subst hc
        have hlower : Text.lowerChars (separator :: cs) = separator :: Text.lowerChars cs :=
          Text.lowerChars_append_mark rfl [] cs
        rw [dropSeparators_cons_separator, hlower, dropSeparators_cons_separator, ih]
      · have hhead : (c :: cs).head? ≠ some separator := by simpa using hc
        rw [dropSeparators_of_head? hhead, dropSeparators_of_head? (head?_lowerChars hhead)]

/-! ## Keys -/

/-- A name in normal form: no separator in front, and every character its own lower
case. -/
structure IsKey (name : String) : Prop where
  unrooted : name.toList.head? ≠ some separator
  lower : ∀ c ∈ name.toList, Text.lowerChar c = [c]

/-- What a name is turned into is a key. -/
theorem isKey_symbolKey (name : String) : IsKey (symbolKey name) where
  unrooted := by
    rw [toList_symbolKey]
    exact head?_lowerChars (head?_dropSeparators name.toList)
  lower c hc := by
    rw [toList_symbolKey] at hc
    exact Text.lowerChar_of_mem_lowerAfter hc

/-- A key is its own key. -/
theorem IsKey.symbolKey_eq {name : String} (h : IsKey name) : symbolKey name = name := by
  have hlower : Text.lowerChars name.toList = name.toList := Text.lowerAfter_of_lower h.lower
  rw [symbolKey, dropSeparators_of_head? h.unrooted, hlower, String.ofList_toList]

/-- Separators in front do not matter, however many there are. -/
theorem symbolKey_replicate_append (count : Nat) (name : String) :
    symbolKey (String.ofList (List.replicate count separator) ++ name) = symbolKey name := by
  have hdrop : dropSeparators (List.replicate count separator ++ name.toList) =
      dropSeparators name.toList := by
    refine List.dropWhile_append_of_pos fun c hc => ?_
    rw [List.eq_of_mem_replicate hc, beq_self_eq_true]
  rw [symbolKey, String.toList_append, String.toList_ofList, hdrop, symbolKey]

/-- The case of ASCII letters does not matter to a key. -/
theorem symbolKey_asciiLowercase (name : String) :
    symbolKey (Text.asciiLowercase name) = symbolKey name := by
  rw [symbolKey, symbolKey, Text.toList_asciiLowercase, lowerChars_dropSeparators,
    Text.lowerChars_map_toLower, ← lowerChars_dropSeparators]

/-- **Keys are normal forms**: the key of a key is the key; separators in front of a
name, however many, and the case of its ASCII letters do not change its key; and the
keys are just the names in normal form. -/
theorem symbolKey_normalizes (name : String) :
    symbolKey (symbolKey name) = symbolKey name ∧
      (∀ count, symbolKey (String.ofList (List.replicate count separator) ++ name) =
        symbolKey name) ∧
      (∀ other, Text.asciiLowercase name = Text.asciiLowercase other →
        symbolKey name = symbolKey other) ∧
      (symbolKey name = name ↔ IsKey name) := by
  refine ⟨(isKey_symbolKey name).symbolKey_eq, fun count => symbolKey_replicate_append count name,
    fun other h => ?_, fun h => ?_, IsKey.symbolKey_eq⟩
  · rw [← symbolKey_asciiLowercase, h, symbolKey_asciiLowercase]
  · rw [← h]
    exact isKey_symbolKey name

/-- A word that ends in `Σ` before a separator, and one with an `İ`, in two
spellings. -/
theorem symbolKey_normalizes_of_spellings :
    Text.asciiLowercase "\\ΟΔΟΣ\\İndex" = Text.asciiLowercase "\\ΟΔΟΣ\\İNDEX" ∧
      symbolKey "\\ΟΔΟΣ\\İndex" = symbolKey "\\ΟΔΟΣ\\İNDEX" := by
  have hascii : Text.asciiLowercase "\\ΟΔΟΣ\\İndex" = Text.asciiLowercase "\\ΟΔΟΣ\\İNDEX" := by
    decide +kernel
  exact ⟨hascii, (symbolKey_normalizes "\\ΟΔΟΣ\\İndex").2.2.1 "\\ΟΔΟΣ\\İNDEX" hascii⟩

end TypeGraph
