import TypeGraph.Filter

/-!
# TypeGraph.Proofs.Glob

Which texts a pattern matches: those that come of putting some text, maybe the
empty one, in the place of each star (`Text.IsInstance`).

A comparison tries no star again but the last one.  That loses nothing, because
the characters between two stars are found at their first place behind the first
star if they are found at all, and the second star may take whatever the first one
could have taken (`IsInstance.exchange`).

* `Scan.Faithful` — the answer can still be read off what is left; a step keeps
  that (`Faithful.step`), so a run ends with the right answer (`Faithful.run_iff`);
* `globMatches_iff` — a pattern matches its instances and nothing else;
* `Filter.rejects_iff_isInstance` — what that means for a filter of packages.
-/

namespace TypeGraph.Text

/-! ## Instances -/

/-- The text comes of the pattern by putting some text in the place of each
star. -/
inductive IsInstance : List Char → List Char → Prop where
  | nil : IsInstance [] []
  | char {c : Char} {pattern text : List Char} (hc : c ≠ '*') (h : IsInstance pattern text) :
      IsInstance (c :: pattern) (c :: text)
  | star {pattern text : List Char} (filling : List Char) (h : IsInstance pattern text) :
      IsInstance ('*' :: pattern) (filling ++ text)

namespace IsInstance

variable {c : Char} {pattern text literal : List Char}

/-- The empty pattern has one instance. -/
theorem nil_iff : IsInstance [] text ↔ text = [] := by
  constructor
  · intro h
    cases h
    rfl
  · rintro rfl
    exact .nil

/-- A character stands for itself. -/
theorem cons_iff (hc : c ≠ '*') :
    IsInstance (c :: pattern) text ↔ ∃ tail, text = c :: tail ∧ IsInstance pattern tail := by
  constructor
  · intro h
    cases h with
    | char _ h => exact ⟨_, rfl, h⟩
    | star filling h => exact absurd rfl hc
  · rintro ⟨tail, rfl, h⟩
    exact .char hc h

/-- A star stands for any text. -/
theorem star_iff :
    IsInstance ('*' :: pattern) text ↔
      ∃ filling tail, text = filling ++ tail ∧ IsInstance pattern tail := by
  constructor
  · intro h
    cases h with
    | char hc _ => exact absurd rfl hc
    | star filling h => exact ⟨filling, _, rfl, h⟩
  · rintro ⟨filling, tail, rfl, h⟩
    exact .star filling h

/-- Characters that are no stars stand for themselves. -/
theorem literal_iff (hliteral : '*' ∉ literal) :
    IsInstance (literal ++ pattern) text ↔
      ∃ tail, text = literal ++ tail ∧ IsInstance pattern tail := by
  induction literal generalizing text with
  | nil => simp
  | cons c literal ih =>
      have hc : c ≠ '*' := fun heq => hliteral (by simp [heq])
      have hrest : '*' ∉ literal := fun hmem => hliteral (List.mem_cons_of_mem c hmem)
      rw [List.cons_append, cons_iff hc]
      simp only [ih hrest]
      constructor
      · rintro ⟨_, rfl, tail, rfl, h⟩
        exact ⟨tail, rfl, h⟩
      · rintro ⟨tail, rfl, h⟩
        exact ⟨literal ++ tail, rfl, tail, rfl, h⟩

/-- What both begin with may be left out. -/
theorem literal_append_iff (hliteral : '*' ∉ literal) :
    IsInstance (literal ++ pattern) (literal ++ text) ↔ IsInstance pattern text := by
  rw [literal_iff hliteral]
  constructor
  · rintro ⟨tail, heq, h⟩
    rwa [List.append_cancel_left heq]
  · exact fun h => ⟨text, rfl, h⟩

/-- A star may take more in front of what it takes. -/
theorem star_append (more : List Char) (h : IsInstance ('*' :: pattern) text) :
    IsInstance ('*' :: pattern) (more ++ text) := by
  obtain ⟨filling, tail, rfl, htail⟩ := star_iff.1 h
  exact star_iff.2 ⟨more ++ filling, tail, (List.append_assoc more filling tail).symm, htail⟩

/-- A star takes nothing, or the next character and then some. -/
theorem star_cons_iff :
    IsInstance ('*' :: pattern) (c :: text) ↔
      IsInstance pattern (c :: text) ∨ IsInstance ('*' :: pattern) text := by
  constructor
  · intro h
    obtain ⟨filling, tail, heq, htail⟩ := star_iff.1 h
    cases filling with
    | nil =>
        have hsame : c :: text = tail := heq
        exact .inl (hsame ▸ htail)
    | cons d filling =>
        have hrest : text = filling ++ tail := (List.cons.inj heq).2
        exact .inr (star_iff.2 ⟨filling, tail, hrest, htail⟩)
  · rintro (h | h)
    · exact star_iff.2 ⟨[], c :: text, rfl, h⟩
    · exact h.star_append [c]

/-- The empty text is an instance of stars only. -/
theorem empty_iff : IsInstance pattern [] ↔ ∀ c ∈ pattern, c = '*' := by
  induction pattern with
  | nil => simp [nil_iff]
  | cons c pattern ih =>
      by_cases hc : c = '*'
      · subst hc
        have hempty : IsInstance ('*' :: pattern) [] ↔ IsInstance pattern [] := by
          rw [star_iff]
          constructor
          · rintro ⟨filling, tail, heq, h⟩
            obtain ⟨-, rfl⟩ := List.append_eq_nil_iff.1 heq.symm
            exact h
          · exact fun h => ⟨[], [], rfl, h⟩
        rw [hempty, ih]
        simp
      · rw [cons_iff hc]
        simp [hc]

/-- Characters behind a star that are found at once: wherever else they are found,
what follows them starts no earlier. -/
theorem skip_literal (hliteral : '*' ∉ literal)
    (h : IsInstance ('*' :: (literal ++ pattern)) (literal ++ text)) :
    IsInstance ('*' :: pattern) text := by
  obtain ⟨filling, found, heq, hfound⟩ := star_iff.1 h
  obtain ⟨tail, rfl, htail⟩ := (literal_iff hliteral).1 hfound
  have hlength := congrArg List.length heq
  have hle : tail.length ≤ text.length := by
    simp only [List.length_append] at hlength
    omega
  have hend : tail <:+ literal ++ text := ⟨filling ++ literal, by rw [heq, List.append_assoc]⟩
  obtain ⟨more, rfl⟩ := List.suffix_of_suffix_length_le hend (List.suffix_append literal text) hle
  exact .star more htail

/-- The characters between two stars may stay where they are found first: the
second star may take whatever the first one could have taken. -/
theorem exchange (hliteral : '*' ∉ literal) :
    IsInstance ('*' :: (literal ++ '*' :: pattern)) (literal ++ text) ↔
      IsInstance ('*' :: pattern) text := by
  constructor
  · intro h
    obtain ⟨filling, tail, rfl, htail⟩ := star_iff.1 (skip_literal hliteral h)
    exact htail.star_append filling
  · exact fun h => star_iff.2 ⟨[], _, rfl, (literal_append_iff hliteral).2 h⟩

/-- A text that ends with the characters behind a star leaves nothing for what
follows them. -/
theorem star_literal_iff (hliteral : '*' ∉ literal) :
    IsInstance ('*' :: (literal ++ pattern)) literal ↔ IsInstance pattern [] := by
  constructor
  · intro h
    rw [← List.append_nil literal, List.append_assoc] at h
    obtain ⟨filling, tail, heq, htail⟩ := star_iff.1 (skip_literal hliteral h)
    obtain ⟨-, rfl⟩ := List.append_eq_nil_iff.1 heq.symm
    exact htail
  · intro h
    have hall := (literal_append_iff hliteral).2 h
    rw [List.append_nil] at hall
    exact star_iff.2 ⟨[], literal, rfl, hall⟩

end IsInstance

/-! ## What a comparison keeps -/

namespace Scan

variable {pattern text : Array Char} {scan : Scan pattern text}

def patternLeft (scan : Scan pattern text) : List Char := pattern.toList.drop scan.inPattern

def textLeft (scan : Scan pattern text) : List Char := text.toList.drop scan.inText

/-- The pattern that is left begins with the character that is looked at. -/
theorem patternLeft_eq_cons (hpattern : scan.inPattern < pattern.size) :
    scan.patternLeft = pattern[scan.inPattern] :: pattern.toList.drop (scan.inPattern + 1) := by
  have hlength : scan.inPattern < pattern.toList.length := by simpa using hpattern
  rw [patternLeft, List.drop_eq_getElem_cons hlength, Array.getElem_toList]

theorem textLeft_eq_cons (htext : scan.inText < text.size) :
    scan.textLeft = text[scan.inText] :: text.toList.drop (scan.inText + 1) := by
  have hlength : scan.inText < text.toList.length := by simpa using htext
  rw [textLeft, List.drop_eq_getElem_cons hlength, Array.getElem_toList]

/-- A step does not change the outcome. -/
theorem run_of_some {next : Scan pattern text} (htext : scan.inText < text.size)
    (hnext : scan.step htext = some next) : scan.run = next.run := by
  rw [run, dif_pos htext]
  split
  · rename_i other hother
    rw [Option.some_inj.1 (hother.symm.trans hnext)]
  · rename_i hnone
    rw [hnext] at hnone
    contradiction

/-- A scan that is stuck fails. -/
theorem run_of_none (htext : scan.inText < text.size) (hnone : scan.step htext = none) :
    scan.run = false := by
  rw [run, dif_pos htext]
  split
  · rename_i next hnext
    rw [hnone] at hnext
    contradiction
  · rfl

/-- At the end of the text the rest of the pattern must be stars. -/
theorem run_of_end (htext : ¬ scan.inText < text.size) :
    scan.run = scan.patternLeft.all (· == '*') := by
  rw [run, dif_neg htext, patternLeft]

/-- Whether the text matches can still be told.  Without a star it hangs on what is
left.  With one it hangs on what comes behind the last star, which begins with the
characters that have been passed since. -/
inductive Faithful (scan : Scan pattern text) : Prop where
  | unstarred (hstar : scan.star = none)
      (hiff : IsInstance pattern.toList text.toList ↔ IsInstance scan.patternLeft scan.textLeft)
  | starred (last : Star) (literal : List Char) (hstar : scan.star = some last)
      (hliteral : '*' ∉ literal)
      (hpattern : pattern.toList.drop last.next = literal ++ scan.patternLeft)
      (htext : text.toList.drop last.stop = literal ++ scan.textLeft)
      (hiff : IsInstance pattern.toList text.toList ↔
        IsInstance ('*' :: pattern.toList.drop last.next) (text.toList.drop last.stop))

namespace Faithful

theorem start : (Scan.start : Scan pattern text).Faithful := .unstarred rfl Iff.rfl

/-- Characters that agree are passed in both. -/
theorem advance (h : scan.Faithful) (hpattern : scan.inPattern < pattern.size)
    (htext : scan.inText < text.size) (hchar : pattern[scan.inPattern] ≠ '*')
    (hsame : pattern[scan.inPattern] = text[scan.inText]) :
    (scan.advance hpattern htext).Faithful := by
  have hleft := patternLeft_eq_cons hpattern
  have hleft' := textLeft_eq_cons htext
  rw [← hsame] at hleft'
  cases h with
  | unstarred hstar hiff =>
      refine .unstarred hstar ?_
      have hliteral : '*' ∉ [pattern[scan.inPattern]] := by simpa using hchar.symm
      rw [hiff, hleft, hleft']
      exact IsInstance.literal_append_iff hliteral
  | starred last literal hstar hliteral hbehind hbehind' hiff =>
      refine .starred last (literal ++ [pattern[scan.inPattern]]) hstar ?_ ?_ ?_ hiff
      · simpa using ⟨hliteral, hchar.symm⟩
      · rw [hbehind, hleft, List.append_assoc]
        rfl
      · rw [hbehind', hleft', List.append_assoc]
        rfl

/-- At a star the scan notes where to come back to: the texts that match are still the
same. -/
theorem passStar (h : scan.Faithful) (hpattern : scan.inPattern < pattern.size)
    (hchar : pattern[scan.inPattern] = '*') : (scan.passStar hpattern).Faithful := by
  have hleft := patternLeft_eq_cons hpattern
  rw [hchar] at hleft
  refine .starred ⟨scan.inPattern + 1, scan.inText⟩ [] rfl List.not_mem_nil rfl rfl ?_
  cases h with
  | unstarred hstar hiff => rwa [hleft] at hiff
  | starred last literal hstar hliteral hbehind hbehind' hiff =>
      rw [hiff, hbehind, hbehind', hleft]
      exact IsInstance.exchange hliteral

/-- Where pattern and text do not go together, the last star takes more. -/
theorem restart (h : scan.Faithful) (hstuck : ¬ IsInstance scan.patternLeft scan.textLeft)
    {last : Star} (hstar : last ∈ scan.star) (htext : scan.inText < text.size) :
    (scan.restart last hstar htext).Faithful := by
  refine .starred ⟨last.next, last.stop + 1⟩ [] rfl List.not_mem_nil rfl rfl ?_
  cases h with
  | unstarred hnone hiff =>
      rw [hnone] at hstar
      contradiction
  | starred other literal hother hliteral hbehind hbehind' hiff =>
      obtain rfl : other = last := Option.some_inj.1 (hother.symm.trans hstar)
      have hstop : other.stop < text.toList.length := by
        have hle := scan.star_le other hstar
        rw [Array.length_toList]
        omega
      have hhere : ¬ IsInstance (pattern.toList.drop other.next) (text.toList.drop other.stop) := by
        rw [hbehind, hbehind']
        exact mt (IsInstance.literal_append_iff hliteral).1 hstuck
      have hcons := List.drop_eq_getElem_cons hstop
      rw [hcons] at hhere
      rw [hiff, hcons, IsInstance.star_cons_iff, or_iff_right hhere]

/-- Without a star, pattern and text have to go together. -/
theorem refuse (h : scan.Faithful) (hstuck : ¬ IsInstance scan.patternLeft scan.textLeft)
    (hnone : scan.star = none) : ¬ IsInstance pattern.toList text.toList := by
  cases h with
  | unstarred hstar hiff => rwa [hiff]
  | starred last literal hstar =>
      rw [hnone] at hstar
      contradiction

/-- The outcome of a step is right: the answer can still be told, or is no. -/
def Settles (pattern text : Array Char) : Option (Scan pattern text) → Prop
  | some next => next.Faithful
  | none => ¬ IsInstance pattern.toList text.toList

/-- Where the scan is stuck it comes back to the last star, which then stands for one
character more, or it fails, since an earlier star would not help. -/
theorem retry (h : scan.Faithful) (hstuck : ¬ IsInstance scan.patternLeft scan.textLeft)
    (htext : scan.inText < text.size) : Settles pattern text (scan.retry htext) := by
  rw [Scan.retry]
  split
  · rename_i hnone
    exact h.refuse hstuck hnone
  · rename_i last hstar
    exact h.restart hstuck hstar htext

theorem step (h : scan.Faithful) (htext : scan.inText < text.size) :
    Settles pattern text (scan.step htext) := by
  rw [Scan.step]
  have hleft' := textLeft_eq_cons htext
  split
  · rename_i hpattern
    have hleft := patternLeft_eq_cons hpattern
    split
    · rename_i hchar
      exact h.passStar hpattern hchar
    · rename_i hchar
      split
      · rename_i hsame
        exact h.advance hpattern htext hchar hsame
      · rename_i hother
        refine h.retry ?_ htext
        rw [hleft, hleft', IsInstance.cons_iff hchar]
        rintro ⟨tail, heq, -⟩
        exact hother (List.cons.inj heq).1.symm
  · rename_i hpattern
    refine h.retry ?_ htext
    have hnil : scan.patternLeft = [] := by
      rw [patternLeft, List.drop_eq_nil_iff, Array.length_toList]
      omega
    rw [hnil, hleft', IsInstance.nil_iff]
    exact List.cons_ne_nil _ _

/-- At the end of the text, only stars may be left. -/
theorem finish (h : scan.Faithful) (htext : ¬ scan.inText < text.size) :
    scan.patternLeft.all (· == '*') = true ↔ IsInstance pattern.toList text.toList := by
  have hnil : scan.textLeft = [] := by
    rw [textLeft, List.drop_eq_nil_iff, Array.length_toList]
    omega
  have hstars : scan.patternLeft.all (· == '*') = true ↔ IsInstance scan.patternLeft [] := by
    rw [IsInstance.empty_iff]
    simp
  rw [hstars]
  cases h with
  | unstarred hstar hiff => rw [hiff, hnil]
  | starred last literal hstar hliteral hbehind hbehind' hiff =>
      rw [hiff, hbehind, hbehind', hnil, List.append_nil, IsInstance.star_literal_iff hliteral]

/-- A whole run. -/
theorem run_iff (h : scan.Faithful) :
    scan.run = true ↔ IsInstance pattern.toList text.toList := by
  induction scan using Scan.run.induct with
  | case1 scan htext next hnext ih =>
      have hsettles := h.step htext
      rw [hnext] at hsettles
      rw [run_of_some htext hnext, ih hsettles]
  | case2 scan htext hnone =>
      have hsettles := h.step htext
      rw [hnone] at hsettles
      rw [run_of_none htext hnone]
      exact iff_of_false Bool.false_ne_true hsettles
  | case3 scan htext =>
      rw [run_of_end htext]
      exact h.finish htext

end Faithful

end Scan

/-- A pattern matches its instances and nothing else. -/
theorem globMatches_iff (pattern text : List Char) :
    globMatches pattern text = true ↔ IsInstance pattern text :=
  Scan.Faithful.start.run_iff

-- the first `b` is given up for the last one; a star in the text is a character
example : globMatches ['a', '*', 'b', 'c'] ['a', 'b', '*', 'b', 'c'] = true := by cbv

end TypeGraph.Text

namespace TypeGraph.Filter

/-- **Package filters**: a pattern matches the texts that come of it by putting some
text in the place of each star, and a filter hides the types of those packages whose
name in lower case is such an instance of one of its patterns in lower case. -/
theorem rejects_iff_isInstance :
    (∀ pattern text : List Char,
      Text.globMatches pattern text = true ↔ Text.IsInstance pattern text) ∧
    ∀ (patterns : List String) (node : TypeNode) (package : Option Package),
      (ofPatterns patterns).accepts node package = false ↔
        ∃ filed, package = some filed ∧ ∃ pattern ∈ patterns,
          Text.IsInstance (Text.lowerChars pattern.toList) (Text.lowerChars filed.name.toList) := by
  refine ⟨Text.globMatches_iff, fun patterns node package => ?_⟩
  have hmatches (name : String) : anyMatches (patterns.map Text.lowercase) name = true ↔
      ∃ pattern ∈ patterns,
        Text.IsInstance (Text.lowerChars pattern.toList) (Text.lowerChars name.toList) := by
    simp [anyMatches, Text.toList_lowercase, Text.globMatches_iff]
  cases package with
  | none => simp [ofPatterns, accepts]
  | some filed => simp [ofPatterns, accepts, hmatches]

end TypeGraph.Filter
