/-!
# TypeGraph.Text.Glob

Patterns in which `*` stands for any text, the empty one included, and every
other character for itself.

Pattern and text are compared from left to right:

1. a character that the pattern asks for is passed in both;
2. a star is passed in the pattern and stands for nothing so far;
3. where neither is possible, the last star takes one character more and the
   comparison starts again behind it.  Stars before the last one keep what they
   have, and without a star the text is refused.

`Scan` carries the bounds of its positions, so every character that is looked at
is there.  A step either lets the last star be a later one, or lets it take more
of the text, or leaves less of the pattern; that is why a comparison ends.
-/

namespace TypeGraph.Text

/-- The last star that has been passed. -/
structure Star where
  /-- Where the pattern goes on behind the star. -/
  next : Nat
  /-- Where the text goes on behind what the star stands for so far. -/
  stop : Nat

/-- How far a text has been compared with a pattern. -/
structure Scan (pattern text : Array Char) where
  /-- How much of the pattern has been passed. -/
  inPattern : Nat
  /-- How much of the text has been passed. -/
  inText : Nat
  star : Option Star
  inPattern_le : inPattern ≤ pattern.size
  inText_le : inText ≤ text.size
  star_le : ∀ last ∈ star, last.next ≤ inPattern ∧ last.stop ≤ inText

namespace Scan

variable {pattern text : Array Char}

/-- Nothing has been passed. -/
def start : Scan pattern text where
  inPattern := 0
  inText := 0
  star := none
  inPattern_le := Nat.zero_le _
  inText_le := Nat.zero_le _
  star_le := nofun

/-- One character more has been passed in both. -/
def advance (scan : Scan pattern text) (hpattern : scan.inPattern < pattern.size)
    (htext : scan.inText < text.size) : Scan pattern text where
  inPattern := scan.inPattern + 1
  inText := scan.inText + 1
  star := scan.star
  inPattern_le := hpattern
  inText_le := htext
  star_le last hlast := by
    have hle := scan.star_le last hlast
    omega

/-- A star has been passed, which stands for nothing so far. -/
def passStar (scan : Scan pattern text) (hpattern : scan.inPattern < pattern.size) :
    Scan pattern text where
  inPattern := scan.inPattern + 1
  inText := scan.inText
  star := some ⟨scan.inPattern + 1, scan.inText⟩
  inPattern_le := hpattern
  inText_le := scan.inText_le
  star_le last hlast := by
    obtain rfl := Option.mem_some.1 hlast
    exact ⟨Nat.le_refl _, Nat.le_refl _⟩

/-- The last star has taken one character more, and all behind it is still to
come. -/
def restart (scan : Scan pattern text) (last : Star) (hstar : last ∈ scan.star)
    (htext : scan.inText < text.size) : Scan pattern text where
  inPattern := last.next
  inText := last.stop + 1
  star := some ⟨last.next, last.stop + 1⟩
  inPattern_le := Nat.le_trans (scan.star_le last hstar).1 scan.inPattern_le
  inText_le := by
    have hle := scan.star_le last hstar
    omega
  star_le other hother := by
    obtain rfl := Option.mem_some.1 hother
    exact ⟨Nat.le_refl _, Nat.le_refl _⟩

/-- What is done where pattern and text do not go together. -/
def retry (scan : Scan pattern text) (htext : scan.inText < text.size) :
    Option (Scan pattern text) :=
  match hstar : scan.star with
  | none => none
  | some last => some (scan.restart last hstar htext)

/-- One step on, as long as some of the text is left; none if it is refused. -/
def step (scan : Scan pattern text) (htext : scan.inText < text.size) :
    Option (Scan pattern text) :=
  if hpattern : scan.inPattern < pattern.size then
    if pattern[scan.inPattern] = '*' then some (scan.passStar hpattern)
    else if pattern[scan.inPattern] = text[scan.inText] then some (scan.advance hpattern htext)
    else scan.retry htext
  else scan.retry htext

/-- What can still happen: which stars may come to be the last one, what the last
one may take, and what of the pattern may be passed. -/
def remaining (scan : Scan pattern text) : Nat × Nat × Nat :=
  match scan.star with
  | none => (pattern.size + 1, 0, pattern.size - scan.inPattern)
  | some last => (pattern.size - last.next, text.size - last.stop, pattern.size - scan.inPattern)

/-- The order of `remaining`: an earlier entry counts more than a later one. -/
def Remains : Nat × Nat × Nat → Nat × Nat × Nat → Prop :=
  Prod.Lex (· < ·) (Prod.Lex (· < ·) (· < ·))

theorem remains_advance (scan : Scan pattern text) (hpattern : scan.inPattern < pattern.size)
    (htext : scan.inText < text.size) :
    Remains (scan.advance hpattern htext).remaining scan.remaining := by
  have hless : pattern.size - (scan.inPattern + 1) < pattern.size - scan.inPattern := by omega
  have hstar : (scan.advance hpattern htext).star = scan.star := rfl
  rw [remaining, remaining, hstar]
  cases scan.star with
  | none => exact .right _ (.right _ hless)
  | some last => exact .right _ (.right _ hless)

theorem remains_passStar (scan : Scan pattern text) (hpattern : scan.inPattern < pattern.size) :
    Remains (scan.passStar hpattern).remaining scan.remaining := by
  rw [remaining, remaining]
  cases hstar : scan.star with
  | none => exact .left _ _ (by dsimp only [passStar]; omega)
  | some last =>
      have hle := scan.star_le last hstar
      exact .left _ _ (by dsimp only [passStar]; omega)

theorem remains_restart (scan : Scan pattern text) (last : Star) (hstar : last ∈ scan.star)
    (htext : scan.inText < text.size) :
    Remains (scan.restart last hstar htext).remaining scan.remaining := by
  have hle := scan.star_le last hstar
  have hbefore : scan.remaining =
      (pattern.size - last.next, text.size - last.stop, pattern.size - scan.inPattern) := by
    rw [remaining, Option.mem_def.1 hstar]
  have hless : text.size - (last.stop + 1) < text.size - last.stop := by omega
  rw [hbefore]
  exact .right _ (.left _ _ hless)

theorem remains_retry {scan next : Scan pattern text} {htext : scan.inText < text.size}
    (hnext : scan.retry htext = some next) : Remains next.remaining scan.remaining := by
  rw [retry] at hnext
  split at hnext
  · contradiction
  · rename_i last hstar
    obtain rfl := Option.some_inj.1 hnext
    exact scan.remains_restart last hstar htext

/-- A step leaves less to happen. -/
theorem remains_step {scan next : Scan pattern text} {htext : scan.inText < text.size}
    (hnext : scan.step htext = some next) : Remains next.remaining scan.remaining := by
  rw [step] at hnext
  split at hnext
  · rename_i hpattern
    split at hnext
    · obtain rfl := Option.some_inj.1 hnext
      exact scan.remains_passStar hpattern
    · split at hnext
      · obtain rfl := Option.some_inj.1 hnext
        exact scan.remains_advance hpattern htext
      · exact remains_retry hnext
  · exact remains_retry hnext

/-- Whether what is left of the text matches in the end: when it is all passed,
nothing but stars may be left of the pattern. -/
def run (scan : Scan pattern text) : Bool :=
  if htext : scan.inText < text.size then
    match _hnext : scan.step htext with
    | some next => next.run
    | none => false
  else (pattern.toList.drop scan.inPattern).all (· == '*')
termination_by scan.remaining
decreasing_by exact remains_step _hnext

end Scan

/-- Whether the pattern matches the whole text. -/
def globMatches (pattern text : List Char) : Bool :=
  (Scan.start : Scan pattern.toArray text.toArray).run

end TypeGraph.Text
