import TypeGraph.Text.CaseTable

/-!
# TypeGraph.Text.Lowercase

Lower case of a whole text, by the full Unicode rules:

1. an ASCII letter and a letter of `caseRuns` has one lower-case character;
2. `İ` becomes `i` followed by a combining dot above;
3. `Σ` becomes `ς` at the end of a word and `σ` anywhere else, where case
   ignorable characters on either side are looked through.

Only rule 3 looks at neighbours, so the rest is a map over the characters.
-/

namespace TypeGraph.Text

/-- The lower case of a character that does not depend on its neighbours. -/
def lowerChar (c : Char) : List Char :=
  if c.toNat < 0x80 then [c.toLower]
  else if c = 'İ' then ['i', '\u0307']
  else match caseRuns.find? (·.covers c.toNat) with
    | some run => [Char.ofNat (run.apply c.toNat)]
    | none => [c]

/-- Whether the first character that is not case ignorable has case. -/
def startsCased (cs : List Char) : Bool :=
  match cs.dropWhile caseIgnorableSet.contains with
  | [] => false
  | c :: _ => casedSet.contains c

/-- Lower case of `Σ` between the text before it (nearest character first)
and the text after it. -/
def lowerSigma (before after : List Char) : Char :=
  if startsCased before && !startsCased after then 'ς' else 'σ'

/-- Lower case of a text that follows `before` (nearest character first). -/
def lowerAfter (before : List Char) : List Char → List Char
  | [] => []
  | c :: rest =>
    (if c = 'Σ' then [lowerSigma before rest] else lowerChar c) ++ lowerAfter (c :: before) rest

def lowerChars (cs : List Char) : List Char := lowerAfter [] cs

def lowercase (s : String) : String := String.ofList (lowerChars s.toList)

/-- Lower case of the ASCII letters of a text; all else stays. -/
def asciiLowercase (s : String) : String := String.ofList (s.toList.map Char.toLower)

theorem toList_lowercase (s : String) : (lowercase s).toList = lowerChars s.toList := by
  simp [lowercase]

theorem toList_asciiLowercase (s : String) :
    (asciiLowercase s).toList = s.toList.map Char.toLower := by
  simp [asciiLowercase]

end TypeGraph.Text
