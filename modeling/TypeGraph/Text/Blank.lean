import TypeGraph.Text.CharSet

/-!
# TypeGraph.Text.Blank

White space in the sense of Unicode (property `White_Space`), and what is
left of a text without the white space around it.
-/

namespace TypeGraph.Text

/-- The characters with the property `White_Space`. -/
def whiteSpaceSet : CharSet := ⟨[
    (0x9, 0xD), (0x20, 0x20), (0x85, 0x85), (0xA0, 0xA0), (0x1680, 0x1680),
    (0x2000, 0x200A), (0x2028, 0x2029), (0x202F, 0x202F), (0x205F, 0x205F), (0x3000, 0x3000)
  ]⟩

/-- Whether a character is white space. -/
def isBlank (c : Char) : Bool := whiteSpaceSet.contains c

/-- The text without the white space at its end. -/
def trimEnd (cs : List Char) : List Char := (cs.reverse.dropWhile isBlank).reverse

/-- The text without the white space at either end. -/
def trim (cs : List Char) : List Char := trimEnd (cs.dropWhile isBlank)

end TypeGraph.Text
