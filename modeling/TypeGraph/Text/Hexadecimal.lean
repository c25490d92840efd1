/-!
# TypeGraph.Text.Hexadecimal

Numbers written in hexadecimal digits, of either case, and the characters
that they are the code points of.
-/

namespace TypeGraph.Text

def hexValue? (c : Char) : Option Nat :=
  if '0' ≤ c ∧ c ≤ '9' then some (c.toNat - '0'.toNat)
  else if 'a' ≤ c ∧ c ≤ 'f' then some (c.toNat - 'a'.toNat + 10)
  else if 'A' ≤ c ∧ c ≤ 'F' then some (c.toNat - 'A'.toNat + 10)
  else none

def hexNumber? (digits : List Char) : Option Nat :=
  digits.foldlM (fun n c => (hexValue? c).map (16 * n + ·)) 0

/-- The character whose code point is written in exactly so many digits.
Half a surrogate pair is no character. -/
def hexChar? (count : Nat) (digits : List Char) : Option Char :=
  if digits.length = count then
    (hexNumber? digits).bind fun n =>
      if n < 0xD800 || (0xE000 ≤ n && n < 0x110000) then some (Char.ofNat n) else none
  else none

end TypeGraph.Text
