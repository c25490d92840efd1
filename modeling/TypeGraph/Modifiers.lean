import TypeGraph.Text.Lowercase

/-!
# TypeGraph.Modifiers

The modifiers of a type or method as a set of bits.  Bits without a keyword
of their own are kept as they are.
-/

namespace TypeGraph

/-- A set of modifiers. -/
structure Modifiers where
  bits : UInt32
  deriving DecidableEq, Repr

namespace Modifiers

def none : Modifiers := ⟨0⟩

def abstractBit : Modifiers := ⟨1⟩

def finalBit : Modifiers := ⟨2⟩

/-- Abstract without the keyword, as every interface is. -/
def implicitAbstractBit : Modifiers := ⟨4⟩

def staticBit : Modifiers := ⟨8⟩

def publicBit : Modifiers := ⟨16⟩

def protectedBit : Modifiers := ⟨32⟩

def privateBit : Modifiers := ⟨64⟩

def union (a b : Modifiers) : Modifiers := ⟨a.bits ||| b.bits⟩

def contains (a b : Modifiers) : Bool := a.bits &&& b.bits == b.bits

def isEmpty (a : Modifiers) : Bool := a.bits == 0

/-- The modifier that a keyword in ASCII lower case stands for. -/
def ofLowerKeyword? : String → Option Modifiers
  | "abstract" => some abstractBit
  | "final" => some finalBit
  | "static" => some staticBit
  | "public" => some publicBit
  | "protected" => some protectedBit
  | "private" => some privateBit
  | _ => Option.none

/-- The modifier that a keyword stands for, in any ASCII case. -/
def ofKeyword? (keyword : String) : Option Modifiers :=
  ofLowerKeyword? (Text.asciiLowercase keyword)

end Modifiers

end TypeGraph
