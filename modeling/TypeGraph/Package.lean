import TypeGraph.Handle
import TypeGraph.Name

/-!
# TypeGraph.Package

Packages and the functions that they group.  The pointer that a type or
function has to its package is the authoritative link; the lists of a
package are an index over those pointers.
-/

namespace TypeGraph

structure Package where
  id : PackageId
  /-- The model that created the package; a copied model keeps it. -/
  origin : Nat
  name : String
  /-- The types listed in the package, in the order in which they came. -/
  types : List TypeId
  /-- The functions listed in the package, in the order in which they came. -/
  functions : List FunctionId
  deriving DecidableEq, Repr

/-- Whether this is the package of declarations outside any namespace. -/
def Package.isGlobal (package : Package) : Bool := package.name == globalPackage

/-- A function declared outside any type. -/
structure FunctionNode where
  id : FunctionId
  /-- The model that created the function; a copied model keeps it. -/
  origin : Nat
  name : String
  package : Option PackageId
  deriving DecidableEq, Repr

end TypeGraph
