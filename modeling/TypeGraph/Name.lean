import TypeGraph.Text.Blank
import TypeGraph.Text.Lowercase

/-!
# TypeGraph.Name

Names of types.  A backslash separates the namespaces of a name, and
separators in front of a name say only that it is meant from the root:

1. `symbolKey` is what two spellings of one type have in common;
2. `namespaceOf` is the package a type is filed under by its name alone;
3. `isBlankName` tells the names that name nothing.
-/

namespace TypeGraph

/-- The package of declarations outside any namespace. -/
def globalPackage : String := "+global"

def separator : Char := '\\'

def dropSeparators (cs : List Char) : List Char := cs.dropWhile (· == separator)

/-- A name as given, without the separators in front of it. -/
def unrooted (name : String) : String := String.ofList (dropSeparators name.toList)

/-- The key of a name in a symbol table: spellings that differ in case or in
the separators in front name the same type. -/
def symbolKey (name : String) : String :=
  String.ofList (Text.lowerChars (dropSeparators name.toList))

/-- Everything before the last separator; nothing if there is none. -/
def qualifier (cs : List Char) : List Char :=
  ((cs.reverse.dropWhile (· != separator)).drop 1).reverse

/-- The package named by the namespace of a type name. -/
def namespaceOf (name : String) : String :=
  match qualifier (dropSeparators name.toList) with
  | [] => globalPackage
  | cs => String.ofList cs

/-- Whether a name is empty once the white space around it and then the
separators in front of it are gone. -/
def isBlankName (name : String) : Bool :=
  (dropSeparators (Text.trim name.toList)).isEmpty

theorem toList_symbolKey (name : String) :
    (symbolKey name).toList = Text.lowerChars (dropSeparators name.toList) := by
  simp [symbolKey]

/-- Dropping separators twice drops no more than dropping them once. -/
theorem dropSeparators_idem (cs : List Char) :
    dropSeparators (dropSeparators cs) = dropSeparators cs := by
  induction cs with
  | nil => rfl
  | cons c cs ih =>
    by_cases h : c = separator
    · simpa [dropSeparators, h] using ih
    · simp [dropSeparators, h]

theorem symbolKey_unrooted (name : String) : symbolKey (unrooted name) = symbolKey name := by
  simp [symbolKey, unrooted, dropSeparators_idem]

end TypeGraph
