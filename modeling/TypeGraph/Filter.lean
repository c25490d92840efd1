import TypeGraph.Package
import TypeGraph.Text.Glob
import TypeGraph.Text.Quoted
import TypeGraph.TypeNode

/-!
# TypeGraph.Filter

Filters hide types from the answers of a model without removing anything
from it.  A type is visible if every registered filter accepts it, so the
empty collection hides nothing.
-/

namespace TypeGraph

/-- A predicate on a type and its package. -/
inductive Filter where
  /-- Hides the types of the packages that match one of the patterns, which
  are in lower case; a type without a package is never hidden. -/
  | packages (patterns : List String)
  /-- Hides the types of the pseudo packages for built-in types, which start
  with `+`; the global package is none of them. -/
  | internal
  /-- Hides the types that the sources refer to and do not declare. -/
  | userDefined
  /-- Any other predicate: true accepts the type.  It is taken not to look at
  what the references of the type remember, since they are followed while it is
  asked. -/
  | custom (accepts : TypeNode → Option Package → Bool)

namespace Filter

/-- A package filter for patterns in any case. -/
def ofPatterns (patterns : List String) : Filter := .packages (patterns.map Text.lowercase)

def anyMatches (patterns : List String) (name : String) : Bool :=
  let text := Text.lowerChars name.toList
  patterns.any fun pattern => Text.globMatches pattern.toList text

/-- Whether a name is that of a pseudo package for built-in types. -/
def isInternalName (name : String) : Bool :=
  name.toList.head? == some '+' && name != globalPackage

/-- Whether the filter lets the type be seen. -/
def accepts (filter : Filter) (node : TypeNode) (package : Option Package) : Bool :=
  match filter with
  | .packages patterns => !package.any (anyMatches patterns ·.name)
  | .internal => !package.any (isInternalName ·.name)
  | .userDefined => node.userDefined
  | .custom test => test node package

def label : Filter → String
  | .packages patterns => "package filter " ++ Text.quotedList patterns
  | .internal => "internal package filter"
  | .userDefined => "user defined filter"
  | .custom _ => "custom filter"

end Filter

/-- The name under which a filter is registered. -/
structure FilterId where
  index : Nat
  deriving DecidableEq, Repr

/-- The filters of a model, in the order of registration. -/
structure Filters where
  entries : List (FilterId × Filter)
  /-- The next name to give out; names are never given twice. -/
  next : FilterId

namespace Filters

def empty : Filters := ⟨[], ⟨0⟩⟩

/-- Registers a filter under a new name. -/
def add (filters : Filters) (filter : Filter) : FilterId × Filters :=
  (filters.next, ⟨filters.entries ++ [(filters.next, filter)], ⟨filters.next.index + 1⟩⟩)

/-- The collection with the given filters, registered in their order. -/
def ofList (list : List Filter) : Filters :=
  list.foldl (fun filters filter => (filters.add filter).2) empty

def contains (filters : Filters) (id : FilterId) : Bool := filters.entries.any (·.1 == id)

/-- The collection without the filter registered under the name. -/
def remove (filters : Filters) (id : FilterId) : Filters :=
  { filters with entries := filters.entries.filter (·.1 != id) }

/-- The collection without any filter; names already given stay taken. -/
def clear (filters : Filters) : Filters := { filters with entries := [] }

def size (filters : Filters) : Nat := filters.entries.length

/-- Whether every filter lets the type be seen. -/
def accepts (filters : Filters) (node : TypeNode) (package : Option Package) : Bool :=
  filters.entries.all (·.2.accepts node package)

/-- The labels of the filters as one line. -/
def description (filters : Filters) : String :=
  Text.quotedList (filters.entries.map (·.2.label))

end Filters

end TypeGraph
