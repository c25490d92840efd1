import Std.Data.HashMap
import TypeGraph.Handle
import TypeGraph.Name

/-!
# TypeGraph.Reference

References to types by name.  A source may name a type long before it
declares it, so a reference keeps the name and is resolved when a question
follows it:

1. a lookup that succeeds is remembered, and the reference points at that
   type from then on, whatever the symbol table says later;
2. a lookup that fails is not remembered, so that a type declared later
   still satisfies the reference;
3. copying a reference copies what it remembers.
-/

namespace TypeGraph

/-- Class or interface: what a type is, and what a reference asks for. -/
inductive TypeKind where
  | classType
  | interfaceType
  deriving DecidableEq, Repr

/-- The kind as messages and reports show it. -/
def TypeKind.word : TypeKind → String
  | .classType => "class"
  | .interfaceType => "interface"

/-- The types known by name, under the keys of their names. -/
abbrev SymbolTable := Std.HashMap String TypeId

namespace SymbolTable

/-- The type known under the key of `name`. -/
def lookup (table : SymbolTable) (name : String) : Option TypeId := table[symbolKey name]?

/-- The table with a type that has been declared under `name`: the first
declaration of a key keeps it. -/
def declare (table : SymbolTable) (name : String) (ty : TypeId) : SymbolTable :=
  table.insertIfNew (symbolKey name) ty

end SymbolTable

/-- A reference to a type by name. -/
structure TypeReference where
  /-- What the reference asks for: a parent class or an interface. -/
  kind : TypeKind
  /-- The name exactly as the source gives it. -/
  name : String
  /-- The type found by the first lookup that succeeded. -/
  memo : Option TypeId
  deriving DecidableEq, Repr

namespace TypeReference

/-- A reference that nobody has followed yet; none for a blank name. -/
def new? (kind : TypeKind) (name : String) : Option TypeReference :=
  if isBlankName name then none else some ⟨kind, name, none⟩

/-- Whether a lookup has succeeded. -/
def isResolved (reference : TypeReference) : Bool := reference.memo.isSome

/-- The type that the reference points at, given what a table knows. -/
def target? (reference : TypeReference) (table : SymbolTable) : Option TypeId :=
  match reference.memo with
  | some ty => some ty
  | none => table.lookup reference.name

/-- The reference after it has been followed: it remembers what was found. -/
def settle (reference : TypeReference) (table : SymbolTable) : TypeReference :=
  { reference with memo := reference.target? table }

/-- The reference as messages show it. -/
def text (reference : TypeReference) : String := reference.kind.word ++ " " ++ reference.name

/-- Following a reference does not change where it points. -/
@[simp] theorem target?_settle (reference : TypeReference) (table : SymbolTable) :
    (reference.settle table).target? table = reference.target? table := by
  cases h : reference.memo with
  | some ty => simp [settle, target?, h]
  | none => cases h' : table.lookup reference.name <;> simp [settle, target?, h, h']

@[simp] theorem name_settle (reference : TypeReference) (table : SymbolTable) :
    (reference.settle table).name = reference.name := rfl

@[simp] theorem kind_settle (reference : TypeReference) (table : SymbolTable) :
    (reference.settle table).kind = reference.kind := rfl

end TypeReference

end TypeGraph
