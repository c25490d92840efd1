import TypeGraph.Model.Basic

/-!
# TypeGraph.Model.Wiring

What is written about one type after it has been added: its references, its
package pointer, its modifiers and where it comes from.
-/

namespace TypeGraph.Edit

/-- Sets the parent of a class; an earlier parent is forgotten. -/
def setParent (ty : TypeId) (reference : TypeReference) : Edit Unit := do
  if reference.kind ≠ .classType then
    throw (.parentNotClass ty reference.kind reference.name)
  let node ← type ty
  if node.kind ≠ .classType then
    throw (.interfaceWithParent node.name)
  modify (·.modifyType ty fun node => { node with parent := some reference })

/-- Adds an interface after those that the type implements or extends. -/
def addInterface (ty : TypeId) (reference : TypeReference) : Edit Unit := do
  if reference.kind ≠ .interfaceType then
    throw (.notAnInterface ty reference.kind reference.name)
  let _ ← type ty
  modify (·.modifyType ty fun node => { node with interfaces := node.interfaces ++ [reference] })

/-- Points a type at a package, or at none.  The lists of packages are not
touched; `addTypeToPackage` keeps them in step. -/
def setPackage (ty : TypeId) (target : Option PackageId) : Edit Unit := do
  if let some id := target then
    let _ ← package id
  let _ ← type ty
  modify (·.modifyType ty fun node => { node with package := target })

/-- Marks a type as declared in the sources.  There is no way back. -/
def setUserDefined (ty : TypeId) : Edit Unit := do
  let _ ← type ty
  modify (·.modifyType ty fun node => { node with userDefined := true })

/-- Replaces the modifiers of a type. -/
def setModifiers (ty : TypeId) (modifiers : Modifiers) : Edit Unit := do
  let _ ← type ty
  modify (·.modifyType ty fun node => { node with ownModifiers := modifiers })

/-- Says which file a type is declared in. -/
def setSourceFile (ty : TypeId) (file : String) : Edit Unit := do
  let _ ← type ty
  modify (·.modifyType ty fun node => { node with sourceFile := some file })

end TypeGraph.Edit
