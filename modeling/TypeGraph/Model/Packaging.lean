import TypeGraph.Model.Basic

/-!
# TypeGraph.Model.Packaging

Which package a type or function belongs to.  The operations here write the
pointer of the entity and the list of the package together; `rebuildIndex`
computes all lists anew from the pointers.
-/

namespace TypeGraph

namespace Model

/-- The model without the first listing of a type in a package, and without
the type's pointer if that names the package. -/
def unlistType (model : Model) (package : PackageId) (ty : TypeId) : Model :=
  (model.modifyPackage package fun p => { p with types := p.types.erase ty }).modifyType ty
    fun node => if node.package = some package then { node with package := none } else node

/-- The model in which a type points at a package and is listed last in it. -/
def listType (model : Model) (package : PackageId) (ty : TypeId) : Model :=
  (model.modifyType ty fun node => { node with package := some package }).modifyPackage package
    fun p => { p with types := p.types ++ [ty] }

/-- The model without the first listing of a function in a package, and
without the function's pointer if that names the package. -/
def unlistFunction (model : Model) (package : PackageId) (function : FunctionId) : Model :=
  (model.modifyPackage package fun p =>
    { p with functions := p.functions.erase function }).modifyFunction function
    fun node => if node.package = some package then { node with package := none } else node

/-- The model in which a function points at a package and is listed last in
it. -/
def listFunction (model : Model) (package : PackageId) (function : FunctionId) : Model :=
  (model.modifyFunction function fun node => { node with package := some package }).modifyPackage
    package fun p => { p with functions := p.functions ++ [function] }

/-- The model whose package lists hold exactly what points at each package,
in the order of creation. -/
def rebuildIndex (model : Model) : Model :=
  let types := model.types.toList.filterMap fun node => node.package.map (·, node.id)
  let functions := model.functions.toList.filterMap fun node => node.package.map (·, node.id)
  let cleared := model.packages.map fun p => { p with types := [], functions := [] }
  let listed := types.foldl (fun packages entry =>
    packages.modify entry.1.index fun p => { p with types := p.types ++ [entry.2] }) cleared
  { model with
    packages := functions.foldl (fun packages entry =>
      packages.modify entry.1.index fun p => { p with functions := p.functions ++ [entry.2] })
      listed }

end Model

namespace Edit

/-- Takes a type off the list of a package.  The type's pointer is cleared
only if it still names that package. -/
def removeTypeFromPackage (id : PackageId) (ty : TypeId) : Edit Unit := do
  let _ ← package id
  let _ ← type ty
  modify (·.unlistType id ty)

/-- Moves a type into a package, out of the one that it points at. -/
def addTypeToPackage (id : PackageId) (ty : TypeId) : Edit TypeId := do
  let _ ← package id
  let node ← type ty
  if let some previous := node.package then
    removeTypeFromPackage previous ty
  modify (·.listType id ty)
  pure ty

/-- Takes a function off the list of a package.  The function's pointer is
cleared only if it still names that package. -/
def removeFunctionFromPackage (id : PackageId) (target : FunctionId) : Edit Unit := do
  let _ ← package id
  let _ ← function target
  modify (·.unlistFunction id target)

/-- Moves a function into a package, out of the one that it points at. -/
def addFunctionToPackage (id : PackageId) (target : FunctionId) : Edit FunctionId := do
  let _ ← package id
  let node ← function target
  if let some previous := node.package then
    removeFunctionFromPackage previous target
  modify (·.listFunction id target)
  pure target

end Edit

end TypeGraph
