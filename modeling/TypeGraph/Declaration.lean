import TypeGraph.Data
import TypeGraph.Json.Basic

/-!
# TypeGraph.Declaration

What a parser reports about a body of source code: packages with their
classes, interfaces and functions, by name.

`ofData?` reads declarations from a file of any format and `toJson` writes
them.  A field that is not given is empty, except for names, which must be
given; fields that are not known are passed over.
-/

namespace TypeGraph

structure MethodDeclaration where
  name : String
  /-- The keywords in front of the method. -/
  modifiers : List String
  deriving DecidableEq, Repr

structure ConstantDeclaration where
  name : String
  /-- The source text of the value. -/
  value : Option String
  deriving DecidableEq, Repr

/-- A declared class or interface. -/
structure TypeDeclaration where
  name : String
  /-- The name of the parent class, which only a class may have. -/
  parent : Option String
  /-- The names of the interfaces that a class implements or an interface
  extends. -/
  interfaces : List String
  /-- The keywords in front of the type. -/
  modifiers : List String
  methods : List MethodDeclaration
  constants : List ConstantDeclaration
  /-- The file that the type is declared in. -/
  file : Option String
  deriving DecidableEq, Repr

/-- One mention of a package and what is declared there. -/
structure PackageDeclaration where
  name : String
  classes : List TypeDeclaration
  interfaces : List TypeDeclaration
  /-- The names of the functions. -/
  functions : List String
  deriving DecidableEq, Repr

/-- All declarations of a body of source code. -/
structure Declarations where
  packages : List PackageDeclaration
  deriving DecidableEq, Repr

/-! ## Reading -/

def Data.texts? : Data → Option (List String) := Data.list? Data.text?

namespace MethodDeclaration

/-- The method that a value in a file describes. -/
def ofData? (data : Data) : Option MethodDeclaration := do
  let [name, modifiers] ← data.fields? ["name", "modifiers"] | none
  return {
    name := ← name.bind Data.text?
    modifiers := ← Data.withDefault [] Data.texts? modifiers }

def toJson (method : MethodDeclaration) : Json :=
  .ofFields [("name", .ofString method.name), ("modifiers", .ofStrings method.modifiers)]

end MethodDeclaration

namespace ConstantDeclaration

/-- The constant that a value in a file describes. -/
def ofData? (data : Data) : Option ConstantDeclaration := do
  let [name, value] ← data.fields? ["name", "value"] | none
  return {
    name := ← name.bind Data.text?
    value := ← Data.withDefault none Data.optionalText? value }

/-- The constant as a JSON object; a value that it does not have is left out. -/
def toJson (constant : ConstantDeclaration) : Json :=
  .ofFields ([("name", .ofString constant.name)]
    ++ constant.value.toList.map (("value", .ofString ·)))

end ConstantDeclaration

namespace TypeDeclaration

/-- The type that a value in a file describes. -/
def ofData? (data : Data) : Option TypeDeclaration := do
  let [name, parent, interfaces, modifiers, methods, constants, file] ← data.fields?
    ["name", "parent", "interfaces", "modifiers", "methods", "constants", "file"] | none
  return {
    name := ← name.bind Data.text?
    parent := ← Data.withDefault none Data.optionalText? parent
    interfaces := ← Data.withDefault [] Data.texts? interfaces
    modifiers := ← Data.withDefault [] Data.texts? modifiers
    methods := ← Data.withDefault [] (Data.list? MethodDeclaration.ofData?) methods
    constants := ← Data.withDefault [] (Data.list? ConstantDeclaration.ofData?) constants
    file := ← Data.withDefault none Data.optionalText? file }

/-- The type as a JSON object; a parent or file that it does not have is left
out. -/
def toJson (type : TypeDeclaration) : Json :=
  .ofFields ([("name", .ofString type.name)]
    ++ type.parent.toList.map (("parent", .ofString ·))
    ++ [("interfaces", .ofStrings type.interfaces),
      ("modifiers", .ofStrings type.modifiers),
      ("methods", .array (type.methods.map (·.toJson))),
      ("constants", .array (type.constants.map (·.toJson)))]
    ++ type.file.toList.map (("file", .ofString ·)))

end TypeDeclaration

namespace PackageDeclaration

/-- The package that a value in a file describes. -/
def ofData? (data : Data) : Option PackageDeclaration := do
  let [name, classes, interfaces, functions] ← data.fields?
    ["name", "classes", "interfaces", "functions"] | none
  return {
    name := ← name.bind Data.text?
    classes := ← Data.withDefault [] (Data.list? TypeDeclaration.ofData?) classes
    interfaces := ← Data.withDefault [] (Data.list? TypeDeclaration.ofData?) interfaces
    functions := ← Data.withDefault [] Data.texts? functions }

def toJson (package : PackageDeclaration) : Json :=
  .ofFields [("name", .ofString package.name),
    ("classes", .array (package.classes.map (·.toJson))),
    ("interfaces", .array (package.interfaces.map (·.toJson))),
    ("functions", .ofStrings package.functions)]

end PackageDeclaration

namespace Declarations

/-- The declarations that a file makes. -/
def ofData? (data : Data) : Option Declarations := do
  let [packages] ← data.fields? ["packages"] | none
  return { packages := ← Data.withDefault [] (Data.list? PackageDeclaration.ofData?) packages }

def toJson (declarations : Declarations) : Json :=
  .ofFields [("packages", .array (declarations.packages.map (·.toJson)))]

def typeCount (declarations : Declarations) : Nat :=
  declarations.packages.foldl (fun count package =>
    count + package.classes.length + package.interfaces.length) 0

end Declarations

end TypeGraph
