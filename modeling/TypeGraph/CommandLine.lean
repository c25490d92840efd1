import TypeGraph.Config
import TypeGraph.DeclarationFile
import TypeGraph.Model.Build
import TypeGraph.Report.Json

/-!
# TypeGraph.CommandLine

The command line: what its arguments ask for, and what is printed.

1. Options come before the command: the configuration file at most once, and
   how much is to be logged any number of times.  Short options may be put
   together, and the value of an option may be put right behind it.
2. The command takes a declarations file and, to inspect a type, its name.
   After `--` an argument may start with a dash.
3. The files are read elsewhere; `Invocation.run` is given their bytes.
-/

namespace TypeGraph

/-- What is to be printed about the model of a declarations file. -/
inductive Command where
  /-- How many entities there are. -/
  | summary (file : String)
  /-- What is known about one type. -/
  | inspect (file name : String)
  /-- The groups of types that depend on each other in a circle. -/
  | cycles (file : String)
  /-- A summary of every type as JSON. -/
  | report (file : String)
  deriving DecidableEq, Repr

def Command.file : Command → String
  | .summary file => file
  | .inspect file _ => file
  | .cycles file => file
  | .report file => file

/-- What the arguments ask for. -/
structure Invocation where
  /-- The path of the configuration file. -/
  configPath : String
  /-- How much is to be logged. -/
  verbosity : Nat
  command : Command
  deriving DecidableEq, Repr

/-! ## Arguments -/

def defaultConfigPath : String := "depend.toml"

/-- Whether an argument is an option, or a mistake for one. -/
def isOption (argument : List Char) : Bool :=
  argument.head? == some '-' && argument.length != 1

/-- The operands in the arguments after the command, which has no options of
its own; after `--` everything is an operand. -/
def operands? : List (List Char) → Option (List (List Char))
  | [] => some []
  | ['-', '-'] :: rest => some rest
  | argument :: rest =>
    if isOption argument then none else (operands? rest).map (argument :: ·)

/-- The command of a name with its operands. -/
def Command.ofOperands? (name : List Char) (operands : List (List Char)) : Option Command :=
  let command? : Option Command := match String.ofList name, operands.map String.ofList with
    | "summary", [file] => some (.summary file)
    | "inspect", [file, name] => some (.inspect file name)
    | "cycles", [file] => some (.cycles file)
    | "report", [file] => some (.report file)
    | _, _ => none
  command?.filter (!·.file.isEmpty)

structure Options where
  configPath : Option (List Char)
  verbosity : Nat

namespace Options

/-- The options with the path of the configuration file, which may be given
once and not be empty. -/
def withConfig? (options : Options) (path : List Char) : Option Options :=
  if options.configPath.isSome || path.isEmpty then none
  else some { options with configPath := some path }

/-- The options with one more demand for logging. -/
def louder (options : Options) : Options := { options with verbosity := options.verbosity + 1 }

/-- The options after short ones that are put together, and whether the value
of the last one is the next argument. -/
def addShort? (options : Options) : List Char → Option (Options × Bool)
  | [] => some (options, false)
  | 'v' :: rest => options.louder.addShort? rest
  | ['c'] => some (options, true)
  | 'c' :: '=' :: path => (options.withConfig? path).map (·, false)
  | 'c' :: path => (options.withConfig? path).map (·, false)
  | _ => none

/-- The options after a long one, and whether its value is the next
argument. -/
def addLong? (options : Options) (name : List Char) : Option (Options × Bool) :=
  match name.span (· != '=') with
  | (name, []) =>
    match String.ofList name with
    | "verbose" => some (options.louder, false)
    | "config" => some (options, true)
    | _ => none
  | (name, _ :: value) =>
    if String.ofList name = "config" then (options.withConfig? value).map (·, false)
    else none

/-- The options after the argument that follows a dash. -/
def add? (options : Options) : List Char → Option (Options × Bool)
  | '-' :: name => options.addLong? name
  | letters => options.addShort? letters

end Options

/-- What the arguments from the first one that is no option yet ask for. -/
def invocationFrom? (options : Options) : List (List Char) → Option Invocation
  | [] => none
  | argument :: rest =>
    if isOption argument then
      match options.add? (argument.drop 1) with
      | none => none
      | some (options, false) => invocationFrom? options rest
      | some (options, true) =>
        match rest with
        | [] => none
        | value :: rest =>
          if isOption value then none
          else match options.withConfig? value with
            | none => none
            | some options => invocationFrom? options rest
    else do
      let command ← Command.ofOperands? argument (← operands? rest)
      return {
        configPath := (options.configPath.map String.ofList).getD defaultConfigPath
        verbosity := options.verbosity
        command := command }

def Invocation.parse? (arguments : List String) : Option Invocation :=
  invocationFrom? ⟨none, 0⟩ (arguments.map (·.toList))

/-! ## Output -/

/-- Lines, each with its end. -/
def unlines (lines : List String) : String := String.join (lines.map (· ++ "\n"))

/-- A text with spaces after it, as wide as given if it is not wider. -/
def padded (width : Nat) (text : String) : String :=
  text ++ String.ofList (List.replicate (width - text.length) ' ')

/-- The numbers of a model, one a line. -/
def ModelStats.lines (stats : ModelStats) : List String :=
  ["Code Model", "──────────",
    padded 14 "Packages:" ++ toString stats.packages,
    padded 14 "Classes:" ++ toString stats.classes,
    padded 14 "Interfaces:" ++ toString stats.interfaces,
    padded 14 "User defined:" ++ toString stats.userDefined,
    padded 14 "Methods:" ++ toString stats.methods,
    padded 14 "Constants:" ++ toString stats.constants,
    padded 14 "Functions:" ++ toString stats.functions]

/-- A line with a label and what it labels, unless that is nothing. -/
def labelled (label : String) (items : List String) : List String :=
  if items.isEmpty then []
  else ["  " ++ padded 14 (label ++ ":") ++ String.intercalate ", " items]

namespace Model

/-- What is known about a type, one thing a line. -/
def inspectLines (model : Model) (ty : TypeId) : List String :=
  match model.summarize ty with
  | none => []
  | some summary =>
    [summary.kind.word ++ " " ++ summary.name]
      ++ labelled "package" summary.package.toList
      ++ (if summary.isAbstract then ["  abstract"] else [])
      ++ (if summary.userDefined then [] else ["  (referenced only)"])
      ++ labelled "ancestors" ((model.ancestors ty).map model.typeName)
      ++ labelled "interfaces" summary.interfaces
      ++ labelled "dependencies" summary.dependencies
      ++ labelled "children" summary.children
      ++ labelled "implementors" ((model.implementors ty).map model.typeName)
      ++ labelled "methods" ((model.membersOf ty .method).map (·.name))
      ++ labelled "constants" ((model.membersOf ty .constant).map (·.name))

/-- The groups of types that depend on each other in a circle, one a line. -/
def cycleLines (model : Model) : List String :=
  match model.dependencyCycles with
  | [] => ["No dependency cycles found."]
  | groups =>
    ("Dependency cycles (" ++ toString groups.length ++ "):")
      :: groups.map fun group => "  - " ++ String.intercalate " <-> " (group.map model.typeName)

end Model

/-- What a command prints about a model. -/
def Command.output (model : Model) : Command → Except ModelError String
  | .summary _ => .ok (unlines model.stats.lines)
  | .inspect _ name => (model.requireType name).map fun ty => unlines (model.inspectLines ty)
  | .cycles _ => .ok (unlines model.cycleLines)
  | .report _ => .ok (unlines [model.report.text none])

/-- Why nothing is printed. -/
inductive CommandError where
  | load (path : String) (cause : LoadError)
  | refused (cause : ModelError)
  deriving DecidableEq, Repr

def CommandError.message : CommandError → String
  | .load path cause =>
    "Error: failed to load declarations from " ++ path ++ ": " ++ cause.messageWithCause
  | .refused cause => "Error: " ++ cause.message

/-- What is printed, given the bytes of the configuration file and of the
declarations file, if there are such files. -/
def Invocation.run (invocation : Invocation) (config declarations : Option ByteArray) :
    Except CommandError String := do
  let config := Config.ofFile config
  let path := invocation.command.file
  let declarations ← (Declarations.load path declarations).mapError (.load path)
  let model ← (Model.build 0 config.filters config.model.createPlaceholders
    declarations).mapError .refused
  (invocation.command.output model).mapError .refused

end TypeGraph
