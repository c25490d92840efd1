import TypeGraph.Declaration
import TypeGraph.Json.Data
import TypeGraph.Text.Lowercase
import TypeGraph.Toml.Data
import TypeGraph.Yaml.Data

/-!
# TypeGraph.DeclarationFile

Declarations files.  The extension of its name says in which format a file
is written.  A file that is not there or holds no text is refused before its
name is looked at, and its name before what it says.
-/

namespace TypeGraph

/-- The formats of declarations files. -/
inductive Format where
  | json
  | yaml
  | toml
  deriving DecidableEq, Repr

namespace Format

def name : Format → String
  | .json => "JSON"
  | .yaml => "YAML"
  | .toml => "TOML"

/-- The format of the files with an extension in ASCII lower case. -/
def ofLowerExtension? : String → Option Format
  | "json" => some .json
  | "yaml" => some .yaml
  | "yml" => some .yaml
  | "toml" => some .toml
  | _ => none

def fileName (path : List Char) : List Char :=
  ((path.reverse.dropWhile (· == '/')).takeWhile (· != '/')).reverse

/-- What follows the last point of a file name, unless that point is the
first character. -/
def extension? (name : List Char) : Option (List Char) :=
  match name.reverse.span (· != '.') with
  | (_, []) => none
  | (_, [_]) => none
  | (extension, _) => some extension.reverse

def ofPath? (path : String) : Option Format :=
  (extension? (fileName path.toList)).bind fun extension =>
    ofLowerExtension? (Text.asciiLowercase (String.ofList extension))

/-- What a text in the format says. -/
def readData? (format : Format) (text : String) : Option Data :=
  match format with
  | .json => Json.readData? text
  | .yaml => Yaml.readData? text
  | .toml => Toml.readData? text

end Format

/-- Why a file cannot be read as text. -/
inductive ReadError where
  /-- There is no such file. -/
  | missing
  /-- The file holds no UTF-8 text. -/
  | notText
  deriving DecidableEq, Repr

/-- What the system says about a file that cannot be read. -/
def ReadError.message : ReadError → String
  | .missing => "No such file or directory (os error 2)"
  | .notText => "stream did not contain valid UTF-8"

/-- Why declarations cannot be loaded from a file. -/
inductive LoadError where
  | unreadable (cause : ReadError)
  /-- The name of the file says no known format. -/
  | unsupported (path : String)
  /-- The text is not well formed, or does not describe declarations. -/
  | malformed (format : Format)
  deriving DecidableEq, Repr

namespace LoadError

def message : LoadError → String
  | .unreadable cause => "IO error: " ++ cause.message
  | .unsupported path => "Unsupported declaration format: " ++ path
  | .malformed format => format.name ++ " error"

/-- The message, with that of its cause after it. -/
def messageWithCause : LoadError → String
  | .unreadable cause => (LoadError.unreadable cause).message ++ ": " ++ cause.message
  | error => error.message

end LoadError

/-- The text in a file, given its bytes, if there are any. -/
def readText (bytes : Option ByteArray) : Except ReadError String :=
  match bytes with
  | none => .error .missing
  | some bytes =>
    match String.fromUTF8? bytes with
    | none => .error .notText
    | some text => .ok text

/-- The declarations in a file, given its path and its bytes, if there are
any. -/
def Declarations.load (path : String) (bytes : Option ByteArray) :
    Except LoadError Declarations := do
  let text ← (readText bytes).mapError .unreadable
  let some format := Format.ofPath? path | throw (.unsupported path)
  match (format.readData? text).bind Declarations.ofData? with
  | some declarations => pure declarations
  | none => throw (.malformed format)

end TypeGraph
