import ChartParams.Json.Merge
import ChartParams.Overrides
import ChartParams.Params.Record
import ChartParams.Schema.Loading

/-!
# Files of the command line

Loading schemas, values and parameter lists from files. A file is read by a function from paths to
texts, which has nothing to give where no text can be read. `Failure` tells the step that failed
from the others, and the exit code follows from it.
-/

namespace ChartParams.CommandLine

inductive FileRole
  | schema
  | values
  | params
deriving DecidableEq

inductive Failure
  | unreadable (role : FileRole) (path : String)
  /-- A text that holds no schema. -/
  | schema (error : Error)
  /-- Values or overrides that cannot be read or merged. -/
  | values (error : Error)
  /-- A text that holds no document, where a parameter list should be. -/
  | paramsSyntax (error : Error)
  /-- A document that is no parameter list. -/
  | paramsFormat (fault : FormatFault)
  | input (error : Error)
  /-- Parameters from which no document can be built. -/
  | construction (error : Error)
  | issues (errors warnings : Nat)

namespace Failure

/-- The exit code for an error, when nothing else decides it. -/
def codeOf : Error → Nat
  | .schema _ => 4
  | .path .. | .parameter .. | .quantity _ => 3
  | .jsonSyntax | .yamlSyntax | .mergeTooDeep | .override _ => 1

def exitCode : Failure → Nat
  | unreadable .params _ => 1
  | unreadable _ _ => 5
  | schema error | values error | input error => codeOf error
  | paramsSyntax _ | paramsFormat _ => 1
  | construction _ => 3
  | issues .. => 2

def message : Failure → String
  | unreadable .schema path => "Failed to load meta info from " ++ path
  | unreadable .values path => "Failed to load values from " ++ path
  | unreadable .params path => "Failed to read params from " ++ path
  | schema error | values error | input error | construction error => error.message
  | paramsSyntax _ => "Params file is not valid YAML or JSON"
  | paramsFormat fault => "Params file does not match the params format: " ++ fault.message
  | issues errors warnings =>
      "Linting failed with " ++ toString errors ++ " error(s) and " ++ toString warnings ++
        " warning(s)"

end Failure

abbrev Files := String → Option String

namespace Files

def read (files : Files) (role : FileRole) (path : String) : Except Failure String :=
  match files path with
  | some text => .ok text
  | none => .error (.unreadable role path)

/-- The part of a path after the last slash. -/
def fileName (path : String) : List Char :=
  (path.toList.reverse.takeWhile (· != '/')).reverse

/-- Whether a file is named as a JSON file. A name that is nothing but an extension has none. -/
def isNamedJson (path : String) : Bool :=
  let name := fileName path
  let extension := ".json".toList
  extension.isSuffixOf name && name != extension

/-- The schema in a file, written in JSON if the file is named so and else in YAML. -/
def schema (files : Files) (path : String) : Except Failure Schema := do
  let text ← files.read .schema path
  (if isNamedJson path then Schema.ofJsonText text else Schema.ofYamlText text).mapError .schema

def document (files : Files) (path : String) : Except Failure Json := do
  let text ← files.read .values path
  (Yaml.parse text).mapError .values

def mergeValues (deleteNull : Bool) (doc overlay : Json) : Except Failure Json :=
  (doc.merge overlay deleteNull).mapError fun _ => .values .mergeTooDeep

def override (deleteNull : Bool) (overrides : List String) (doc : Json) : Except Failure Json :=
  if overrides.isEmpty then
    .ok doc
  else do
    let overlay ← (Overrides.parse overrides).mapError .values
    mergeValues deleteNull doc overlay

/-- The values in files, from the first to the last, with overrides. -/
def values (files : Files) (paths overrides : List String) : Except Failure Json := do
  let doc ← paths.foldlM (fun doc path => do
    let overlay ← files.document path
    mergeValues false doc overlay) (.obj [])
  override false overrides doc

def params (files : Files) (path : String) : Except Failure Params := do
  let text ← files.read .params path
  let doc ← (Yaml.parse text).mapError .paramsSyntax
  (Params.ofJson doc).mapError .paramsFormat

end Files

/-- A directory of texts without further directories. -/
abbrev Directory := List (String × String)

namespace Directory

def files (directory : Directory) : Files := fun path =>
  let steps := path.splitOn "/"
  let name := steps.getLast?.getD ""
  if path.startsWith "/" ∨ ["", ".", ".."].contains name then
    none
  else if steps.dropLast.all ["", "."].contains then
    directory.lookup name
  else
    none

end Directory

end ChartParams.CommandLine
