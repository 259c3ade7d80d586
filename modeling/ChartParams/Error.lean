import ChartParams.Format.Fault
import ChartParams.Json.Merge
import ChartParams.Json.Path
import ChartParams.Kind
import ChartParams.Quantity.Basic

/-!
# Errors

Everything that can go wrong when documents are read, changed or built, with its wording.
-/

namespace ChartParams

inductive PayloadFault
  | numeral (input : String) (fault : NumeralFault)
  | notBoolean (input : String)
  /-- A payload of another kind. -/
  | unexpected (payload : String)
  /-- A number that no document can hold. -/
  | notFinite (value : Binary64)

def PayloadFault.message : PayloadFault → String
  | numeral input fault => "'" ++ input ++ "': " ++ fault.message
  | notBoolean input => "'" ++ input ++ "' is not a boolean"
  | unexpected payload => "unexpected payload " ++ payload
  | notFinite value => Layout.plain.text value ++ " is not a finite number"

inductive Error
  | jsonSyntax
  | yamlSyntax
  | path (path : String) (fault : Path.Fault)
  | mergeTooDeep
  | quantity (error : Quantity.Error)
  /-- A parameter that has no value of its kind. -/
  | parameter (name : String) (kind : Kind) (fault : PayloadFault)
  | schema (fault : FormatFault)
  | override (argument : String)

namespace Error

def message : Error → String
  | jsonSyntax => "Failed to parse JSON"
  | yamlSyntax => "Failed to parse YAML"
  | path location .emptyKey => "Invalid path '" ++ location ++ "': empty key segment"
  | path location (.notObject key) =>
      "Cannot set '" ++ location ++ "': '" ++ key ++ "' is not an object"
  | mergeTooDeep => "Values merge exceeded maximum depth of " ++ toString maxMergeDepth
  | quantity error => error.message
  | parameter name kind fault =>
      "Invalid value for parameter '" ++ name ++ "' of type " ++ kind.name ++ ": " ++ fault.message
  | schema fault => "Invalid meta info: " ++ fault.message
  | override argument =>
      "Values merge error: Invalid --set format: '" ++ argument ++ "'. Expected key=value"

def forParameter (name : String) : Error → Error
  | parameter _ kind fault => parameter name kind fault
  | other => other

end Error

end ChartParams
