/-!
# Kinds of parameters

The declared type of a parameter. A name that is no kind stands for `unknown` and is not kept.
-/

namespace ChartParams

inductive Kind
  | string
  | int
  | float
  | boolean
  | yaml
  | json
  | keyValue
  | text
  | unknown
deriving DecidableEq

namespace Kind

def name : Kind → String
  | string => "string"
  | int => "int"
  | float => "float"
  | boolean => "boolean"
  | yaml => "yaml"
  | json => "json"
  | keyValue => "kvPair"
  | text => "text"
  | unknown => "unknown"

/-- Every kind that has a name of its own. -/
def known : List Kind := [string, int, float, boolean, yaml, json, keyValue, text]

def ofName (name : String) : Kind := (known.find? fun kind => kind.name == name).getD unknown

@[simp]
theorem ofName_name (kind : Kind) : ofName kind.name = kind := by
  cases kind <;> decide

end Kind

end ChartParams
