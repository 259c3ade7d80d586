import ChartParams.Json.Basic
import ChartParams.Numeric.Layout
import ChartParams.Text.Quoted

/-!
# Why a document does not fit

The reasons why a document cannot be read as a value of a type, and their wording.
-/

namespace ChartParams

inductive Found
  | null
  | boolean (value : Bool)
  | integer (value : Int)
  | float (value : Binary64)
  | text (value : String)
  | sequence
  | map

namespace Found

def describe : Found → String
  | null => "null"
  | boolean true => "boolean \x60true\x60"
  | boolean false => "boolean \x60false\x60"
  | integer n => "integer \x60" ++ toString n ++ "\x60"
  | float x => "floating point \x60" ++ Layout.json.text x ++ "\x60"
  | text s => "string " ++ showText s
  | sequence => "sequence"
  | map => "map"

end Found

def Json.found : Json → Found
  | null => .null
  | bool b => .boolean b
  | num (.int n _) => .integer n
  | num (.float x _) => .float x
  | str s => .text s
  | arr _ => .sequence
  | obj _ => .map

/-- Why a document is no value of a type. -/
inductive FormatFault
  | wrongType (found : Found) (expected : String)
  /-- A document of the right type whose value is not allowed. -/
  | wrongValue (found : Found) (expected : String)
  | unknownField (key : String) (known : List String)
  | missingField (key : String)
  | tooManyItems (count : Nat)
  /-- An array that ends before the required field number `index`. -/
  | tooFewItems (index : Nat) (record : String) (fields : Nat)

namespace FormatFault

def inBackquotes (text : String) : String := "\x60" ++ text ++ "\x60"

def listFields : List String → String
  | [] => "there are no fields"
  | [only] => "expected " ++ inBackquotes only
  | [first, second] => "expected " ++ inBackquotes first ++ " or " ++ inBackquotes second
  | keys => "expected one of " ++ ", ".intercalate (keys.map inBackquotes)

def message : FormatFault → String
  | wrongType found expected => "invalid type: " ++ found.describe ++ ", expected " ++ expected
  | wrongValue found expected => "invalid value: " ++ found.describe ++ ", expected " ++ expected
  | unknownField key known =>
      "unknown field " ++ inBackquotes key ++ ", " ++ listFields known
  | missingField key => "missing field " ++ inBackquotes key
  | tooManyItems count =>
      "invalid length " ++ toString count ++ ", expected fewer elements in array"
  | tooFewItems index record fields =>
      "invalid length " ++ toString index ++ ", expected struct " ++ record ++ " with " ++
        toString fields ++ (if fields = 1 then " element" else " elements")

end FormatFault

end ChartParams
