import ChartParams.Payload
import ChartParams.Schema.Record

/-!
# Loading schemas
-/

namespace ChartParams

namespace Schema

def ofJson (doc : Json) : Except Error Schema := (record.decode doc).mapError .schema

def ofJsonText (text : String) : Except Error Schema := do
  let doc ← Json.parse text
  ofJson doc

def ofYamlText (text : String) : Except Error Schema := do
  let doc ← Yaml.parse text
  ofJson doc

def toJson (schema : Schema) : Json := record.format.encode schema

end Schema

end ChartParams
