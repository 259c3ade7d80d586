import ChartParams.Knob.Writing
import ChartParams.Yaml.Document

/-!
# Payloads

The value of a parameter travels as JSON text, its payload. Reading a payload checks it against the
kind of its parameter; text that a user typed is turned into a payload according to the kind.
-/

namespace ChartParams

inductive Payload
  | null
  | string (value : String)
  | int (value : Int64)
  | float (value : Binary64)
  | flag (value : Bool)
  | structured (value : Json)

namespace Payload

def toJson : Payload → Except Error Json
  | null => .ok .null
  | string s => .ok (.str s)
  | int n => .ok (.ofInt64 n)
  | float x => Writing.float x
  | flag b => .ok (.bool b)
  | structured doc => .ok doc

def raw (value : Payload) : Except Error String := value.toJson.map Json.compact

end Payload

namespace Yaml

def parse (text : String) : Except Error Json :=
  match parse? text with
  | some doc => .ok doc
  | none => .error .yamlSyntax

end Yaml

namespace Kind

/-- The value of this kind that a document holds. `raw` is its text. -/
def ofDocument (kind : Kind) (raw : String) : Json → Except Error Payload
  | .null => .ok .null
  | doc =>
      match kind, doc with
      | string, .str s | text, .str s => .ok (.string s)
      | int, .num n =>
          match n.int64? with
          | some w => .ok (.int w)
          | none => mismatch
      | float, .num n => .ok (.float n.toBinary64)
      | boolean, .bool b => .ok (.flag b)
      | yaml, doc | json, doc | keyValue, doc | unknown, doc => .ok (.structured doc)
      | _, _ => mismatch
where
  mismatch : Except Error Payload := .error (.parameter "" kind (.unexpected raw))

/-- Read a payload. One that holds only blanks is null. -/
def decode (kind : Kind) (raw : String) : Except Error Payload :=
  if (trimBlanks raw.toList).isEmpty then
    .ok .null
  else do
    let doc ← Json.parse raw
    kind.ofDocument raw doc

/-- The payload for a text that a user typed. Text of a structured kind that is already JSON is
passed on as it is. -/
def encodeInput (kind : Kind) (input : String) : Except Error String :=
  match kind with
  | string | text | unknown => (Payload.string input).raw
  | int =>
      match Numeral.readInt64 (trim input) with
      | .ok n => (Payload.int n).raw
      | .error fault => .error (.parameter "" kind (.numeral input fault))
  | float =>
      match Numeral.readBinary64 (trim input) with
      | .ok x => (Payload.float x).raw
      | .error fault => .error (.parameter "" kind (.numeral input fault))
  | boolean =>
      match Reading.flag? input with
      | some b => (Payload.flag b).raw
      | none => .error (.parameter "" kind (.notBoolean input))
  | json | keyValue => (Json.parse input).map fun _ => input
  | yaml => do
      let doc ← Yaml.parse input
      (Payload.structured doc).raw

end Kind

end ChartParams
