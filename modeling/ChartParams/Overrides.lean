import ChartParams.Json.Leaf
import ChartParams.Json.Merge

/-!
# Overrides

Arguments of the form `key=value` that set values at paths. What the value is, is inferred from its
text.
-/

namespace ChartParams

namespace Overrides

def splitAtEquals? : List Char → Option (List Char × List Char)
  | [] => none
  | '=' :: rest => some ([], rest)
  | c :: rest => (splitAtEquals? rest).map fun (key, value) => (c :: key, value)

/-- The number that a text spells: a signed word, or else a finite float. -/
def number? (text : String) : Option Number :=
  match Numeral.readInt64 text with
  | .ok n => some (.ofInt64 n)
  | .error _ =>
      match Numeral.readBinary64 text with
      | .ok x => Number.ofBinary64? x
      | .error _ => none

/-- The document that a text stands for. Text that is nothing else is a string. -/
def infer (text : String) : Json :=
  if text == "true" then
    .bool true
  else if text == "false" then
    .bool false
  else if text == "null" then
    .null
  else
    match number? text with
    | some n => .num n
    | none =>
        match text.toList with
        | '[' :: _ | '\x7b' :: _ => (Json.parse? text).getD (.str text)
        | _ => .str text

def apply (doc : Json) (argument : String) : Except Error Json :=
  match splitAtEquals? argument.toList with
  | none => .error (.override argument)
  | some (key, value) => doc.write (String.ofList key) (infer (String.ofList value))

/-- The document that arguments describe. -/
def parse (arguments : List String) : Except Error Json := arguments.foldlM apply (.obj [])

end Overrides

end ChartParams
