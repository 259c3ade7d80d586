import ChartParams.Error
import ChartParams.Json.Printer
import ChartParams.Json.Reader

/-!
# Text at a path

The text of what a path leads to, and writing a document that is given as text.
-/

namespace ChartParams

namespace Json

def parse (text : String) : Except Error Json :=
  match parse? text with
  | some doc => .ok doc
  | none => .error .jsonSyntax

/-- The JSON text at a path, empty if there is nothing. -/
def rawAt (doc : Json) (path : String) : String :=
  match doc.get? path with
  | some value => value.compact
  | none => ""

/-- A string without its quotes, nothing for null, and the JSON text of every other document. -/
def leafText : Json → String
  | null => ""
  | str s => s
  | other => other.compact

/-- The text of the leaf at a path, empty if there is nothing. -/
def textAt (doc : Json) (path : String) : String :=
  match doc.get? path with
  | some value => value.leafText
  | none => ""

def write (doc : Json) (path : String) (value : Json) : Except Error Json :=
  (doc.set path value).mapError (.path path)

def writeRaw (doc : Json) (path raw : String) : Except Error Json := do
  let value ← parse raw
  doc.write path value

end Json

end ChartParams
