import ChartParams.Attempt
import ChartParams.Params.Steps

/-!
# Building documents from parameter lists

`Params.construct` runs the steps of every part, in an empty document for each, and merges the parts
in their order. The first step that fails ends it.
-/

namespace ChartParams

abbrev Building := Attempt Error Notice

def Step.run (doc : Json) : Step → Building Json
  | notice found => do
      .report found
      pure doc
  | write path content => .lift (content.bind fun value => doc.write path value)

/-- Lay an overlay over a document, keeping its nulls. -/
def Json.mergeOver (doc overlay : Json) : Except Error Json :=
  (doc.merge overlay false).mapError fun _ => .mergeTooDeep

namespace Part

/-- The document of a part. -/
def document (part : Part) : Building Json := do
  let doc ← part.steps.foldlM Step.run (.obj [])
  let others ← part.others.foldlM Step.run (.obj [])
  .lift (doc.mergeOver others)

def mergeInto (doc : Json) (part : Part) : Building Json := do
  let overlay ← part.document
  .lift (doc.mergeOver overlay)

end Part

/-- The document that a parameter list describes. -/
def Params.construct (schema : Schema) (params : Params) : Building Json :=
  (params.parts schema).foldlM Part.mergeInto (.obj [])

end ChartParams
