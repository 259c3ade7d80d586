import ChartParams.Knob.Reading
import ChartParams.Params.Basic
import ChartParams.Schema.Basic

/-!
# Extracting parameter lists

`Schema.extract` reads the value of every entry of a schema from a document. It never fails; data
that cannot be read gives zero values and notices.
-/

namespace ChartParams

namespace Schema

def Knob.extract {type : KnobType} (knob : Option (Knob type)) (doc : Json) :
    Logged Notice (Option type.Value) :=
  Logged.mapOption (fun knob => type.read doc knob.mapKey) knob

/-- The value of a parameter: the JSON text at its path, empty if there is nothing. -/
def Parameter.extract (parameter : Parameter) (doc : Json) : Params.Parameter :=
  ⟨parameter.name, parameter.kind, doc.rawAt parameter.mapKey⟩

def Storage.extract (storage : Storage) (doc : Json) : Logged Notice Params.Storage := do
  let request ← Reading.storage doc storage.mapKey
  pure ⟨storage.name, request⟩

def RoleBase.extract (base : RoleBase) (doc : Json) : Logged Notice Params.RoleBase := do
  let image ← Knob.extract base.image doc
  let priority ← Knob.extract base.priority doc
  let replicas ← Knob.extract base.replicas doc
  let env ← Knob.extract base.env doc
  let useHostNetwork ← Knob.extract base.useHostNetwork doc
  pure ⟨image, priority, replicas, env, useHostNetwork, base.others.map (·.extract doc)⟩

def Resources.extract (resources : Resources) (doc : Json) : Logged Notice Params.Resources := do
  let limitsMemory ← Knob.extract resources.limitsMemory doc
  let limitsCpu ← Knob.extract resources.limitsCpu doc
  let limitsGpu ← Knob.extract resources.limitsGpu doc
  let requestsMemory ← Knob.extract resources.requestsMemory doc
  let requestsCpu ← Knob.extract resources.requestsCpu doc
  let requestsGpu ← Knob.extract resources.requestsGpu doc
  let storageResources ← Logged.mapItems (·.extract doc) resources.storageResources
  pure ⟨limitsMemory, limitsCpu, limitsGpu, requestsMemory, requestsCpu, requestsGpu,
    storageResources⟩

def Role.extract (role : Role) (doc : Json) : Logged Notice Params.Role := do
  let base ← Logged.mapOption (·.extract doc) role.base
  let resources ← Logged.mapOption (·.extract doc) role.resources
  pure ⟨role.name, base, resources⟩

def extract (schema : Schema) (doc : Json) : Logged Notice Params := do
  let roles ← Logged.mapItems (·.extract doc) schema.roles
  pure ⟨schema.params.map (·.extract doc), roles, schema.customParams⟩

end Schema

end ChartParams
