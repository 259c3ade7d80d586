import ChartParams.Knob.Reading
import ChartParams.Knob.Writing
import ChartParams.Schema.Basic

/-!
# Defaults from documents

`Schema.withDefaults` replaces the default of every entry of a schema by what a document holds.
-/

namespace ChartParams

namespace Schema

def Knob.withDefault {type : KnobType} (knob : Option (Knob type)) (doc : Json) :
    Logged Notice (Option (Knob type)) :=
  Logged.mapOption (fun knob => do
    let value ← type.read doc knob.mapKey
    pure { knob with defaultValue := value }) knob

/-- The default of a parameter is the document at its path, none if there is nothing or null. -/
def Parameter.withDefault (parameter : Parameter) (doc : Json) : Logged Notice Parameter :=
  match Writing.payload (doc.rawAt parameter.mapKey) with
  | .ok .null => pure { parameter with defaultValue := none }
  | .ok value => pure { parameter with defaultValue := some value }
  | .error error =>
      .report (.badDefault parameter.name error) { parameter with defaultValue := none }

def Storage.withDefault (storage : Storage) (doc : Json) : Logged Notice Storage := do
  let request ← Reading.storage doc storage.mapKey
  pure { storage with defaultValue := request }

def RoleBase.withDefaults (base : RoleBase) (doc : Json) : Logged Notice RoleBase := do
  let image ← Knob.withDefault base.image doc
  let replicas ← Knob.withDefault base.replicas doc
  let env ← Knob.withDefault base.env doc
  let useHostNetwork ← Knob.withDefault base.useHostNetwork doc
  let priority ← Knob.withDefault base.priority doc
  let others ← Logged.mapItems (·.withDefault doc) base.others
  pure ⟨image, priority, replicas, env, useHostNetwork, others⟩

def Resources.withDefaults (resources : Resources) (doc : Json) : Logged Notice Resources := do
  let limitsMemory ← Knob.withDefault resources.limitsMemory doc
  let limitsGpu ← Knob.withDefault resources.limitsGpu doc
  let limitsCpu ← Knob.withDefault resources.limitsCpu doc
  let requestsMemory ← Knob.withDefault resources.requestsMemory doc
  let requestsGpu ← Knob.withDefault resources.requestsGpu doc
  let requestsCpu ← Knob.withDefault resources.requestsCpu doc
  let storageResources ← Logged.mapItems (·.withDefault doc) resources.storageResources
  pure ⟨limitsMemory, limitsCpu, limitsGpu, requestsMemory, requestsCpu, requestsGpu,
    storageResources⟩

def Role.withDefaults (role : Role) (doc : Json) : Logged Notice Role := do
  let base ← Logged.mapOption (·.withDefaults doc) role.base
  let resources ← Logged.mapOption (·.withDefaults doc) role.resources
  pure { role with base := base, resources := resources }

/-- The schema with the defaults that a document holds. A null document changes nothing. -/
def withDefaults (schema : Schema) (doc : Json) : Logged Notice Schema :=
  if doc.isNull then
    pure schema
  else do
    let params ← Logged.mapItems (·.withDefault doc) schema.params
    let roles ← Logged.mapItems (·.withDefaults doc) schema.roles
    pure { schema with params := params, roles := roles }

end Schema

end ChartParams
