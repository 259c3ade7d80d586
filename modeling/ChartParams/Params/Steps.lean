import ChartParams.Params.Basic
import ChartParams.Schema.Basic

/-!
# What a parameter list writes

A parameter list is turned into steps: values to write at paths, and notices about values that the
schema does not know. The steps of a bundle make a document of their own, a part; the other
parameters of a role make a part inside its basic part. Values that are missing, knobs that the
schema lacks and entries without a path make no step.
-/

namespace ChartParams

inductive Step
  /-- Write a value at a path. Making the value may have failed. -/
  | write (path : String) (content : Except Error Json)
  | notice (notice : Notice)

/-- A document that is built on its own: its steps, and steps for a document merged into it. -/
structure Part where
  steps : List Step
  others : List Step

namespace Params

def lastNamed? {α : Type} (nameOf : α → String) (name : String) (entries : List α) : Option α :=
  entries.reverse.find? fun entry => nameOf entry == name

def Parameter.steps (known : List Schema.Parameter) (parameter : Parameter) : List Step :=
  match lastNamed? Schema.Parameter.name parameter.name known with
  | none => [.notice (.unknownParameter parameter.name)]
  | some entry =>
      if entry.mapKey.isEmpty then [] else [.write entry.mapKey (Writing.payload parameter.payload)]

def knobSteps {type : KnobType} (knob : Option (Schema.Knob type)) (value : Option type.Value) :
    List Step :=
  match knob, value with
  | some knob, some value =>
      if knob.mapKey.isEmpty then [] else [.write knob.mapKey (.ok (type.write value))]
  | _, _ => []

def Storage.steps (known : List Schema.Storage) (storage : Storage) : List Step :=
  match storage.request with
  | none => []
  | some request =>
      match lastNamed? Schema.Storage.name storage.name known with
      | none => [.notice (.unknownStorage storage.name)]
      | some entry =>
          if entry.mapKey.isEmpty then
            []
          else
            [.write entry.mapKey (.ok (Writing.storage (some request)))]

/-- A list of environment variables that sets anything. -/
def someVariables (env : Option (List EnvVar)) : Option (List EnvVar) :=
  env.filter fun list => !list.isEmpty

def RoleBase.part (schema : Schema.RoleBase) (values : RoleBase) : Part where
  steps :=
    knobSteps schema.image values.image ++
    knobSteps schema.useHostNetwork values.useHostNetwork ++
    knobSteps schema.priority values.priority ++
    knobSteps schema.env (someVariables values.env) ++
    knobSteps schema.replicas values.replicas
  others := values.others.flatMap (·.steps schema.others)

def Resources.part (schema : Schema.Resources) (values : Resources) : Part where
  steps :=
    knobSteps schema.limitsMemory values.limitsMemory ++
    knobSteps schema.limitsGpu values.limitsGpu ++
    knobSteps schema.limitsCpu values.limitsCpu ++
    knobSteps schema.requestsMemory values.requestsMemory ++
    knobSteps schema.requestsGpu values.requestsGpu ++
    knobSteps schema.requestsCpu values.requestsCpu ++
    values.storageResources.flatMap (·.steps schema.storageResources)
  others := []

def Role.parts (known : List Schema.Role) (role : Role) : List Part :=
  match lastNamed? Schema.Role.name role.name known with
  | none => [⟨[.notice (.unknownRole role.name)], []⟩]
  | some entry =>
      (match entry.base, role.base with
        | some schema, some values => [values.part schema]
        | _, _ => []) ++
      (match entry.resources, role.resources with
        | some schema, some values => [values.part schema]
        | _, _ => [])

/-- The parts of a parameter list, in the order in which they are merged. -/
def parts (schema : Schema) (params : Params) : List Part :=
  ⟨params.params.flatMap (·.steps schema.params), []⟩ ::
    params.roles.flatMap (·.parts schema.roles)

end Params

end ChartParams
