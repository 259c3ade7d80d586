import ChartParams.Knob.Value

/-!
# Schemas

The schema of a chart says which parts of its values a user may tune: parameters at the top, and
for every role a bundle of basic knobs, a bundle of resources, and its health checks. Every entry
names the path of its value, its map key.
-/

namespace ChartParams

namespace Schema

structure Dependency where
  name : String
  minVersion : String
  maxVersion : String
  isOptional : Bool
  aliasConfigVar : String
  chartName : String
  type : String
deriving DecidableEq

/-- Whether a dependency is met by the chart of the same name. -/
def Dependency.isAutomatic (dependency : Dependency) : Bool :=
  !dependency.name.isEmpty &&
    (dependency.chartName.isEmpty || dependency.chartName == dependency.name)

structure Plugin where
  name : String
  version : String
  args : String
  isDisabled : Bool
deriving DecidableEq

/-- A parameter of any shape, which the parameter list addresses by its name. -/
structure Parameter where
  name : String
  mapKey : String
  defaultValue : Option Json
  description : String
  kind : Option Kind
  isRequired : Bool

structure Knob (type : KnobType) where
  mapKey : String
  defaultValue : type.Value
  description : String
  kind : Option Kind
  isRequired : Bool

def Knob.new (type : KnobType) (mapKey : String) : Knob type :=
  ⟨mapKey, type.zero, "", none, false⟩

structure Storage where
  name : String
  mapKey : String
  defaultValue : Option StorageSpec
  description : String
  type : String
  isRequired : Bool
deriving DecidableEq

structure HealthProbe where
  isDefined : Bool
  isEnabled : Bool
deriving DecidableEq

structure HealthChecks where
  readinessProbe : Option HealthProbe
  livenessProbe : Option HealthProbe
deriving DecidableEq

structure RoleBase where
  image : Option (Knob .text)
  priority : Option (Knob .integer)
  replicas : Option (Knob .integer)
  env : Option (Knob .environment)
  useHostNetwork : Option (Knob .flag)
  others : List Parameter

structure Resources where
  limitsMemory : Option (Knob .memory)
  limitsCpu : Option (Knob .cores)
  limitsGpu : Option (Knob .cores)
  requestsMemory : Option (Knob .memory)
  requestsCpu : Option (Knob .cores)
  requestsGpu : Option (Knob .cores)
  storageResources : List Storage

structure Role where
  name : String
  description : String
  type : String
  base : Option RoleBase
  resources : Option Resources
  healthChecks : Option HealthChecks

end Schema

structure Schema where
  friendlyName : String
  categories : List String
  dependencies : List Schema.Dependency
  roles : List Schema.Role
  params : List Schema.Parameter
  plugins : List Schema.Plugin
  /-- Parameters that are handed on unchanged, sorted by name. -/
  customParams : List (String × String)

def Schema.role? (schema : Schema) (name : String) : Option Schema.Role :=
  schema.roles.find? fun role => role.name == name

end ChartParams
