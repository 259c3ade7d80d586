import ChartParams.Payload

/-!
# Parameter lists

The flat list of values that a user sees and edits. Each value belongs to an entry of the schema; a
value that is missing is not being set and leaves the documents alone.
-/

namespace ChartParams

namespace Params

/-- The value of a parameter, as a payload. An empty payload sets it to null. -/
structure Parameter where
  name : String
  kind : Option Kind
  payload : String
deriving DecidableEq

structure RoleBase where
  image : Option String
  priority : Option Int64
  replicas : Option Int64
  env : Option (List EnvVar)
  useHostNetwork : Option Bool
  others : List Parameter
deriving DecidableEq

structure Storage where
  name : String
  request : Option StorageSpec
deriving DecidableEq

structure Resources where
  limitsMemory : Option Int64
  limitsCpu : Option Binary64
  limitsGpu : Option Binary64
  requestsMemory : Option Int64
  requestsCpu : Option Binary64
  requestsGpu : Option Binary64
  storageResources : List Storage
deriving DecidableEq

structure Role where
  name : String
  base : Option RoleBase
  resources : Option Resources
deriving DecidableEq

namespace Parameter

def ofPayload (name : String) (kind : Kind) (value : Payload) : Except Error Parameter := do
  let payload ← value.raw
  .ok ⟨name, some kind, payload⟩

def ofInput (name : String) (kind : Kind) (input : String) : Except Error Parameter := do
  let payload ← (kind.encodeInput input).mapError (.forParameter name)
  .ok ⟨name, some kind, payload⟩

/-- The value of a parameter according to its kind. Without a kind it is any document. -/
def value (parameter : Parameter) : Except Error Payload :=
  ((parameter.kind.getD .unknown).decode parameter.payload).mapError
    (.forParameter parameter.name)

end Parameter

end Params

/-- A flat list of values. -/
structure Params where
  params : List Params.Parameter
  roles : List Params.Role
  customParams : List (String × String)
deriving DecidableEq

end ChartParams
