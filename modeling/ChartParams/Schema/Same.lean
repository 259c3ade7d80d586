import ChartParams.Schema.Basic

/-!
# Equality of schemas

Two schemas are the same if their entries are, where defaults are compared as documents without
regard to the order of members, and numbers of cores as numbers.
-/

namespace ChartParams

def sameList {α : Type} (same : α → α → Bool) : List α → List α → Bool
  | [], [] => true
  | x :: xs, y :: ys => same x y && sameList same xs ys
  | _, _ => false

def sameOption {α : Type} (same : α → α → Bool) : Option α → Option α → Bool
  | none, none => true
  | some x, some y => same x y
  | _, _ => false

namespace Schema

def Parameter.same (a b : Parameter) : Bool :=
  a.name == b.name && a.mapKey == b.mapKey &&
    sameOption Json.same a.defaultValue b.defaultValue &&
    a.description == b.description && a.kind == b.kind && a.isRequired == b.isRequired

def Knob.same {type : KnobType} (a b : Knob type) : Bool :=
  a.mapKey == b.mapKey && type.same a.defaultValue b.defaultValue &&
    a.description == b.description && a.kind == b.kind && a.isRequired == b.isRequired

def RoleBase.same (a b : RoleBase) : Bool :=
  sameOption Knob.same a.image b.image && sameOption Knob.same a.priority b.priority &&
    sameOption Knob.same a.replicas b.replicas && sameOption Knob.same a.env b.env &&
    sameOption Knob.same a.useHostNetwork b.useHostNetwork &&
    sameList Parameter.same a.others b.others

def Resources.same (a b : Resources) : Bool :=
  sameOption Knob.same a.limitsMemory b.limitsMemory &&
    sameOption Knob.same a.limitsCpu b.limitsCpu &&
    sameOption Knob.same a.limitsGpu b.limitsGpu &&
    sameOption Knob.same a.requestsMemory b.requestsMemory &&
    sameOption Knob.same a.requestsCpu b.requestsCpu &&
    sameOption Knob.same a.requestsGpu b.requestsGpu &&
    a.storageResources == b.storageResources

def Role.same (a b : Role) : Bool :=
  a.name == b.name && a.description == b.description && a.type == b.type &&
    sameOption RoleBase.same a.base b.base &&
    sameOption Resources.same a.resources b.resources && a.healthChecks == b.healthChecks

def same (a b : Schema) : Bool :=
  a.friendlyName == b.friendlyName && a.categories == b.categories &&
    a.dependencies == b.dependencies && sameList Role.same a.roles b.roles &&
    sameList Parameter.same a.params b.params && a.plugins == b.plugins &&
    a.customParams == b.customParams

end Schema

end ChartParams
