import ChartParams.Params.Basic

/-!
# The format of parameter lists

Keys that a record does not know are left out without a fault.
-/

namespace ChartParams

namespace Params

def Parameter.record : Record Parameter where
  name := "CommonConfigValue"
  isStrict := false
  make := Parameter.mk
  fields :=
    .field (.required "name" .text Parameter.name) <|
    .field (.omittable "type" .kind Parameter.kind) <|
    .field (.plain "value" .text Parameter.payload "") <|
    .done

def RoleBase.record : Record RoleBase where
  name := "RoleBaseConfigValue"
  isStrict := false
  make := RoleBase.mk
  fields :=
    .field (.omittable "image" (KnobType.format .text) RoleBase.image) <|
    .field (.omittable "priority" (KnobType.format .integer) RoleBase.priority) <|
    .field (.omittable "replicas" (KnobType.format .integer) RoleBase.replicas) <|
    .field (.omittable "env" (KnobType.format .environment) RoleBase.env) <|
    .field (.omittable "useHostNetwork" (KnobType.format .flag) RoleBase.useHostNetwork) <|
    .field (.plain "others" (.list Parameter.record.format) RoleBase.others []) <|
    .done

def Storage.record : Record Storage where
  name := "StorageConfigValue"
  isStrict := false
  make := Storage.mk
  fields :=
    .field (.required "name" .text Storage.name) <|
    .field (.nullable "value" StorageSpec.record.format Storage.request) <|
    .done

def Resources.record : Record Resources where
  name := "ResourceConfigValue"
  isStrict := false
  make := Resources.mk
  fields :=
    .field (.omittable "limitsMemory" (KnobType.format .memory) Resources.limitsMemory) <|
    .field (.omittable "limitsCpu" (KnobType.format .cores) Resources.limitsCpu) <|
    .field (.omittable "limitsGpu" (KnobType.format .cores) Resources.limitsGpu) <|
    .field (.omittable "requestsMemory" (KnobType.format .memory) Resources.requestsMemory) <|
    .field (.omittable "requestsCpu" (KnobType.format .cores) Resources.requestsCpu) <|
    .field (.omittable "requestsGpu" (KnobType.format .cores) Resources.requestsGpu) <|
    .field (.plain "storageResources" (.list Storage.record.format)
      Resources.storageResources []) <|
    .done

def Role.record : Record Role where
  name := "RoleConfigValue"
  isStrict := false
  make := Role.mk
  fields :=
    .field (.required "name" .text Role.name) <|
    .field (.omittable "baseConfig" RoleBase.record.format Role.base) <|
    .field (.omittable "resources" Resources.record.format Role.resources) <|
    .done

def record : Record Params where
  name := "MetaInfoParams"
  isStrict := false
  make := Params.mk
  fields :=
    .field (.plain "params" (.list Parameter.record.format) Params.params []) <|
    .field (.plain "roles" (.list Role.record.format) Params.roles []) <|
    .field (.plain "customParams" (.dictionary .text) Params.customParams []) <|
    .done

def ofJson (doc : Json) : Except FormatFault Params := record.decode doc

def toJson (params : Params) : Json := record.format.encode params

end Params

end ChartParams
