import ChartParams.Format.Record
import ChartParams.Schema.Basic

/-!
# The format of schemas

Every record of a schema refuses keys that it does not know, so that a misspelled key does not hide
a knob.
-/

namespace ChartParams

namespace Schema

def Dependency.record : Record Dependency where
  name := "DependencyMetaInfo"
  isStrict := true
  make := Dependency.mk
  fields :=
    .field (.plain "name" .text Dependency.name "") <|
    .field (.plain "minVersion" .text Dependency.minVersion "") <|
    .field (.plain "maxVersion" .text Dependency.maxVersion "") <|
    .field (.plain "dependencyOptional" .flag Dependency.isOptional false) <|
    .field (.plain "aliasConfigVar" .text Dependency.aliasConfigVar "") <|
    .field (.plain "chartName" .text Dependency.chartName "") <|
    .field (.plain "type" .text Dependency.type "") <|
    .done

def Plugin.record : Record Plugin where
  name := "PluginDescriptor"
  isStrict := true
  make := Plugin.mk
  fields :=
    .field (.plain "name" .text Plugin.name "") <|
    .field (.plain "version" .text Plugin.version "") <|
    .field (.plain "args" .text Plugin.args "") <|
    .field (.plain "disable" .flag Plugin.isDisabled false) <|
    .done

def Parameter.record : Record Parameter where
  name := "CommonConfig"
  isStrict := true
  make := Parameter.mk
  fields :=
    .field (.required "name" .text Parameter.name) <|
    .field (.plain "mapKey" .text Parameter.mapKey "") <|
    .field (.omittable "defaultValue" .document Parameter.defaultValue) <|
    .field (.plain "description" .text Parameter.description "") <|
    .field (.omittable "type" .kind Parameter.kind) <|
    .field (.plain "required" .flag Parameter.isRequired false) <|
    .done

def Knob.record (type : KnobType) : Record (Knob type) where
  name := "KnobConfig"
  isStrict := true
  make := Knob.mk
  fields :=
    .field (.plain "mapKey" .text Knob.mapKey "") <|
    .field (.plain "defaultValue" type.format Knob.defaultValue type.zero) <|
    .field (.plain "description" .text Knob.description "") <|
    .field (.omittable "type" .kind Knob.kind) <|
    .field (.plain "required" .flag Knob.isRequired false) <|
    .done

def Storage.record : Record Storage where
  name := "StorageConfig"
  isStrict := true
  make := Storage.mk
  fields :=
    .field (.required "name" .text Storage.name) <|
    .field (.plain "mapKey" .text Storage.mapKey "") <|
    .field (.nullable "defaultValue" StorageSpec.record.format Storage.defaultValue) <|
    .field (.plain "description" .text Storage.description "") <|
    .field (.plain "type" .text Storage.type "") <|
    .field (.plain "required" .flag Storage.isRequired false) <|
    .done

def HealthProbe.record : Record HealthProbe where
  name := "HealthProbeConfig"
  isStrict := true
  make := HealthProbe.mk
  fields :=
    .field (.plain "defined" .flag HealthProbe.isDefined false) <|
    .field (.plain "enable" .flag HealthProbe.isEnabled false) <|
    .done

def HealthChecks.record : Record HealthChecks where
  name := "HealthCheckConfig"
  isStrict := true
  make := HealthChecks.mk
  fields :=
    .field (.nullable "readinessProbe" HealthProbe.record.format HealthChecks.readinessProbe) <|
    .field (.nullable "livenessProbe" HealthProbe.record.format HealthChecks.livenessProbe) <|
    .done

def RoleBase.record : Record RoleBase where
  name := "RoleBaseConfig"
  isStrict := true
  make := RoleBase.mk
  fields :=
    .field (.nullable "image" (Knob.record .text).format RoleBase.image) <|
    .field (.nullable "priority" (Knob.record .integer).format RoleBase.priority) <|
    .field (.nullable "replicas" (Knob.record .integer).format RoleBase.replicas) <|
    .field (.nullable "env" (Knob.record .environment).format RoleBase.env) <|
    .field (.nullable "useHostNetwork" (Knob.record .flag).format RoleBase.useHostNetwork) <|
    .field (.plain "others" (.list Parameter.record.format) RoleBase.others []) <|
    .done

def Resources.record : Record Resources where
  name := "ResourceConfig"
  isStrict := true
  make := Resources.mk
  fields :=
    .field (.nullable "limitsMemory" (Knob.record .memory).format Resources.limitsMemory) <|
    .field (.nullable "limitsCpu" (Knob.record .cores).format Resources.limitsCpu) <|
    .field (.nullable "limitsGpu" (Knob.record .cores).format Resources.limitsGpu) <|
    .field (.nullable "requestsMemory" (Knob.record .memory).format Resources.requestsMemory) <|
    .field (.nullable "requestsCpu" (Knob.record .cores).format Resources.requestsCpu) <|
    .field (.nullable "requestsGpu" (Knob.record .cores).format Resources.requestsGpu) <|
    .field (.plain "storageResources" (.list Storage.record.format)
      Resources.storageResources []) <|
    .done

def Role.record : Record Role where
  name := "RoleConfig"
  isStrict := true
  make := Role.mk
  fields :=
    .field (.required "name" .text Role.name) <|
    .field (.plain "description" .text Role.description "") <|
    .field (.plain "type" .text Role.type "") <|
    .field (.nullable "baseConfig" RoleBase.record.format Role.base) <|
    .field (.nullable "resources" Resources.record.format Role.resources) <|
    .field (.nullable "healthChecks" HealthChecks.record.format Role.healthChecks) <|
    .done

def record : Record Schema where
  name := "ChartMetaInfo"
  isStrict := true
  make := Schema.mk
  fields :=
    .field (.plain "friendlyName" .text Schema.friendlyName "") <|
    .field (.plain "categories" (.list .text) Schema.categories []) <|
    .field (.plain "dependencies" (.list Dependency.record.format) Schema.dependencies []) <|
    .field (.plain "roles" (.list Role.record.format) Schema.roles []) <|
    .field (.plain "params" (.list Parameter.record.format) Schema.params []) <|
    .field (.plain "plugins" (.list Plugin.record.format) Schema.plugins []) <|
    .field (.plain "customParams" (.dictionary .text) Schema.customParams []) <|
    .done

end Schema

end ChartParams
