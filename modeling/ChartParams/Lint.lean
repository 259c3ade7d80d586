import ChartParams.Json.Path
import ChartParams.Quantity.Basic
import ChartParams.Schema.Basic

/-!
# Linting

`Schema.lint` visits every entry of a schema in a fixed order and adds to a report. An entry either
has issues or gives one check of the value at its path. `Report.checkValues` runs the checks on a
document.
-/

namespace ChartParams

namespace Lint

structure Issue where
  place : String
  complaint : String
deriving DecidableEq

def Issue.text (issue : Issue) : String := issue.place ++ ": " ++ issue.complaint

inductive Expectation
  | boolean
  | string
  | integer
  | number
  /-- An object or an array, or null. -/
  | structured
  /-- A quantity in `Mi` or `Gi`. -/
  | memory
  /-- A number of cores, as a number or a quantity. -/
  | cpu
  | env
  | storage
  | any
deriving DecidableEq

namespace Expectation

def name : Expectation → String
  | boolean => "boolean"
  | string => "string"
  | integer => "integer"
  | number => "number"
  | structured => "structured"
  | memory => "memory"
  | cpu => "cpu"
  | env => "env"
  | storage => "storage"
  | any => "any"

def all : List Expectation :=
  [boolean, string, integer, number, structured, memory, cpu, env, storage, any]

def ofName? (name : String) : Option Expectation :=
  all.find? fun expectation => expectation.name == name

def description : Expectation → String
  | boolean => "boolean"
  | string => "string"
  | integer => "integer"
  | number => "number"
  | structured => "object or array"
  | memory => "memory quantity (eg: 4Gi, 400Mi)"
  | cpu => "cpu quantity"
  | env => "env list"
  | storage => "storage object"
  | any => "any value"

def ofKind : Option Kind → Expectation
  | some .boolean => boolean
  | some .string | some .text => string
  | some .int => integer
  | some .float => number
  | some .yaml | some .json | some .keyValue => structured
  | some .unknown | none => any

def isQuantity (text : String) : Bool :=
  match Quantity.parse .wraps text with
  | .ok _ => true
  | .error _ => false

def endsWith (text ending : String) : Bool := ending.toList.isSuffixOf text.toList

def hasName (item : Json) : Bool :=
  match item.member? "name" with
  | some (.str _) => true
  | _ => false

def accepts : Expectation → Json → Bool
  | any, _ => true
  | boolean, .bool _ => true
  | string, .str _ => true
  | integer, .num (.int _ _) => true
  | number, .num _ => true
  | structured, .null | structured, .obj _ | structured, .arr _ => true
  | memory, .str s => (endsWith s "Mi" || endsWith s "Gi") && isQuantity s
  | cpu, .num _ => true
  | cpu, .str s => isQuantity s
  | env, .null => true
  | env, .arr items => items.all hasName
  | storage, .null | storage, .obj _ => true
  | _, _ => false

end Expectation

structure Check where
  mapKey : String
  isRequired : Bool
  expectation : Expectation
deriving DecidableEq

def Check.issue? (check : Check) (doc : Json) : Option Issue :=
  match doc.get? check.mapKey with
  | none =>
      if check.isRequired then
        some ⟨check.mapKey, "required key not found in values"⟩
      else
        none
  | some value =>
      if check.expectation.accepts value then
        none
      else
        some ⟨check.mapKey,
          "type error in values, " ++ check.expectation.description ++ " expected"⟩

def Check.toJson (check : Check) : Json :=
  .obj [("mapKey", .str check.mapKey), ("required", .bool check.isRequired),
    ("expect", .str check.expectation.name)]

/-- The issues of a schema and the checks for documents. -/
structure Report where
  issues : List Issue
  checks : List Check
deriving DecidableEq

namespace Report

def isClean (report : Report) : Bool := report.issues.isEmpty

def checkValues (report : Report) (doc : Json) : List Issue :=
  report.checks.filterMap (·.issue? doc)

def issue (report : Report) (place complaint : String) : Report :=
  { report with issues := report.issues ++ [⟨place, complaint⟩] }

def check (report : Report) (check : Check) : Report :=
  { report with checks := report.checks ++ [check] }

def complain (report : Report) (applies : Bool) (place complaint : String) : Report :=
  if applies then report.issue place complaint else report

def requireAll (report : Report) (place : String) (fields : List (String × String)) : Report :=
  fields.foldl
    (fun report (name, value) => report.complain value.isEmpty place (name ++ " required")) report

/-- A check, unless there are more issues than before. -/
def checkUnlessMore (report : Report) (before : Nat) (check : Check) : Report :=
  if report.issues.length = before then report.check check else report

/-- A visit to each member of a list, at its place in the list. -/
def indexed {α : Type} (report : Report) (visit : Report → String → α → Report) (place : String)
    (entries : List α) : Report :=
  entries.zipIdx.foldl
    (fun report (entry, index) => visit report (place ++ "[" ++ toString index ++ "]") entry) report

def dependency (report : Report) (place : String) (entry : Schema.Dependency) : Report :=
  report.requireAll place
    [("name", entry.name), ("minVersion", entry.minVersion), ("maxVersion", entry.maxVersion),
      ("aliasConfigVar", entry.aliasConfigVar)]

def plugin (report : Report) (place : String) (entry : Schema.Plugin) : Report :=
  report.requireAll place [("name", entry.name), ("version", entry.version), ("args", entry.args)]

def knob {type : KnobType} (report : Report) (place : String) (expectation : Expectation) :
    Option (Schema.Knob type) → Report
  | none => report
  | some entry =>
      if entry.mapKey.isEmpty then
        report.issue place "mapKey required"
      else
        report.check ⟨entry.mapKey, entry.isRequired, expectation⟩

def kind (report : Report) (place : String) : Option Kind → Report
  | none => report.issue place "type required"
  | some .unknown => report.issue place "type not supported"
  | some _ => report

def parameter (report : Report) (place : String) (entry : Schema.Parameter) : Report :=
  let before := report.issues.length
  report
    |>.complain entry.name.isEmpty place "name required"
    |>.complain entry.mapKey.isEmpty place "mapKey required"
    |>.kind place entry.kind
    |>.checkUnlessMore before ⟨entry.mapKey, entry.isRequired, .ofKind entry.kind⟩

def storage (report : Report) (place : String) (entry : Schema.Storage) : Report :=
  let before := report.issues.length
  report
    |>.complain entry.name.isEmpty place "name required"
    |>.complain entry.mapKey.isEmpty place "mapKey required"
    |>.checkUnlessMore before ⟨entry.mapKey, entry.isRequired, .storage⟩

def roleBase (report : Report) (place : String) (entry : Schema.RoleBase) : Report :=
  report
    |>.knob (place ++ ".image") .string entry.image
    |>.knob (place ++ ".priority") .integer entry.priority
    |>.knob (place ++ ".replicas") .integer entry.replicas
    |>.knob (place ++ ".env") .env entry.env
    |>.knob (place ++ ".useHostNetwork") .boolean entry.useHostNetwork
    |>.indexed parameter (place ++ ".others") entry.others

def resources (report : Report) (place : String) (entry : Schema.Resources) : Report :=
  report
    |>.knob (place ++ ".limitsCpu") .cpu entry.limitsCpu
    |>.knob (place ++ ".limitsMemory") .memory entry.limitsMemory
    |>.knob (place ++ ".limitsGpu") .cpu entry.limitsGpu
    |>.knob (place ++ ".requestsMemory") .memory entry.requestsMemory
    |>.knob (place ++ ".requestsCpu") .cpu entry.requestsCpu
    |>.knob (place ++ ".requestsGpu") .cpu entry.requestsGpu
    |>.indexed storage (place ++ ".storageResources") entry.storageResources

def role (report : Report) (place : String) (entry : Schema.Role) : Report :=
  let described := report
    |>.complain entry.name.isEmpty place "name required"
    |>.complain entry.type.isEmpty place "type required"
  let based := match entry.base with
    | some base => described.roleBase (place ++ ".baseConfig") base
    | none => described
  match entry.resources with
  | some bundle => based.resources (place ++ ".resources") bundle
  | none => based

end Report

end Lint

def Schema.lint (schema : Schema) : Lint.Report :=
  Lint.Report.mk [] []
    |>.complain schema.friendlyName.isEmpty "friendlyName" "friendlyName required"
    |>.indexed Lint.Report.dependency "dependencies" schema.dependencies
    |>.indexed Lint.Report.role "roles" schema.roles
    |>.indexed Lint.Report.parameter "params" schema.params
    |>.indexed Lint.Report.plugin "plugins" schema.plugins

end ChartParams
