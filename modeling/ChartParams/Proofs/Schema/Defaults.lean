import ChartParams.Lint
import ChartParams.Params.Construction
import ChartParams.Proofs.Params.Normalisation
import ChartParams.Schema.Defaults

/-!
# Schemas with the defaults of a document

Populating a schema replaces its defaults and nothing else. `Schema.withoutDefaults` is the rest of
a schema; linting, extracting, building documents and populating again only look at that. The
defaults of the fixed knobs and volumes are the values that are extracted from the same document.
-/

namespace ChartParams

namespace Schema

def Knob.withoutDefault {type : KnobType} (knob : Knob type) : Knob type :=
  { knob with defaultValue := type.zero }

def Parameter.withoutDefault (entry : Parameter) : Parameter := { entry with defaultValue := none }

def Storage.withoutDefault (entry : Storage) : Storage := { entry with defaultValue := none }

def RoleBase.withoutDefaults (base : RoleBase) : RoleBase where
  image := base.image.map (·.withoutDefault)
  priority := base.priority.map (·.withoutDefault)
  replicas := base.replicas.map (·.withoutDefault)
  env := base.env.map (·.withoutDefault)
  useHostNetwork := base.useHostNetwork.map (·.withoutDefault)
  others := base.others.map (·.withoutDefault)

def Resources.withoutDefaults (resources : Resources) : Resources where
  limitsMemory := resources.limitsMemory.map (·.withoutDefault)
  limitsCpu := resources.limitsCpu.map (·.withoutDefault)
  limitsGpu := resources.limitsGpu.map (·.withoutDefault)
  requestsMemory := resources.requestsMemory.map (·.withoutDefault)
  requestsCpu := resources.requestsCpu.map (·.withoutDefault)
  requestsGpu := resources.requestsGpu.map (·.withoutDefault)
  storageResources := resources.storageResources.map (·.withoutDefault)

def Role.withoutDefaults (role : Role) : Role :=
  { role with
    base := role.base.map (·.withoutDefaults)
    resources := role.resources.map (·.withoutDefaults) }

/-- A schema in which no entry has a default of its own. -/
def withoutDefaults (schema : Schema) : Schema :=
  { schema with
    params := schema.params.map (·.withoutDefault)
    roles := schema.roles.map (·.withoutDefaults) }

def Knob.default? {type : KnobType} (knob : Option (Knob type)) : Option type.Value :=
  knob.map (·.defaultValue)

def RoleBase.defaults (base : RoleBase) : Params.RoleBase where
  image := Knob.default? base.image
  priority := Knob.default? base.priority
  replicas := Knob.default? base.replicas
  env := Knob.default? base.env
  useHostNetwork := Knob.default? base.useHostNetwork
  others := []

def Resources.defaults (resources : Resources) : Params.Resources where
  limitsMemory := Knob.default? resources.limitsMemory
  limitsCpu := Knob.default? resources.limitsCpu
  limitsGpu := Knob.default? resources.limitsGpu
  requestsMemory := Knob.default? resources.requestsMemory
  requestsCpu := Knob.default? resources.requestsCpu
  requestsGpu := Knob.default? resources.requestsGpu
  storageResources := resources.storageResources.map fun entry => ⟨entry.name, entry.defaultValue⟩

/-- The defaults of the fixed knobs and volumes of a role, as the values of that role. -/
def Role.defaults (role : Role) : Params.Role where
  name := role.name
  base := role.base.map (·.defaults)
  resources := role.resources.map (·.defaults)

def parameters (schema : Schema) : List Parameter :=
  schema.params ++ schema.roles.flatMap fun role => role.base.toList.flatMap (·.others)

end Schema

def Params.Role.withoutOthers (role : Role) : Role :=
  { role with base := role.base.map fun base => { base with others := [] } }

namespace Lint.Report

theorem indexed_map {α β : Type} (report : Report) (visit : Report → String → β → Report)
    (f : α → β) (place : String) (entries : List α) :
    report.indexed visit place (entries.map f) =
      report.indexed (fun report place entry => visit report place (f entry)) place entries := by
  simp [indexed, List.zipIdx_map, List.foldl_map]

theorem knob_withoutDefault {type : KnobType} (report : Report) (place : String)
    (expectation : Expectation) (entry : Option (Schema.Knob type)) :
    report.knob place expectation (entry.map (·.withoutDefault)) =
      report.knob place expectation entry := by
  cases entry <;> rfl

theorem roleBase_withoutDefaults (report : Report) (place : String) (entry : Schema.RoleBase) :
    report.roleBase place entry.withoutDefaults = report.roleBase place entry := by
  simp only [roleBase, Schema.RoleBase.withoutDefaults, knob_withoutDefault, indexed_map]
  rfl

theorem resources_withoutDefaults (report : Report) (place : String) (entry : Schema.Resources) :
    report.resources place entry.withoutDefaults = report.resources place entry := by
  simp only [resources, Schema.Resources.withoutDefaults, knob_withoutDefault, indexed_map]
  rfl

theorem role_withoutDefaults (report : Report) (place : String) (entry : Schema.Role) :
    report.role place entry.withoutDefaults = report.role place entry := by
  obtain ⟨name, description, type, base, bundle, healthChecks⟩ := entry
  cases base <;> cases bundle <;>
    simp [role, Schema.Role.withoutDefaults, roleBase_withoutDefaults, resources_withoutDefaults]

end Lint.Report

namespace Params

theorem lastNamed?_map {α : Type} (nameOf : α → String) (f : α → α)
    (sameName : ∀ entry, nameOf (f entry) = nameOf entry) (name : String) (entries : List α) :
    lastNamed? nameOf name (entries.map f) = (lastNamed? nameOf name entries).map f := by
  have samePredicate :
      (fun entry => nameOf entry == name) ∘ f = fun entry => nameOf entry == name := by
    funext entry
    rw [Function.comp_apply, sameName]
  rw [lastNamed?, ← List.map_reverse, List.find?_map, samePredicate, lastNamed?]

theorem bundle_map {α β γ : Type} (list : α → β → List γ) (f : α → α) (schema : Option α)
    (values : Option β) :
    bundle list (schema.map f) values = bundle (fun known => list (f known)) schema values := by
  cases schema <;> cases values <;> rfl

theorem Parameter.steps_withoutDefault (known : List Schema.Parameter) (parameter : Parameter) :
    parameter.steps (known.map (·.withoutDefault)) = parameter.steps known := by
  have sameEntry :=
    lastNamed?_map Schema.Parameter.name (·.withoutDefault) (fun _ => rfl) parameter.name known
  rw [steps, steps, sameEntry]
  cases lastNamed? Schema.Parameter.name parameter.name known <;> rfl

theorem Storage.steps_withoutDefault (known : List Schema.Storage) (storage : Storage) :
    storage.steps (known.map (·.withoutDefault)) = storage.steps known := by
  have sameEntry :=
    lastNamed?_map Schema.Storage.name (·.withoutDefault) (fun _ => rfl) storage.name known
  rw [steps, steps, sameEntry]
  cases lastNamed? Schema.Storage.name storage.name known <;> rfl

theorem knobSteps_withoutDefault {type : KnobType} (knob : Option (Schema.Knob type))
    (value : Option type.Value) :
    knobSteps (knob.map (·.withoutDefault)) value = knobSteps knob value := by
  cases knob <;> cases value <;> rfl

theorem RoleBase.part_withoutDefaults (schema : Schema.RoleBase) (values : RoleBase) :
    values.part schema.withoutDefaults = values.part schema := by
  simp only [part, Schema.RoleBase.withoutDefaults, knobSteps_withoutDefault,
    Parameter.steps_withoutDefault]

theorem Resources.part_withoutDefaults (schema : Schema.Resources) (values : Resources) :
    values.part schema.withoutDefaults = values.part schema := by
  simp only [part, Schema.Resources.withoutDefaults, knobSteps_withoutDefault,
    Storage.steps_withoutDefault]

theorem Role.parts_withoutDefaults (known : List Schema.Role) (role : Role) :
    role.parts (known.map (·.withoutDefaults)) = role.parts known := by
  have sameEntry :=
    lastNamed?_map Schema.Role.name (·.withoutDefaults) (fun _ => rfl) role.name known
  cases isKnown : lastNamed? Schema.Role.name role.name known with
  | none =>
      rw [isKnown] at sameEntry
      rw [parts, parts, sameEntry, isKnown]
      rfl
  | some entry =>
      rw [isKnown] at sameEntry
      rw [Role.parts_eq_bundle sameEntry, Role.parts_eq_bundle isKnown]
      simp only [Schema.Role.withoutDefaults, bundle_map, RoleBase.part_withoutDefaults,
        Resources.part_withoutDefaults]

theorem construct_withoutDefaults (schema : Schema) (params : Params) :
    params.construct schema.withoutDefaults = params.construct schema := by
  simp only [construct, parts, Schema.withoutDefaults, Parameter.steps_withoutDefault,
    Role.parts_withoutDefaults]

end Params

namespace Schema

variable {doc : Json}

theorem lint_withoutDefaults (schema : Schema) : schema.withoutDefaults.lint = schema.lint := by
  simp only [lint, withoutDefaults, Lint.Report.indexed_map, Lint.Report.role_withoutDefaults]
  rfl

theorem Knob.extract_withoutDefault {type : KnobType} (knob : Option (Knob type)) :
    Knob.extract (knob.map (·.withoutDefault)) doc = Knob.extract knob doc := by
  cases knob <;> rfl

theorem RoleBase.extract_withoutDefaults (base : RoleBase) :
    base.withoutDefaults.extract doc = base.extract doc := by
  simp only [RoleBase.extract, RoleBase.withoutDefaults, Knob.extract_withoutDefault, List.map_map]
  rfl

theorem Resources.extract_withoutDefaults (resources : Resources) :
    resources.withoutDefaults.extract doc = resources.extract doc := by
  simp only [Resources.extract, Resources.withoutDefaults, Knob.extract_withoutDefault,
    Logged.mapItems_map]
  rfl

theorem Role.extract_withoutDefaults (role : Role) :
    role.withoutDefaults.extract doc = role.extract doc := by
  simp only [Role.extract, Role.withoutDefaults, Logged.mapOption_map,
    RoleBase.extract_withoutDefaults, Resources.extract_withoutDefaults]

theorem extract_withoutDefaults (schema : Schema) (doc : Json) :
    schema.withoutDefaults.extract doc = schema.extract doc := by
  simp only [extract, withoutDefaults, Logged.mapItems_map, Role.extract_withoutDefaults,
    List.map_map]
  rfl

theorem Knob.withDefault_withoutDefault {type : KnobType} (knob : Option (Knob type)) :
    Knob.withDefault (knob.map (·.withoutDefault)) doc = Knob.withDefault knob doc := by
  cases knob <;> rfl

theorem Parameter.withDefault_withoutDefault (entry : Parameter) :
    entry.withoutDefault.withDefault doc = entry.withDefault doc := by
  simp only [withDefault, withoutDefault]

theorem RoleBase.withDefaults_withoutDefaults (base : RoleBase) :
    base.withoutDefaults.withDefaults doc = base.withDefaults doc := by
  simp only [withDefaults, withoutDefaults, Knob.withDefault_withoutDefault, Logged.mapItems_map,
    Parameter.withDefault_withoutDefault]

theorem Resources.withDefaults_withoutDefaults (resources : Resources) :
    resources.withoutDefaults.withDefaults doc = resources.withDefaults doc := by
  simp only [withDefaults, withoutDefaults, Knob.withDefault_withoutDefault, Logged.mapItems_map]
  rfl

theorem Role.withDefaults_withoutDefaults (role : Role) :
    role.withoutDefaults.withDefaults doc = role.withDefaults doc := by
  simp only [withDefaults, withoutDefaults, Logged.mapOption_map,
    RoleBase.withDefaults_withoutDefaults, Resources.withDefaults_withoutDefaults]

/-- Populating a schema does not look at the defaults that it had, unless the document is null. -/
theorem withDefaults_withoutDefaults (schema : Schema) (notNull : doc.isNull = false) :
    schema.withoutDefaults.withDefaults doc = schema.withDefaults doc := by
  simp only [withDefaults, withoutDefaults, notNull, Bool.false_eq_true, if_false,
    Logged.mapItems_map, Parameter.withDefault_withoutDefault, Role.withDefaults_withoutDefaults]

theorem Knob.withoutDefault_withDefault {type : KnobType} (knob : Option (Knob type)) :
    (Knob.withDefault knob doc).value.map (·.withoutDefault) = knob.map (·.withoutDefault) := by
  cases knob <;> rfl

theorem Parameter.withoutDefault_withDefault (entry : Parameter) :
    (entry.withDefault doc).value.withoutDefault = entry.withoutDefault := by
  unfold withDefault
  split <;> rfl

theorem RoleBase.withoutDefaults_withDefaults (base : RoleBase) :
    (base.withDefaults doc).value.withoutDefaults = base.withoutDefaults := by
  simp [withDefaults, withoutDefaults, Knob.withoutDefault_withDefault,
    Parameter.withoutDefault_withDefault]

theorem Resources.withoutDefaults_withDefaults (resources : Resources) :
    (resources.withDefaults doc).value.withoutDefaults = resources.withoutDefaults := by
  simp [withDefaults, withoutDefaults, Knob.withoutDefault_withDefault, Storage.withDefault,
    Storage.withoutDefault]

theorem Role.withoutDefaults_withDefaults (role : Role) :
    (role.withDefaults doc).value.withoutDefaults = role.withoutDefaults := by
  simp [withDefaults, withoutDefaults, RoleBase.withoutDefaults_withDefaults,
    Resources.withoutDefaults_withDefaults, Function.comp_def]

theorem withoutDefaults_withDefaults (schema : Schema) (doc : Json) :
    (schema.withDefaults doc).value.withoutDefaults = schema.withoutDefaults := by
  unfold withDefaults
  split
  · rfl
  · simp [withoutDefaults, Role.withoutDefaults_withDefaults, Parameter.withoutDefault_withDefault,
      Function.comp_def]

theorem Knob.default?_withDefault {type : KnobType} (knob : Option (Knob type)) :
    Knob.default? (Knob.withDefault knob doc).value = (Knob.extract knob doc).value := by
  cases knob <;> rfl

theorem RoleBase.defaults_withDefaults (base : RoleBase) :
    (base.withDefaults doc).value.defaults = { (base.extract doc).value with others := [] } := by
  simp [withDefaults, defaults, extract, Knob.default?_withDefault]

theorem Resources.defaults_withDefaults (resources : Resources) :
    (resources.withDefaults doc).value.defaults = (resources.extract doc).value := by
  simp [withDefaults, defaults, extract, Knob.default?_withDefault, Storage.withDefault,
    Storage.extract]

theorem Role.defaults_withDefaults (role : Role) :
    (role.withDefaults doc).value.defaults = (role.extract doc).value.withoutOthers := by
  simp [withDefaults, defaults, extract, Params.Role.withoutOthers, RoleBase.defaults_withDefaults,
    Resources.defaults_withDefaults, Function.comp_def]

theorem Parameter.defaultValue_withDefault (reparses : doc.Reparses) (entry : Parameter) :
    (entry.withDefault doc).value.defaultValue =
      (doc.get? entry.mapKey).filter fun value => !value.isNull := by
  unfold withDefault
  cases found : doc.get? entry.mapKey with
  | none =>
      rw [Json.rawAt, found]
      rfl
  | some value =>
      rw [Json.rawAt, found]
      dsimp only
      rw [(payload_compact_of_get? reparses found).2]
      cases value <;> rfl

theorem Parameter.mapKey_withDefault (entry : Parameter) :
    (entry.withDefault doc).value.mapKey = entry.mapKey := by
  unfold withDefault
  split <;> rfl

theorem parameters_withDefaults (schema : Schema) (notNull : doc.isNull = false) :
    (schema.withDefaults doc).value.parameters =
      schema.parameters.map fun entry => (entry.withDefault doc).value := by
  have others (role : Role) : (role.withDefaults doc).value.base.toList.flatMap (·.others) =
      (role.base.toList.flatMap (·.others)).map fun entry => (entry.withDefault doc).value := by
    obtain ⟨name, description, type, base, bundle, healthChecks⟩ := role
    cases base <;> simp [Role.withDefaults, RoleBase.withDefaults]
  simp [withDefaults, notNull, parameters, others, List.flatMap_map, List.map_flatMap]

/-- A null document changes no default. Any other document makes the defaults of the fixed knobs and
volumes the values that are extracted from it, and those of the parameters what it holds at their
map keys. Nothing else changes, so whatever is done with the schema has the same result as
before. -/
theorem withDefaults_extract (schema : Schema) :
    schema.withDefaults .null = pure schema ∧
    ∀ doc : Json, doc.isNull = false → doc.Reparses →
      let populated := (schema.withDefaults doc).value
      populated.roles.map (·.defaults) = (schema.extract doc).value.roles.map (·.withoutOthers) ∧
      (∀ entry ∈ populated.parameters,
        entry.defaultValue = (doc.get? entry.mapKey).filter fun value => !value.isNull) ∧
      populated.withoutDefaults = schema.withoutDefaults ∧
      populated.lint = schema.lint ∧
      (∀ other, populated.extract other = schema.extract other) ∧
      (∀ params : Params, params.construct populated = params.construct schema) ∧
      (populated.withDefaults doc).value = populated := by
  refine ⟨rfl, fun doc notNull reparses => ?_⟩
  intro populated
  have rest : populated.withoutDefaults = schema.withoutDefaults :=
    withoutDefaults_withDefaults schema doc
  refine ⟨?_, ?_, rest, ?_, fun other => ?_, fun params => ?_, ?_⟩
  · have roles : populated.roles = schema.roles.map fun role => (role.withDefaults doc).value := by
      simp [populated, withDefaults, notNull]
    rw [roles, roles_extract, List.map_map, List.map_map]
    exact List.map_congr_left fun role _ => Role.defaults_withDefaults role
  · have parameters := parameters_withDefaults schema notNull
    intro entry membership
    rw [parameters] at membership
    obtain ⟨source, -, rfl⟩ := List.mem_map.mp membership
    rw [Parameter.mapKey_withDefault]
    exact Parameter.defaultValue_withDefault reparses source
  · rw [← lint_withoutDefaults, rest, lint_withoutDefaults]
  · rw [← extract_withoutDefaults, rest, extract_withoutDefaults]
  · rw [← Params.construct_withoutDefaults, rest, Params.construct_withoutDefaults]
  · rw [← withDefaults_withoutDefaults populated notNull, rest,
      withDefaults_withoutDefaults schema notNull]

/-- An image that is no text, an amount in another unit, and a parameter that is null. -/
theorem withDefaults_extract_role :
    let schema : Schema := {
      friendlyName := "", categories := [], dependencies := [], plugins := [], customParams := []
      params := [⟨"tree", "top.tree", none, "", none, false⟩,
        ⟨"gone", "top.gone", some (.bool true), "", none, false⟩]
      roles := [⟨"web", "", "",
        some ⟨some (.new .text "web.image"), some (.new .integer "web.priority"), none, none, none,
          [⟨"mode", "web.mode", none, "", none, false⟩]⟩,
        some ⟨some (.new .memory "web.limit"), none, none, none, none, none, []⟩, none⟩] }
    let web := Json.obj [("image", .bool true), ("limit", .str "1Gi"), ("mode", .bool false)]
    let doc := Json.obj [("web", web), ("top", .obj [("tree", .arr []), ("gone", .null)])]
    let populated := (schema.withDefaults doc).value
    populated.roles.map (·.defaults) = [⟨"web", some ⟨some "true", some 0, none, none, none, []⟩,
      some ⟨some 1024, none, none, none, none, none, []⟩⟩] ∧
    (∀ entry ∈ populated.parameters,
      entry.defaultValue = (doc.get? entry.mapKey).filter fun value => !value.isNull) ∧
    (populated.withDefaults doc).value = populated := by
  intro schema web doc populated
  have flag (value : Bool) : (Json.bool value).Reparses :=
    Json.reparses_leaf rfl (by cases value <;> rfl)
  have reparses : doc.Reparses := by
    dsimp only [doc, web]
    refine Json.reparses_obj (by rfl)
      (List.forall_mem_cons.mpr ⟨?_, List.forall_mem_singleton.mpr ?_⟩)
    · refine Json.reparses_obj (by rfl) (List.forall_mem_cons.mpr ⟨flag true, ?_⟩)
      exact List.forall_mem_cons.mpr
        ⟨Json.reparses_leaf rfl (by rfl), List.forall_mem_singleton.mpr (flag false)⟩
    · exact Json.reparses_obj (by rfl) (List.forall_mem_cons.mpr
        ⟨Json.reparses_leaf rfl (by rfl),
          List.forall_mem_singleton.mpr (Json.reparses_leaf rfl (by rfl))⟩)
  obtain ⟨roles, parameters, -, -, -, -, again⟩ := (withDefaults_extract schema).2 doc rfl reparses
  have extracted : (schema.extract doc).value.roles.map (·.withoutOthers) =
      [⟨"web", some ⟨some "true", some 0, none, none, none, []⟩,
        some ⟨some 1024, none, none, none, none, none, []⟩⟩] := by
    dsimp only [schema, doc, web]
    rfl
  exact ⟨roles.trans extracted, parameters, again⟩

end Schema

end ChartParams
