import ChartParams.Proofs.Lint.Walk
import ChartParams.Schema.Defaults
import ChartParams.Schema.Extraction
import Mathlib.Data.List.Basic

/-!
# Where a document is read

Two documents agree on checks if each check finds the same in both. Every entry of a schema reads a
document only at its own map key, and linting gives a check for every entry. So documents that agree
on the checks of a schema without issues have the same parameters and give the same defaults,
whatever else is in them.
-/

namespace ChartParams

namespace Lint

/-- Each check finds the same value in both documents, or none in either. -/
def AgreeOn (checks : List Check) (first second : Json) : Prop :=
  ∀ check ∈ checks, first.get? check.mapKey = second.get? check.mapKey

variable {first second : Json} {checks more : List Check} {check : Check}

theorem agreeOn_append :
    AgreeOn (checks ++ more) first second ↔
      AgreeOn checks first second ∧ AgreeOn more first second :=
  List.forall_mem_append

theorem agreeOn_map {α : Type} {checkOf : α → Check} {entries : List α} :
    AgreeOn (entries.map checkOf) first second ↔
      ∀ entry ∈ entries, first.get? (checkOf entry).mapKey = second.get? (checkOf entry).mapKey :=
  List.forall_mem_map

theorem agreeOn_flatMap {α : Type} {checksOf : α → List Check} {entries : List α} :
    AgreeOn (entries.flatMap checksOf) first second ↔
      ∀ entry ∈ entries, AgreeOn (checksOf entry) first second :=
  List.forall_mem_flatMap

theorem Check.issue?_congr (same : first.get? check.mapKey = second.get? check.mapKey) :
    check.issue? first = check.issue? second := by
  rw [issue?, issue?, same]

theorem Report.checkValues_congr {report : Report} (agree : AgreeOn report.checks first second) :
    report.checkValues first = report.checkValues second :=
  List.filterMap_congr fun check membership => Check.issue?_congr (agree check membership)

end Lint

namespace Logged

variable {ε α β : Type} {f g : α → Logged ε β}

theorem mapItems_congr {items : List α} (same : ∀ item ∈ items, f item = g item) :
    mapItems f items = mapItems g items := by
  induction items with
  | nil => rfl
  | cons item rest inductionHypothesis =>
      obtain ⟨here, later⟩ := List.forall_mem_cons.mp same
      rw [mapItems, mapItems, here, inductionHypothesis later]

theorem mapOption_congr {item : Option α} (same : ∀ content ∈ item, f content = g content) :
    mapOption f item = mapOption g item := by
  cases item with
  | none => rfl
  | some content => rw [mapOption, mapOption, same content rfl]

end Logged

open Lint

section Reading

variable {first second : Json} {path : String} (same : first.get? path = second.get? path)

include same

theorem Json.textAt_congr : first.textAt path = second.textAt path := by
  rw [Json.textAt, Json.textAt, same]

theorem Json.rawAt_congr : first.rawAt path = second.rawAt path := by
  rw [Json.rawAt, Json.rawAt, same]

theorem Reading.quantity_congr {α : Type} (read : String → Except Quantity.Error α) (zero : α) :
    Reading.quantity read zero first path = Reading.quantity read zero second path := by
  rw [Reading.quantity, Reading.quantity, Reading.quantityText?, Reading.quantityText?,
    Json.textAt_congr same]

theorem Reading.storage_congr : Reading.storage first path = Reading.storage second path := by
  rw [Reading.storage, Reading.storage, same]

theorem KnobType.read_congr (type : KnobType) : type.read first path = type.read second path := by
  cases type with
  | text => exact congrArg pure (Json.textAt_congr same)
  | integer =>
      change Reading.integer first path = Reading.integer second path
      rw [Reading.integer, Reading.integer, same]
  | flag =>
      change pure (Reading.flag first path) = pure (Reading.flag second path)
      rw [Reading.flag, Reading.flag, same]
  | environment =>
      change Reading.environment first path = Reading.environment second path
      rw [Reading.environment, Reading.environment, same]
  | memory => exact Reading.quantity_congr same _ _
  | cores => exact Reading.quantity_congr same _ _

end Reading

namespace Schema

variable {first second : Json}

theorem Knob.read_congr {type : KnobType} {knob : Option (Knob type)}
    (agree : AgreeOn (Knob.checks knob) first second) :
    Knob.extract knob first = Knob.extract knob second ∧
      Knob.withDefault knob first = Knob.withDefault knob second := by
  have same : ∀ entry ∈ knob, type.read first entry.mapKey = type.read second entry.mapKey :=
    fun entry isEntry => KnobType.read_congr
      (agree entry.check (List.mem_map_of_mem (Option.mem_toList.mpr isEntry))) type
  constructor
  · exact Logged.mapOption_congr same
  · exact Logged.mapOption_congr fun entry isEntry => by rw [same entry isEntry]

theorem Parameter.read_congr {entry : Parameter}
    (same : first.get? entry.mapKey = second.get? entry.mapKey) :
    entry.extract first = entry.extract second ∧
      entry.withDefault first = entry.withDefault second := by
  rw [extract, extract, withDefault, withDefault, Json.rawAt_congr same]
  exact ⟨rfl, rfl⟩

theorem Storage.read_congr {entry : Storage}
    (same : first.get? entry.mapKey = second.get? entry.mapKey) :
    entry.extract first = entry.extract second ∧
      entry.withDefault first = entry.withDefault second := by
  rw [extract, extract, withDefault, withDefault, Reading.storage_congr same]
  exact ⟨rfl, rfl⟩

theorem Parameter.mapItems_congr {entries : List Parameter}
    (agree : AgreeOn (entries.map (·.check)) first second) :
    entries.map (·.extract first) = entries.map (·.extract second) ∧
      Logged.mapItems (·.withDefault first) entries =
        Logged.mapItems (·.withDefault second) entries := by
  have each := agreeOn_map.mp agree
  constructor
  · exact List.map_congr_left fun entry membership => (read_congr (each entry membership)).1
  · exact Logged.mapItems_congr fun entry membership => (read_congr (each entry membership)).2

theorem RoleBase.read_congr {base : RoleBase} (agree : AgreeOn base.checks first second) :
    base.extract first = base.extract second ∧
      base.withDefaults first = base.withDefaults second := by
  simp only [checks, agreeOn_append] at agree
  obtain ⟨⟨⟨⟨⟨image, priority⟩, replicas⟩, env⟩, useHostNetwork⟩, others⟩ := agree
  constructor
  · simp only [extract, (Knob.read_congr image).1, (Knob.read_congr priority).1,
      (Knob.read_congr replicas).1, (Knob.read_congr env).1, (Knob.read_congr useHostNetwork).1,
      (Parameter.mapItems_congr others).1]
  · simp only [withDefaults, (Knob.read_congr image).2, (Knob.read_congr priority).2,
      (Knob.read_congr replicas).2, (Knob.read_congr env).2, (Knob.read_congr useHostNetwork).2,
      (Parameter.mapItems_congr others).2]

theorem Resources.read_congr {resources : Resources}
    (agree : AgreeOn resources.checks first second) :
    resources.extract first = resources.extract second ∧
      resources.withDefaults first = resources.withDefaults second := by
  simp only [checks, agreeOn_append] at agree
  obtain ⟨⟨⟨⟨⟨⟨limitsCpu, limitsMemory⟩, limitsGpu⟩, requestsMemory⟩, requestsCpu⟩, requestsGpu⟩,
    storages⟩ := agree
  have each := agreeOn_map.mp storages
  have extracted := Logged.mapItems_congr fun entry membership =>
    (Storage.read_congr (each entry membership)).1
  have populated := Logged.mapItems_congr fun entry membership =>
    (Storage.read_congr (each entry membership)).2
  constructor
  · simp only [extract, (Knob.read_congr limitsMemory).1, (Knob.read_congr limitsCpu).1,
      (Knob.read_congr limitsGpu).1, (Knob.read_congr requestsMemory).1,
      (Knob.read_congr requestsCpu).1, (Knob.read_congr requestsGpu).1, extracted]
  · simp only [withDefaults, (Knob.read_congr limitsMemory).2, (Knob.read_congr limitsCpu).2,
      (Knob.read_congr limitsGpu).2, (Knob.read_congr requestsMemory).2,
      (Knob.read_congr requestsCpu).2, (Knob.read_congr requestsGpu).2, populated]

theorem Role.read_congr {role : Role} (agree : AgreeOn role.checks first second) :
    role.extract first = role.extract second ∧
      role.withDefaults first = role.withDefaults second := by
  simp only [checks, agreeOn_append, agreeOn_flatMap, Option.mem_toList] at agree
  obtain ⟨base, resources⟩ := agree
  constructor
  · rw [extract, extract,
      Logged.mapOption_congr fun bundle isBundle => (RoleBase.read_congr (base bundle isBundle)).1,
      Logged.mapOption_congr fun bundle isBundle =>
        (Resources.read_congr (resources bundle isBundle)).1]
  · rw [withDefaults, withDefaults,
      Logged.mapOption_congr fun bundle isBundle => (RoleBase.read_congr (base bundle isBundle)).2,
      Logged.mapOption_congr fun bundle isBundle =>
        (Resources.read_congr (resources bundle isBundle)).2]

/-- Documents that agree on the checks of the entries of a schema are read alike. Null is left out
because it would leave the defaults alone. -/
theorem read_congr {schema : Schema} (agree : AgreeOn schema.checks first second)
    (firstPresent : first.isNull = false) (secondPresent : second.isNull = false) :
    schema.extract first = schema.extract second ∧
      schema.withDefaults first = schema.withDefaults second := by
  simp only [checks, agreeOn_append, agreeOn_flatMap] at agree
  obtain ⟨roles, params⟩ := agree
  constructor
  · rw [extract, extract, (Parameter.mapItems_congr params).1,
      Logged.mapItems_congr fun role membership => (Role.read_congr (roles role membership)).1]
  · rw [withDefaults, withDefaults, firstPresent, secondPresent,
      (Parameter.mapItems_congr params).2,
      Logged.mapItems_congr fun role membership => (Role.read_congr (roles role membership)).2]

/-- A schema without issues reads documents only at the places that linting checks: where two
documents agree there, the parameters, the populated schema and the issues of the values are the
same, and so are the notices on the way to them. -/
theorem lint_footprint {schema : Schema} (clean : schema.lint.isClean = true)
    (firstPresent : first.isNull = false) (secondPresent : second.isNull = false)
    (agree : AgreeOn schema.lint.checks first second) :
    schema.extract first = schema.extract second ∧
      schema.withDefaults first = schema.withDefaults second ∧
      schema.lint.checkValues first = schema.lint.checkValues second := by
  have issues := Report.checkValues_congr agree
  rw [(lint_checks clean).1] at agree
  obtain ⟨extracted, populated⟩ := read_congr agree firstPresent secondPresent
  exact ⟨extracted, populated, issues⟩

/-- The second document has another order, further members and another value next to those that are
checked. -/
theorem lint_footprint_role :
    let schema : Schema := {
      friendlyName := "web", categories := [], dependencies := [], plugins := [], customParams := []
      params := [⟨"mode", "top.mode", none, "", some .json, true⟩]
      roles := [⟨"web", "", "pod",
        some ⟨some (.new .text "web.image"), none, none, none, none, []⟩,
        some ⟨none, some (.new .cores "web.cpu"), none, none, none, none,
          [⟨"data", "web.data", none, "", "", false⟩]⟩, none⟩] }
    let data := Json.obj [("size", .str "3Gi")]
    let first := Json.obj [("web", .obj [("cpu", .str "1500m"), ("data", data)]),
      ("top", .obj [("mode", .arr [])])]
    let second := Json.obj [("top", .obj [("color", .str "red"), ("mode", .arr [])]),
      ("web", .obj [("data", data), ("cpu", .str "1500m"), ("", .null)])]
    schema.lint.isClean = true ∧ AgreeOn schema.lint.checks first second ∧
      schema.extract first = schema.extract second ∧
      schema.withDefaults first = schema.withDefaults second ∧
      schema.lint.checkValues first = schema.lint.checkValues second := by
  intro schema data first second
  have clean : schema.lint.isClean = true := rfl
  have agree : AgreeOn schema.lint.checks first second := by
    have checks : schema.lint.checks = [⟨"web.image", false, .string⟩, ⟨"web.cpu", false, .cpu⟩,
      ⟨"web.data", false, .storage⟩, ⟨"top.mode", true, .structured⟩] := rfl
    rw [checks]
    simp only [AgreeOn, List.forall_mem_cons]
    exact ⟨rfl, rfl, rfl, rfl, List.forall_mem_nil _⟩
  exact ⟨clean, agree, lint_footprint clean rfl rfl agree⟩

end Schema

end ChartParams
