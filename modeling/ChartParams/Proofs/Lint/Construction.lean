import ChartParams.Proofs.Json.Leaves
import ChartParams.Proofs.Lint.Walk
import ChartParams.Proofs.Params.Assignment

/-!
# Linting what was built

Lint finds no issue with the values that a parameter list writes: whatever is written for a knob or
a volume has the shape that linting expects, and so has a parameter of a scalar kind that was made
from what a user typed. Amounts of processors are left out.
-/

namespace ChartParams

open Params

/-- The kinds whose values are leaves of one type. -/
def Kind.isScalar : Kind → Bool
  | string | text | int | float | boolean => true
  | yaml | json | keyValue | unknown => false

/-- A parameter has the payload that is made for what a user typed. -/
def Params.Parameter.IsInput (kind : Kind) (parameter : Parameter) : Prop :=
  ∃ name input made, ofInput name kind input = .ok made ∧ made.payload = parameter.payload

namespace Writing

variable {raw : String} {value : Json}

theorem parse_of_payload (nonempty : raw.isEmpty = false) (read : payload raw = .ok value) :
    Json.parse raw = .ok value := by
  rwa [payload, nonempty, if_neg Bool.false_ne_true] at read

end Writing

open Lint (Check Expectation Report)

theorem KnobType.accepts_write {type : KnobType} (notCores : type ≠ .cores) (value : type.Value) :
    (Expectation.ofKnobType type).accepts (type.write value) = true := by
  cases type with
  | text | integer | flag => rfl
  | environment =>
      change (value.map _).all Expectation.hasName = true
      rw [List.all_map, List.all_eq_true]
      intro variable_ _
      rfl
  | memory =>
      have suffix : Expectation.endsWith (BinaryUnit.mebi.write value) "Mi" = true := by
        rw [Expectation.endsWith, BinaryUnit.write, String.toList_append,
          List.isSuffixOf_iff_suffix]
        exact List.suffix_append _ _
      change ((_ || _) && Expectation.isQuantity _) = true
      rw [suffix, Expectation.isQuantity, BinaryUnit.parse_write]
      rfl
  | cores => exact absurd rfl notCores

theorem isEmpty_compact_num (n : Number) : (Json.num n).compact.isEmpty = false := by
  obtain ⟨c, rest, isText, -⟩ := Json.startsNumber_text n
  rw [Json.compact, Bool.eq_false_iff]
  intro isEmpty
  rw [String.isEmpty_iff.mp isEmpty] at isText
  cases isText

theorem Kind.accepts_input {kind : Kind} {input raw : String} {value : Json}
    (isScalar : kind.isScalar = true) (made : kind.encodeInput input = .ok raw)
    (read : Writing.payload raw = .ok value) :
    (Expectation.ofKind (some kind)).accepts value = true := by
  cases kind with
  | string | text =>
      cases made
      have spelled := Writing.parse_of_payload (by simp [Json.compact, Json.quote]) read
      rw [Json.compact, Json.parse_quote] at spelled
      cases spelled
      rfl
  | int =>
      rw [encodeInput] at made
      split at made
      · rename_i n _
        cases made
        have spelled := Writing.parse_of_payload (isEmpty_compact_num _) read
        cases (Json.parse_int _).symm.trans spelled
        rfl
      · cases made
  | float =>
      rw [encodeInput] at made
      split at made
      · rename_i x _
        rw [Payload.raw, Payload.toJson, Writing.float] at made
        split at made
        · cases made
          have spelled := Writing.parse_of_payload (isEmpty_compact_num _) read
          obtain ⟨c, rest, isText, starts⟩ := Json.startsNumber_text _
          obtain ⟨n, rfl⟩ := Json.exists_num_of_parse isText starts spelled
          rfl
        · cases made
      · cases made
  | boolean =>
      rw [encodeInput] at made
      split at made
      · rename_i b _
        cases b <;> cases made <;> cases read <;> rfl
      · cases made
  | _ => cases isScalar

/-- A report has a check, and the check has a map key. -/
def Lint.Report.Collects (report : Report) (check : Check) : Prop :=
  check ∈ report.checks ∧ check.mapKey.isEmpty = false

/-- A report has a check, which finds no issue with a document. -/
def Lint.Report.Passes (report : Report) (doc : Json) (check : Check) : Prop :=
  check ∈ report.checks ∧ check.issue? doc = none

namespace Schema

variable {report : Report} {doc : Json}

def Knob.Passes {type : KnobType} (report : Report) (doc : Json) (knob : Option (Knob type))
    (given : Option type.Value) : Prop :=
  ∀ entry ∈ knob, given.isSome → report.Passes doc entry.check

def Parameter.Passes (report : Report) (doc : Json) (entry : Parameter)
    (given : Params.Parameter) : Prop :=
  given.name = entry.name → ∀ kind, entry.kind = some kind → kind.isScalar = true →
    given.IsInput kind → report.Passes doc entry.check

def Storage.Passes (report : Report) (doc : Json) (entry : Storage) (given : Params.Storage) :
    Prop :=
  given.name = entry.name → given.request.isSome → report.Passes doc entry.check

structure RoleBase.Passes (report : Report) (doc : Json) (base : RoleBase)
    (given : Params.RoleBase) : Prop where
  image : Knob.Passes report doc base.image given.image
  priority : Knob.Passes report doc base.priority given.priority
  replicas : Knob.Passes report doc base.replicas given.replicas
  env : Knob.Passes report doc base.env (someVariables given.env)
  useHostNetwork : Knob.Passes report doc base.useHostNetwork given.useHostNetwork
  others : ∀ entry ∈ base.others, ∀ parameter ∈ given.others, entry.Passes report doc parameter

structure Resources.Passes (report : Report) (doc : Json) (resources : Resources)
    (given : Params.Resources) : Prop where
  limitsMemory : Knob.Passes report doc resources.limitsMemory given.limitsMemory
  requestsMemory : Knob.Passes report doc resources.requestsMemory given.requestsMemory
  storageResources : ∀ entry ∈ resources.storageResources, ∀ storage ∈ given.storageResources,
    entry.Passes report doc storage

theorem passes_of_heldBy {check : Check} {value : Json}
    (collected : report.Collects check)
    (held : Assignment.HeldBy doc ⟨check.mapKey, some value⟩)
    (accepted : check.expectation.accepts value = true) : report.Passes doc check := by
  have found : doc.get? check.mapKey = some value := by
    rw [Assignment.HeldBy, collected.2] at held
    exact held
  refine ⟨collected.1, ?_⟩
  rw [Check.issue?, found]
  exact if_pos accepted

theorem Knob.passes {type : KnobType} (notCores : type ≠ .cores) {knob : Option (Knob type)}
    {given : Option type.Value}
    (collected : ∀ check ∈ Knob.checks knob, report.Collects check)
    (held : ∀ assignment ∈ Knob.assignments knob given, assignment.HeldBy doc) :
    Knob.Passes report doc knob given := by
  rintro entry rfl isGiven
  obtain ⟨value, rfl⟩ := Option.isSome_iff_exists.mp isGiven
  have isCollected := collected entry.check List.mem_cons_self
  have isHeld : Assignment.HeldBy doc ⟨entry.mapKey, some (type.write value)⟩ :=
    held _ List.mem_cons_self
  exact passes_of_heldBy isCollected isHeld (KnobType.accepts_write notCores value)

section Entries

variable {known : List Parameter} {given : List Params.Parameter}

theorem Parameter.mem_written {entry : Parameter} {parameter : Params.Parameter}
    (distinct : (known.map Parameter.name).Nodup) (isKnown : entry ∈ known)
    (isGiven : parameter ∈ given) (sameName : parameter.name = entry.name)
    (nonempty : entry.mapKey.isEmpty = false) :
    parameter.payload ∈ given.flatMap (·.written known) := by
  refine List.mem_flatMap.mpr ⟨parameter, isGiven, ?_⟩
  rw [Params.Parameter.written, sameName, lastNamed?_eq_named? distinct,
    named?_of_mem distinct isKnown]
  simp [nonempty]

theorem Parameter.passes (knownDistinct : (known.map Parameter.name).Nodup)
    (givenDistinct : (given.map Params.Parameter.name).Nodup)
    (collected : ∀ check ∈ known.map (·.check), report.Collects check)
    (held : ∀ assignment ∈ known.map (·.assignment given), assignment.HeldBy doc)
    (readable : ∀ raw ∈ given.flatMap (·.written known), ∃ value, Writing.payload raw = .ok value) :
    ∀ entry ∈ known, ∀ parameter ∈ given, entry.Passes report doc parameter := by
  intro entry isKnown parameter isGiven sameName kind isKind isScalar isInput
  obtain ⟨name, input, made, isMade, samePayload⟩ := isInput
  have isCollected := List.forall_mem_map.mp collected entry isKnown
  obtain ⟨value, read⟩ := readable parameter.payload
    (mem_written knownDistinct isKnown isGiven sameName isCollected.2)
  have isHeld : Assignment.HeldBy doc ⟨entry.mapKey, some value⟩ := by
    have assigned := List.forall_mem_map.mp held entry isKnown
    rw [Parameter.assignment, ← sameName, named?_of_mem givenDistinct isGiven, Option.bind_some,
      read] at assigned
    exact assigned
  apply passes_of_heldBy isCollected isHeld
  change (Expectation.ofKind entry.kind).accepts value = true
  obtain ⟨raw, encoded, isMade⟩ := bind_eq_ok_iff.mp isMade
  cases isMade
  change raw = parameter.payload at samePayload
  rw [← samePayload] at read
  rw [isKind]
  exact Kind.accepts_input isScalar (mapError_eq_ok_iff.mp encoded) read

end Entries

theorem Storage.passes {known : List Storage} {given : List Params.Storage}
    (givenDistinct : (given.map Params.Storage.name).Nodup)
    (collected : ∀ check ∈ known.map (·.check), report.Collects check)
    (held : ∀ assignment ∈ known.map (·.assignment given), assignment.HeldBy doc) :
    ∀ entry ∈ known, ∀ storage ∈ given, entry.Passes report doc storage := by
  intro entry isKnown storage isGiven sameName isRequested
  obtain ⟨spec, isSpec⟩ := Option.isSome_iff_exists.mp isRequested
  have isCollected := List.forall_mem_map.mp collected entry isKnown
  have isHeld : Assignment.HeldBy doc ⟨entry.mapKey, some (Writing.storage (some spec))⟩ := by
    have assigned := List.forall_mem_map.mp held entry isKnown
    rw [Storage.assignment, ← sameName, named?_of_mem givenDistinct isGiven, Option.bind_some,
      isSpec] at assigned
    exact assigned
  exact passes_of_heldBy isCollected isHeld rfl

theorem RoleBase.passes {base : RoleBase} {given : Params.RoleBase}
    (knownDistinct : (base.others.map Parameter.name).Nodup)
    (givenDistinct : (given.others.map Params.Parameter.name).Nodup)
    (collected : ∀ check ∈ base.checks, report.Collects check)
    (held : ∀ assignment ∈ base.assignments given, assignment.HeldBy doc)
    (readable : ∀ raw ∈ given.written base, ∃ value, Writing.payload raw = .ok value) :
    base.Passes report doc given := by
  rw [RoleBase.checks] at collected
  rw [RoleBase.assignments] at held
  simp only [List.forall_mem_append] at collected held
  obtain ⟨⟨⟨⟨⟨image, priority⟩, replicas⟩, env⟩, useHostNetwork⟩, others⟩ := collected
  obtain ⟨⟨⟨⟨⟨heldImage, heldHost⟩, heldPriority⟩, heldEnv⟩, heldReplicas⟩, heldOthers⟩ := held
  exact {
    image := Knob.passes (by decide) image heldImage
    priority := Knob.passes (by decide) priority heldPriority
    replicas := Knob.passes (by decide) replicas heldReplicas
    env := Knob.passes (by decide) env heldEnv
    useHostNetwork := Knob.passes (by decide) useHostNetwork heldHost
    others := Parameter.passes knownDistinct givenDistinct others heldOthers readable }

theorem Resources.passes {resources : Resources} {given : Params.Resources}
    (givenDistinct : (given.storageResources.map Params.Storage.name).Nodup)
    (collected : ∀ check ∈ resources.checks, report.Collects check)
    (held : ∀ assignment ∈ resources.assignments given, assignment.HeldBy doc) :
    resources.Passes report doc given := by
  rw [Resources.checks] at collected
  rw [Resources.assignments] at held
  simp only [List.forall_mem_append] at collected held
  obtain ⟨⟨⟨⟨⟨⟨-, limitsMemory⟩, -⟩, requestsMemory⟩, -⟩, -⟩, storages⟩ := collected
  obtain ⟨⟨⟨⟨⟨⟨heldLimits, -⟩, -⟩, heldRequests⟩, -⟩, -⟩, heldStorages⟩ := held
  exact {
    limitsMemory := Knob.passes (by decide) limitsMemory heldLimits
    requestsMemory := Knob.passes (by decide) requestsMemory heldRequests
    storageResources := Storage.passes givenDistinct storages heldStorages }

theorem Role.mem_written {known : List Role} {given : List Params.Role} {role : Role}
    {values : Params.Role} {base : RoleBase} {basic : Params.RoleBase} {raw : String}
    (distinct : (known.map Role.name).Nodup) (isKnown : role ∈ known) (isGiven : values ∈ given)
    (sameName : values.name = role.name) (isBase : base ∈ role.base) (isBasic : basic ∈ values.base)
    (membership : raw ∈ basic.written base) : raw ∈ given.flatMap (·.written known) := by
  refine List.mem_flatMap.mpr ⟨values, isGiven, ?_⟩
  rw [Params.Role.written, sameName, lastNamed?_eq_named? distinct, named?_of_mem distinct isKnown]
  dsimp only
  rw [Option.mem_def.mp isBase, Option.mem_def.mp isBasic]
  exact membership

theorem Role.passes {role : Role} {values : Params.Role} (known : role.NamesUnique)
    (given : values.NamesUnique) (collected : ∀ check ∈ role.checks, report.Collects check)
    (held : ∀ assignment ∈ role.assignments (some values), assignment.HeldBy doc)
    (readable : ∀ base ∈ role.base, ∀ basic ∈ values.base, ∀ raw ∈ basic.written base,
      ∃ value, Writing.payload raw = .ok value) :
    (∀ base ∈ role.base, ∀ basic ∈ values.base, base.Passes report doc basic) ∧
      ∀ resources ∈ role.resources, ∀ amounts ∈ values.resources,
        resources.Passes report doc amounts := by
  simp only [Role.checks, List.forall_mem_append, List.forall_mem_flatMap,
    Option.mem_toList] at collected
  simp only [Role.assignments, List.forall_mem_append, List.forall_mem_flatMap,
    Option.mem_toList, Option.bind_some] at held
  constructor
  · intro base isBase basic isBasic
    have baseHeld := held.1 base isBase
    rw [isBasic] at baseHeld
    have baseReadable := readable base isBase basic isBasic
    apply RoleBase.passes _ _ (collected.1 base isBase) baseHeld baseReadable
    · exact known.others base isBase
    · exact given.others basic isBasic
  · intro resources isResources amounts isAmounts
    have resourcesHeld := held.2 resources isResources
    rw [isAmounts] at resourcesHeld
    apply Resources.passes _ (collected.2 resources isResources) resourcesHeld
    exact given.storageResources amounts isAmounts

/-- Linting a document that was built finds no issue with what was written, apart from amounts of
processors and from parameters that are not of a scalar kind or not made for what a user typed. -/
theorem lint_construct {schema : Schema} {params : Params} (clean : schema.lint.isClean = true)
    (known : schema.NamesUnique) (given : params.NamesUnique) (apart : schema.KeysApart)
    (built : (params.construct schema).result = .ok doc) :
    (∀ entry ∈ schema.params, ∀ parameter ∈ params.params,
      entry.Passes schema.lint doc parameter) ∧
    ∀ role ∈ schema.roles, ∀ values ∈ params.roles, values.name = role.name →
      (∀ base ∈ role.base, ∀ basic ∈ values.base, base.Passes schema.lint doc basic) ∧
      ∀ resources ∈ role.resources, ∀ amounts ∈ values.resources,
        resources.Passes schema.lint doc amounts := by
  have held := heldBy_of_construct known given apart built
  have readable := readable_of_construct built
  obtain ⟨sameChecks, named⟩ := lint_checks clean
  have collected : ∀ check ∈ schema.checks, schema.lint.Collects check := by
    intro check membership
    exact ⟨sameChecks ▸ membership, named check membership⟩
  simp only [checks, List.forall_mem_append, List.forall_mem_flatMap] at collected
  simp only [assignments, List.forall_mem_append, List.forall_mem_flatMap] at held
  rw [written, List.forall_mem_append] at readable
  constructor
  · exact Parameter.passes known.params given.params collected.2 held.1 readable.1
  · intro role isKnown values isGiven sameName
    have roleHeld := held.2 role isKnown
    rw [← sameName, named?_of_mem given.roles isGiven] at roleHeld
    apply Role.passes (known.inRoles role isKnown) (given.inRoles values isGiven)
      (collected.1 role isKnown) roleHeld
    intro base isBase basic isBasic raw isWritten
    apply readable.2 raw
    exact Role.mem_written known.roles isKnown isGiven sameName isBase isBasic isWritten

/-- A required number that a user typed with blanks, a negative amount of memory and a volume. -/
theorem lint_construct_role :
    let schema : Schema := {
      friendlyName := "web", categories := [], dependencies := [], plugins := [], customParams := []
      params := [⟨"count", "top.count", none, "", some .int, true⟩]
      roles := [⟨"web", "", "pod",
        some ⟨some (.new .text "web.image"), none, none, some (.new .environment "web.env"), none,
          []⟩,
        some ⟨some (.new .memory "web.memory"), none, none, none, none, none,
          [⟨"data", "web.data", none, "", "", true⟩]⟩, none⟩] }
    let params : Params := {
      customParams := []
      params := [⟨"count", none, "-7"⟩]
      roles := [⟨"web", some ⟨some "nginx", none, none, some [⟨"A", "1"⟩], none, []⟩,
        some ⟨some (-512), none, none, none, none, none, [⟨"data", some ⟨["any"], "", 1⟩⟩]⟩⟩] }
    ∃ doc, (params.construct schema).result = .ok doc ∧
      schema.lint.Passes doc ⟨"top.count", true, .integer⟩ ∧
      schema.lint.Passes doc ⟨"web.env", false, .env⟩ ∧
      schema.lint.Passes doc ⟨"web.memory", false, .memory⟩ ∧
      schema.lint.Passes doc ⟨"web.data", true, .storage⟩ := by
  intro schema params
  have clean : schema.lint.isClean = true := rfl
  have known : schema.NamesUnique := by
    refine ⟨by decide, by decide, List.forall_mem_singleton.mpr ⟨?_, ?_⟩⟩ <;>
      · rintro _ ⟨⟩
        decide
  have given : params.NamesUnique := by
    refine ⟨by decide, by decide, List.forall_mem_singleton.mpr ⟨?_, ?_⟩⟩ <;>
      · rintro _ ⟨⟩
        decide
  have apart : schema.KeysApart := by
    unfold Schema.KeysApart
    decide
  obtain ⟨doc, built⟩ : ∃ doc, (params.construct schema).result = .ok doc := ⟨_, rfl⟩
  have typed : Params.Parameter.IsInput .int ⟨"count", none, "-7"⟩ :=
    ⟨"count", " -7 ", ⟨"count", some .int, "-7"⟩, rfl, rfl⟩
  obtain ⟨parameters, roles⟩ := lint_construct clean known given apart built
  have count := parameters _ List.mem_cons_self _ List.mem_cons_self rfl .int rfl rfl typed
  obtain ⟨bases, bundles⟩ := roles _ List.mem_cons_self _ List.mem_cons_self rfl
  have base := bases _ rfl _ rfl
  have resources := bundles _ rfl _ rfl
  refine ⟨doc, built, count, base.env _ rfl rfl, resources.limitsMemory _ rfl rfl, ?_⟩
  exact resources.storageResources _ List.mem_cons_self _ List.mem_cons_self rfl rfl

end Schema

end ChartParams
