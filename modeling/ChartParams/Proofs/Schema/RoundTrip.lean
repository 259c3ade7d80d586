import ChartParams.Proofs.Params.RoundTrip
import ChartParams.Schema.Defaults
import ChartParams.Schema.Loading

/-!
# Schemas that are read back

A schema is read back from the document that is written for it if it is storable: no default of a
parameter is null, which would read as no default, the numbers of cores are finite, and the custom
parameters are sorted. Whatever is read from a document is storable, and populating keeps it so.
Hence every schema that can come about is read back.
-/

namespace ChartParams

theorem KnobType.yields (type : KnobType) : type.format.Yields type.IsStorable := by
  cases type with
  | cores => exact Format.binary64_yields
  | text | flag | integer | memory | environment => exact fun _ _ _ => trivial

namespace Field

variable {σ β : Type} {key : String} {format : Format β} {P : β → Prop}

theorem Yielded.of_nullable {get : σ → Option β} {option : Option β}
    (yielded : (nullable key format get).Yielded option) (yields : format.Yields P) :
    ∀ value ∈ option, P value := by
  refine yielded.of (Format.optional_yields fun doc value _ => yields doc value) ?_
  rintro _ ⟨⟩
  exact nofun

theorem Yielded.of_list {get : σ → List β} {values : List β}
    (yielded : (plain key format.list get []).Yielded values) (yields : format.Yields P) :
    ∀ value ∈ values, P value := by
  refine yielded.of (Format.list_yields yields) ?_
  rintro _ ⟨⟩
  exact nofun

end Field

namespace Schema

def Parameter.IsStorable (entry : Parameter) : Prop := ∀ value ∈ entry.defaultValue, value ≠ .null

def Knob.IsStorable {type : KnobType} (knob : Knob type) : Prop :=
  type.IsStorable knob.defaultValue

def RoleBase.IsStorable (base : RoleBase) : Prop := ∀ entry ∈ base.others, entry.IsStorable

def Resources.cores (resources : Resources) : List (Knob .cores) :=
  resources.limitsCpu.toList ++ resources.limitsGpu.toList ++ resources.requestsCpu.toList ++
    resources.requestsGpu.toList

def Resources.IsStorable (resources : Resources) : Prop :=
  ∀ knob ∈ resources.cores, knob.IsStorable

def Role.IsStorable (role : Role) : Prop :=
  (∀ base ∈ role.base, base.IsStorable) ∧ ∀ resources ∈ role.resources, resources.IsStorable

/-- Documents can hold every part of the schema. -/
structure IsStorable (schema : Schema) : Prop where
  params : ∀ entry ∈ schema.params, entry.IsStorable
  roles : ∀ role ∈ schema.roles, role.IsStorable
  customParams : Format.IsSorted schema.customParams

section Written

theorem Dependency.format_lawful : Dependency.record.format.Lawful := by
  intro dependency
  refine Record.decode_encode (by decide) ?_ rfl
  refine .plain (Format.text_lawful _) ?_
  refine .plain (Format.text_lawful _) ?_
  refine .plain (Format.text_lawful _) ?_
  refine .plain (Format.flag_lawful _) ?_
  refine .plain (Format.text_lawful _) ?_
  refine .plain (Format.text_lawful _) ?_
  exact .plain (Format.text_lawful _) trivial

theorem Plugin.format_lawful : Plugin.record.format.Lawful := by
  intro plugin
  refine Record.decode_encode (by decide) ?_ rfl
  refine .plain (Format.text_lawful _) ?_
  refine .plain (Format.text_lawful _) ?_
  refine .plain (Format.text_lawful _) ?_
  exact .plain (Format.flag_lawful _) trivial

theorem Storage.format_lawful : Storage.record.format.Lawful := by
  intro entry
  refine Record.decode_encode (by decide) ?_ rfl
  refine .required (Format.text_lawful _) ?_
  refine .plain (Format.text_lawful _) ?_
  refine .nullable (Record.optional_lawful StorageSpec.format_lawful _) ?_
  refine .plain (Format.text_lawful _) ?_
  refine .plain (Format.text_lawful _) ?_
  exact .plain (Format.flag_lawful _) trivial

theorem HealthProbe.format_lawful : HealthProbe.record.format.Lawful := by
  intro probe
  refine Record.decode_encode (by decide) ?_ rfl
  refine .plain (Format.flag_lawful _) ?_
  exact .plain (Format.flag_lawful _) trivial

theorem HealthChecks.format_lawful : HealthChecks.record.format.Lawful := by
  intro checks
  refine Record.decode_encode (by decide) ?_ rfl
  refine .nullable (Record.optional_lawful HealthProbe.format_lawful _) ?_
  exact .nullable (Record.optional_lawful HealthProbe.format_lawful _) trivial

theorem Parameter.lawfulAt {entry : Parameter} (storable : entry.IsStorable) :
    Parameter.record.format.LawfulAt entry := by
  refine Record.decode_encode (by decide) ?_ rfl
  refine .required (Format.text_lawful _) ?_
  refine .plain (Format.text_lawful _) ?_
  refine .omittable (Format.optional_lawfulAt ?_) ?_
  · exact fun value isValue => ⟨Format.document_lawful value, storable value isValue⟩
  refine .plain (Format.text_lawful _) ?_
  refine .omittable (Format.optional_lawful Format.kind_lawful (fun _ => nofun) _) ?_
  exact .plain (Format.flag_lawful _) trivial

theorem Knob.lawfulAt {type : KnobType} {knob : Knob type} (storable : knob.IsStorable) :
    (Knob.record type).format.LawfulAt knob := by
  have distinct : (Knob.record type).keys.Nodup := by cases type <;> decide
  refine Record.decode_encode distinct ?_ rfl
  refine .plain (Format.text_lawful _) ?_
  refine .plain (KnobType.lawfulAt storable) ?_
  refine .plain (Format.text_lawful _) ?_
  refine .omittable (Format.optional_lawful Format.kind_lawful (fun _ => nofun) _) ?_
  exact .plain (Format.flag_lawful _) trivial

theorem Knob.optional_lawfulAt {type : KnobType} {option : Option (Knob type)}
    (storable : ∀ knob ∈ option, knob.IsStorable) :
    (Knob.record type).format.optional.LawfulAt option :=
  Record.optional_lawfulAt fun knob isKnob => Knob.lawfulAt (storable knob isKnob)

theorem Knob.optional_lawful (type : KnobType) (always : ∀ value, type.IsStorable value) :
    (Knob.record type).format.optional.Lawful := fun _ =>
  Knob.optional_lawfulAt fun knob _ => always knob.defaultValue

theorem RoleBase.lawfulAt {base : RoleBase} (storable : base.IsStorable) :
    RoleBase.record.format.LawfulAt base := by
  refine Record.decode_encode (by decide) ?_ rfl
  refine .nullable (Knob.optional_lawful .text (fun _ => trivial) _) ?_
  refine .nullable (Knob.optional_lawful .integer (fun _ => trivial) _) ?_
  refine .nullable (Knob.optional_lawful .integer (fun _ => trivial) _) ?_
  refine .nullable (Knob.optional_lawful .environment (fun _ => trivial) _) ?_
  refine .nullable (Knob.optional_lawful .flag (fun _ => trivial) _) ?_
  refine .plain (Format.list_lawfulAt ?_) trivial
  exact fun entry membership => Parameter.lawfulAt (storable entry membership)

theorem Resources.lawfulAt {resources : Resources} (storable : resources.IsStorable) :
    Resources.record.format.LawfulAt resources := by
  simp only [IsStorable, cores, List.forall_mem_append, Option.mem_toList] at storable
  obtain ⟨⟨⟨limitsCpu, limitsGpu⟩, requestsCpu⟩, requestsGpu⟩ := storable
  refine Record.decode_encode (by decide) ?_ rfl
  refine .nullable (Knob.optional_lawful .memory (fun _ => trivial) _) ?_
  refine .nullable (Knob.optional_lawfulAt limitsCpu) ?_
  refine .nullable (Knob.optional_lawfulAt limitsGpu) ?_
  refine .nullable (Knob.optional_lawful .memory (fun _ => trivial) _) ?_
  refine .nullable (Knob.optional_lawfulAt requestsCpu) ?_
  refine .nullable (Knob.optional_lawfulAt requestsGpu) ?_
  exact .plain (Format.list_lawful Storage.format_lawful _) trivial

theorem Role.lawfulAt {role : Role} (storable : role.IsStorable) :
    Role.record.format.LawfulAt role := by
  obtain ⟨base, resources⟩ := storable
  refine Record.decode_encode (by decide) ?_ rfl
  refine .required (Format.text_lawful _) ?_
  refine .plain (Format.text_lawful _) ?_
  refine .plain (Format.text_lawful _) ?_
  refine .nullable (Record.optional_lawfulAt ?_) ?_
  · exact fun bundle isBundle => RoleBase.lawfulAt (base bundle isBundle)
  refine .nullable (Record.optional_lawfulAt ?_) ?_
  · exact fun bundle isBundle => Resources.lawfulAt (resources bundle isBundle)
  exact .nullable (Record.optional_lawful HealthChecks.format_lawful _) trivial

theorem lawfulAt {schema : Schema} (storable : schema.IsStorable) :
    record.format.LawfulAt schema := by
  refine Record.decode_encode (by decide) ?_ rfl
  refine .plain (Format.text_lawful _) ?_
  refine .plain (Format.list_lawful Format.text_lawful _) ?_
  refine .plain (Format.list_lawful Dependency.format_lawful _) ?_
  refine .plain (Format.list_lawfulAt ?_) ?_
  · exact fun role membership => Role.lawfulAt (storable.roles role membership)
  refine .plain (Format.list_lawfulAt ?_) ?_
  · exact fun entry membership => Parameter.lawfulAt (storable.params entry membership)
  refine .plain (Format.list_lawful Plugin.format_lawful _) ?_
  refine .plain (Format.dictionary_lawfulAt ?_ storable.customParams) trivial
  exact fun entry _ => Format.text_lawful entry.2

end Written

section Read

theorem Parameter.yields : Parameter.record.format.Yields Parameter.IsStorable := by
  refine Record.yields ?_
  intro name _ mapKey _ defaultValue yielded description _ kind _ isRequired _
  refine yielded.of (Format.optional_yields ?_) ?_
  · rintro doc value present ⟨⟩
    exact present
  · rintro _ ⟨⟩
    exact nofun

theorem Knob.yields (type : KnobType) : (Knob.record type).format.Yields Knob.IsStorable := by
  refine Record.yields ?_
  intro mapKey _ defaultValue yielded description _ kind _ isRequired _
  refine yielded.of (KnobType.yields type) ?_
  rintro _ ⟨⟩
  cases type with
  | cores => exact Binary64.isFinite_zero false
  | text | flag | integer | memory | environment => trivial

theorem RoleBase.yields : RoleBase.record.format.Yields RoleBase.IsStorable := by
  refine Record.yields ?_
  intro image _ priority _ replicas _ env _ useHostNetwork _ others yielded
  exact yielded.of_list Parameter.yields

theorem Resources.yields : Resources.record.format.Yields Resources.IsStorable := by
  refine Record.yields ?_
  intro limitsMemory _ limitsCpu yieldedLimitsCpu limitsGpu yieldedLimitsGpu requestsMemory _
    requestsCpu yieldedRequestsCpu requestsGpu yieldedRequestsGpu storageResources _
  change ∀ knob ∈ Resources.cores _, knob.IsStorable
  simp only [cores, List.forall_mem_append, Option.mem_toList]
  exact ⟨⟨⟨yieldedLimitsCpu.of_nullable (Knob.yields .cores),
    yieldedLimitsGpu.of_nullable (Knob.yields .cores)⟩,
    yieldedRequestsCpu.of_nullable (Knob.yields .cores)⟩,
    yieldedRequestsGpu.of_nullable (Knob.yields .cores)⟩

theorem Role.yields : Role.record.format.Yields Role.IsStorable := by
  refine Record.yields ?_
  intro name _ description _ type _ base yieldedBase resources yieldedResources healthChecks _
  exact ⟨yieldedBase.of_nullable RoleBase.yields, yieldedResources.of_nullable Resources.yields⟩

theorem yields : record.format.Yields IsStorable := by
  refine Record.yields ?_
  intro friendlyName _ categories _ dependencies _ roles yieldedRoles params yieldedParams plugins _
    customParams yieldedCustomParams
  refine ⟨yieldedParams.of_list Parameter.yields, yieldedRoles.of_list Role.yields, ?_⟩
  refine yieldedCustomParams.of (Format.dictionary_yields .text) ?_
  rintro _ ⟨⟩
  exact List.Pairwise.nil

end Read

section Populated

variable {doc : Json}

theorem isFinite_cores (doc : Json) (path : String) :
    (Reading.cores doc path).value.isFinite = true := by
  unfold Reading.cores Reading.quantity
  split
  · exact Binary64.isFinite_zero false
  split
  · rename_i text _ count read
    obtain ⟨quantity, -, read⟩ := bind_eq_ok_iff.mp read
    obtain ⟨thousandths, -, read⟩ := bind_eq_ok_iff.mp read
    cases read
    have range := isSignedWord_toInt thousandths
    exact Binary64.isFinite_div_thousand (Binary64.isFinite_ofInt ⟨range.1, by omega⟩)
  · exact Binary64.isFinite_zero false

theorem Knob.isStorable_withDefault (knob : Option (Knob .cores)) :
    ∀ entry ∈ (Knob.withDefault knob doc).value, entry.IsStorable := by
  cases knob with
  | none => exact nofun
  | some knob =>
      rintro _ ⟨⟩
      exact isFinite_cores doc knob.mapKey

theorem Parameter.isStorable_withDefault (entry : Parameter) :
    (entry.withDefault doc).value.IsStorable := by
  unfold withDefault
  split
  · exact nofun
  · rename_i value notNull read
    rintro _ ⟨⟩
    exact notNull
  · exact nofun

theorem RoleBase.isStorable_withDefaults (base : RoleBase) :
    (base.withDefaults doc).value.IsStorable := by
  have others : (base.withDefaults doc).value.others =
      base.others.map fun entry => (entry.withDefault doc).value := by
    simp [withDefaults]
  rw [IsStorable, others, List.forall_mem_map]
  exact fun entry _ => entry.isStorable_withDefault

theorem Resources.isStorable_withDefaults (resources : Resources) :
    (resources.withDefaults doc).value.IsStorable := by
  simp only [IsStorable, cores, withDefaults, Logged.value_bind, Logged.value_pure,
    List.forall_mem_append, Option.mem_toList]
  exact ⟨⟨⟨Knob.isStorable_withDefault _, Knob.isStorable_withDefault _⟩,
    Knob.isStorable_withDefault _⟩, Knob.isStorable_withDefault _⟩

theorem Role.isStorable_withDefaults (role : Role) : (role.withDefaults doc).value.IsStorable := by
  simp only [IsStorable, withDefaults, Logged.value_bind, Logged.value_pure,
    Logged.value_mapOption, Option.mem_def, Option.map_eq_some_iff]
  constructor
  · rintro _ ⟨base, -, rfl⟩
    exact base.isStorable_withDefaults
  · rintro _ ⟨resources, -, rfl⟩
    exact resources.isStorable_withDefaults

theorem IsStorable.withDefaults {schema : Schema} (storable : schema.IsStorable) (doc : Json) :
    (schema.withDefaults doc).value.IsStorable := by
  unfold Schema.withDefaults
  split
  · exact storable
  · constructor
    · simp only [Logged.value_bind, Logged.value_pure, Logged.value_mapItems, List.forall_mem_map]
      exact fun entry _ => entry.isStorable_withDefault
    · simp only [Logged.value_bind, Logged.value_pure, Logged.value_mapItems, List.forall_mem_map]
      exact fun role _ => role.isStorable_withDefaults
    · exact storable.customParams

end Populated

/-- A schema that was read from a document and then populated any number of times. -/
inductive Loaded : Schema → Prop
  | ofJson {doc : Json} {schema : Schema} (success : Schema.ofJson doc = .ok schema) :
      Loaded schema
  | withDefaults {schema : Schema} (loaded : Loaded schema) (doc : Json) :
      Loaded (schema.withDefaults doc).value

theorem Loaded.isStorable {schema : Schema} (loaded : schema.Loaded) : schema.IsStorable := by
  induction loaded with
  | ofJson success => exact yields _ _ (mapError_eq_ok_iff.mp success)
  | withDefaults _ doc storable => exact storable.withDefaults doc

end Schema

/-- Every schema that was loaded, populated or not, is read back from its own document. So is every
parameter list whose numbers of cores are finite and whose custom parameters are in order of name,
the only order that they are kept in. -/
theorem ofJson_toJson :
    (∀ schema : Schema, schema.Loaded → Schema.ofJson schema.toJson = .ok schema) ∧
    ∀ params : Params,
      (∀ role ∈ params.roles, ∀ resources ∈ role.resources, ∀ count ∈ resources.cores,
        count.isFinite = true) →
      Format.IsSorted params.customParams → Params.ofJson params.toJson = .ok params := by
  constructor
  · intro schema loaded
    exact mapError_eq_ok_iff.mpr (Schema.lawfulAt loaded.isStorable)
  · intro params finite sorted
    exact Params.lawfulAt finite sorted

/-- A type that is not known, a default that is null, custom parameters out of order, and half a
core. -/
theorem ofJson_toJson_role :
    let doc := Json.obj [("customParams", .obj [("b", .str "2"), ("a", .str "1")]),
      ("params", .arr [.obj [("name", .str "mode"), ("mapKey", .str "web.mode"),
        ("type", .str "color"), ("defaultValue", .null)]]),
      ("roles", .arr [.obj [("name", .str "web"),
        ("resources", .obj [("limitsCpu", .obj [("mapKey", .str "web.cpu")])])]])]
    let values := Json.obj [("web", .obj [("cpu", .str "500m"), ("mode", .obj [])])]
    let half : Binary64 := .ofQuotient 1 2
    let params : Params := ⟨[⟨"mode", some .unknown, ""⟩],
      [⟨"web", none, some ⟨none, some half, none, none, none, none, []⟩⟩], [("a", "1"), ("b", "2")]⟩
    (∃ schema, Schema.ofJson doc = .ok schema ∧ schema.Loaded ∧
      let populated := (schema.withDefaults values).value
      Schema.ofJson populated.toJson = .ok populated) ∧
    Params.ofJson params.toJson = .ok params := by
  intro doc values half params
  have success : Schema.ofJson doc = .ok _ := rfl
  have loaded := Schema.Loaded.ofJson success
  refine ⟨⟨_, success, loaded, ofJson_toJson.1 _ (loaded.withDefaults values)⟩, ?_⟩
  apply ofJson_toJson.2
  · rintro role membership resources isResources
    obtain rfl := List.mem_singleton.mp membership
    cases isResources
    exact List.forall_mem_singleton.mpr (by decide +kernel)
  · exact List.pairwise_pair.mpr (by decide)

end ChartParams
