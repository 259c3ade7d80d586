import ChartParams.Proofs.Params.ReadBack

/-!
# Building what was extracted

A parameter list that was extracted from any document builds a document, whose own parameter list is
the same but for parameters that were missing: they are there as null from then on. Filling in those
nulls does not change what is built, so without numbers of cores the built document is stable.
-/

namespace ChartParams

open ChartParams.Path Params

namespace Params

/-- A parameter that is missing at a map key, as the null that is built for it. -/
def Parameter.filled (known : List Schema.Parameter) (parameter : Parameter) : Parameter :=
  match lastNamed? Schema.Parameter.name parameter.name known with
  | none => parameter
  | some entry =>
      { parameter with
        payload :=
          if parameter.payload.isEmpty ∧ ¬entry.mapKey.isEmpty then "null" else parameter.payload }

def RoleBase.filled (schema : Schema.RoleBase) (values : RoleBase) : RoleBase :=
  { values with others := values.others.map (·.filled schema.others) }

def Role.filled (known : List Schema.Role) (role : Role) : Role :=
  match lastNamed? Schema.Role.name role.name known with
  | none => role
  | some entry =>
      { role with base := role.base.map fun values => entry.base.elim values (values.filled ·) }

/-- A parameter list with null for every parameter that is missing at a map key. -/
def filled (schema : Schema) (params : Params) : Params :=
  { params with
    params := params.params.map (·.filled schema.params)
    roles := params.roles.map (·.filled schema.roles) }

theorem Parameter.steps_filled (known : List Schema.Parameter) (parameter : Parameter) :
    (parameter.filled known).steps known = parameter.steps known := by
  unfold filled
  cases isKnown : lastNamed? Schema.Parameter.name parameter.name known with
  | none => rfl
  | some entry =>
      have samePayload : Writing.payload (if parameter.payload.isEmpty ∧ ¬entry.mapKey.isEmpty then
          "null" else parameter.payload) = Writing.payload parameter.payload := by
        split
        · rename_i missing
          rw [String.isEmpty_iff.mp missing.1]
          rfl
        · rfl
      rw [steps, steps, isKnown]
      dsimp only
      rw [samePayload]

theorem RoleBase.part_filled (schema : Schema.RoleBase) (values : RoleBase) :
    (values.filled schema).part schema = values.part schema := by
  rw [part, part, filled, List.flatMap_map]
  simp only [Parameter.steps_filled]

theorem Role.parts_filled (known : List Schema.Role) (role : Role) :
    (role.filled known).parts known = role.parts known := by
  unfold filled
  cases isKnown : lastNamed? Schema.Role.name role.name known with
  | none => rfl
  | some entry =>
      have asBundles (base : Option RoleBase) :=
        @Role.parts_eq_bundle known ⟨role.name, base, role.resources⟩ entry isKnown
      refine (asBundles _).trans (.trans ?_ (asBundles role.base).symm)
      cases entry.base <;> cases role.base <;> simp [bundle, RoleBase.part_filled]

theorem construct_filled (schema : Schema) (params : Params) :
    (params.filled schema).construct schema = params.construct schema := by
  rw [construct, construct, parts, parts, filled, List.flatMap_map, List.flatMap_map]
  simp only [Parameter.steps_filled, Role.parts_filled]

end Params

/-- Every subtree that keys lead to is what its text spells. -/
def Json.Reparses (doc : Json) : Prop :=
  ∀ keys value, doc.getAt? keys = some value → Json.parse value.compact = .ok value

theorem Json.reparses_obj {members : Members}
    (self : Json.parse (Json.obj members).compact = .ok (.obj members))
    (below : ∀ member ∈ members, member.2.Reparses) : (Json.obj members).Reparses := by
  intro keys value found
  cases keys with
  | nil =>
      cases found
      exact self
  | cons key rest =>
      obtain ⟨child, present, foundBelow⟩ := Json.getAt?_cons_eq_some.mp found
      exact below (key, child) (Members.mem_of_get? present) rest value foundBelow

theorem Json.reparses_leaf {leaf : Json} (notObject : leaf.isObject = false)
    (self : Json.parse leaf.compact = .ok leaf) : leaf.Reparses := by
  intro keys value found
  cases keys with
  | nil =>
      cases found
      exact self
  | cons key rest =>
      obtain ⟨child, present, -⟩ := Json.getAt?_cons_eq_some.mp found
      rw [Json.member?_of_not_isObject notObject] at present
      cases present

namespace Schema

variable {schema : Schema} {doc : Json}

/-- A schema without knobs for numbers of cores. -/
def HasNoCores (schema : Schema) : Prop :=
  ∀ role ∈ schema.roles, ∀ resources ∈ role.resources,
    resources.limitsCpu = none ∧ resources.limitsGpu = none ∧
      resources.requestsCpu = none ∧ resources.requestsGpu = none

theorem payload_compact_of_get? (reparses : doc.Reparses) {mapKey : String} {value : Json}
    (found : doc.get? mapKey = some value) :
    value.compact.isEmpty = false ∧ Writing.payload value.compact = .ok value := by
  have parsed : Json.parse value.compact = .ok value := by
    rw [Json.get?_eq_getAt? (Reading.path_of_get? found)] at found
    exact reparses _ value found
  have nonempty : value.compact.isEmpty = false := by
    rw [Bool.eq_false_iff]
    intro isEmpty
    rw [String.isEmpty_iff.mp isEmpty] at parsed
    cases parsed
  refine ⟨nonempty, ?_⟩
  rw [Writing.payload, nonempty]
  exact parsed

/-- The text at a path is empty, or it spells a document and is the text of that document. -/
theorem rawAt_cases (reparses : doc.Reparses) (mapKey : String) :
    doc.rawAt mapKey = "" ∨ ∃ value : Json, doc.rawAt mapKey = value.compact ∧
      value.compact.isEmpty = false ∧ Writing.payload value.compact = .ok value := by
  cases found : doc.get? mapKey with
  | none => exact .inl (by rw [Json.rawAt, found])
  | some value =>
      exact .inr ⟨value, by rw [Json.rawAt, found], payload_compact_of_get? reparses found⟩

theorem exists_payload_rawAt (reparses : doc.Reparses) (mapKey : String) :
    ∃ value, Writing.payload (doc.rawAt mapKey) = .ok value := by
  rcases rawAt_cases reparses mapKey with isEmpty | ⟨value, isText, -, parsed⟩
  · exact ⟨.null, by rw [isEmpty]; rfl⟩
  · exact ⟨value, isText ▸ parsed⟩

theorem Knob.readBack_extract {type : KnobType} (knob : Option (Knob type)) :
    Knob.readBack knob (Knob.extract knob doc).value = (Knob.extract knob doc).value := by
  cases knob with
  | none => rfl
  | some knob =>
      change some (if knob.mapKey.isEmpty then _ else type.kept (type.read doc knob.mapKey).value) =
        some (type.read doc knob.mapKey).value
      by_cases isEmpty : knob.mapKey.isEmpty
      · rw [if_pos isEmpty, KnobType.value_read_of_none (if_pos isEmpty)]
      · rw [if_neg isEmpty, KnobType.kept_read]

theorem named?_map {α β : Type} {nameOf : α → String} {valueName : β → String} (f : α → β)
    (sameName : ∀ entry, valueName (f entry) = nameOf entry) {entries : List α}
    (distinct : (entries.map nameOf).Nodup) {entry : α} (membership : entry ∈ entries) :
    named? valueName (nameOf entry) (entries.map f) = some (f entry) := by
  have same : valueName ∘ f = nameOf := funext sameName
  rw [← sameName]
  refine named?_of_mem ?_ (List.mem_map_of_mem membership)
  rwa [List.map_map, same]

theorem Parameter.readBack_extract (reparses : doc.Reparses) {known : List Parameter}
    (distinct : (known.map Parameter.name).Nodup) {entry : Parameter} (membership : entry ∈ known) :
    entry.readBack (known.map (·.extract doc)) = (entry.extract doc).filled known := by
  have given : named? Params.Parameter.name entry.name (known.map (·.extract doc)) =
      some (entry.extract doc) := named?_map (·.extract doc) (fun _ => rfl) distinct membership
  have isKnown : lastNamed? Parameter.name (entry.extract doc).name known = some entry :=
    (lastNamed?_eq_named? distinct).trans (named?_of_mem distinct membership)
  rw [Parameter.readBack, given, Params.Parameter.filled, isKnown, Option.elim_some]
  apply congrArg (Params.Parameter.mk _ _)
  change (if entry.mapKey.isEmpty then "" else payloadText (doc.rawAt entry.mapKey)) =
    if (doc.rawAt entry.mapKey).isEmpty ∧ ¬entry.mapKey.isEmpty then "null"
    else doc.rawAt entry.mapKey
  by_cases isEmpty : entry.mapKey.isEmpty
  · have nothing : doc.get? entry.mapKey = none := if_pos isEmpty
    rw [if_pos isEmpty, if_neg (fun both => both.2 isEmpty), Json.rawAt, nothing]
  · rw [if_neg isEmpty]
    rcases rawAt_cases reparses entry.mapKey with nothing | ⟨value, isText, nonempty, parsed⟩
    · rw [nothing, if_pos ⟨rfl, isEmpty⟩]
      rfl
    · rw [isText, if_neg (fun both => absurd both.1 (Bool.eq_false_iff.mp nonempty)), payloadText,
        parsed]

theorem Storage.readBack_extract {known : List Storage} (distinct : (known.map Storage.name).Nodup)
    {entry : Storage} (membership : entry ∈ known) :
    entry.readBack (known.map fun entry => (entry.extract doc).value) =
      (entry.extract doc).value := by
  have given : named? Params.Storage.name entry.name
      (known.map fun entry => (entry.extract doc).value) = some (entry.extract doc).value :=
    named?_map (fun entry => (entry.extract doc).value) (fun _ => rfl) distinct membership
  rw [Storage.readBack, given, Option.bind_some]
  change _ = Params.Storage.mk entry.name (Reading.storage doc entry.mapKey).value
  congr 1
  by_cases isEmpty : entry.mapKey.isEmpty
  · rw [if_pos isEmpty, Reading.value_storage_of_none (if_pos isEmpty)]
  · rw [if_neg isEmpty]
    exact (Option.map_congr fun spec read => Reading.kept_storage spec read).trans Option.map_id'

theorem RoleBase.readBack_extract (reparses : doc.Reparses) {base : RoleBase}
    (distinct : (base.others.map Parameter.name).Nodup) :
    base.readBack (base.extract doc).value = (base.extract doc).value.filled base := by
  have others : base.others.map (·.readBack (base.others.map (·.extract doc))) =
      (base.others.map (·.extract doc)).map (·.filled base.others) := by
    rw [List.map_map]
    exact List.map_congr_left fun entry membership =>
      Parameter.readBack_extract reparses distinct membership
  change Params.RoleBase.mk (Knob.readBack base.image (Knob.extract base.image doc).value)
    (Knob.readBack base.priority (Knob.extract base.priority doc).value)
    (Knob.readBack base.replicas (Knob.extract base.replicas doc).value)
    (Knob.readBack base.env (Knob.extract base.env doc).value)
    (Knob.readBack base.useHostNetwork (Knob.extract base.useHostNetwork doc).value)
    (base.others.map (·.readBack (base.others.map (·.extract doc)))) = _
  simp only [Knob.readBack_extract, others]
  rfl

theorem Resources.readBack_extract {resources : Resources}
    (distinct : (resources.storageResources.map Storage.name).Nodup) :
    resources.readBack (resources.extract doc).value = (resources.extract doc).value := by
  have storages : (resources.extract doc).value.storageResources =
      resources.storageResources.map fun entry => (entry.extract doc).value :=
    Logged.value_mapItems _ _
  have storagesReadBack : resources.storageResources.map
      (·.readBack (resources.extract doc).value.storageResources) =
      (resources.extract doc).value.storageResources := by
    rw [storages]
    exact List.map_congr_left fun entry membership => Storage.readBack_extract distinct membership
  change Params.Resources.mk
    (Knob.readBack resources.limitsMemory (Knob.extract resources.limitsMemory doc).value)
    (Knob.readBack resources.limitsCpu (Knob.extract resources.limitsCpu doc).value)
    (Knob.readBack resources.limitsGpu (Knob.extract resources.limitsGpu doc).value)
    (Knob.readBack resources.requestsMemory (Knob.extract resources.requestsMemory doc).value)
    (Knob.readBack resources.requestsCpu (Knob.extract resources.requestsCpu doc).value)
    (Knob.readBack resources.requestsGpu (Knob.extract resources.requestsGpu doc).value)
    (resources.storageResources.map
      (·.readBack (resources.extract doc).value.storageResources)) = _
  simp only [Knob.readBack_extract, storagesReadBack]
  rfl

theorem Role.base_extract (role : Role) :
    (role.extract doc).value.base = role.base.map fun base => (base.extract doc).value :=
  Logged.value_mapOption _ _

theorem Role.resources_extract (role : Role) :
    (role.extract doc).value.resources =
      role.resources.map fun resources => (resources.extract doc).value :=
  Logged.value_mapOption _ _

theorem Role.readBack_extract (reparses : doc.Reparses) {known : List Role}
    (distinct : (known.map Role.name).Nodup) {role : Role} (membership : role ∈ known)
    (unique : role.NamesUnique) :
    role.readBack (some (role.extract doc).value) = (role.extract doc).value.filled known := by
  have isKnown : lastNamed? Role.name (role.extract doc).value.name known = some role :=
    (lastNamed?_eq_named? distinct).trans (named?_of_mem distinct membership)
  have base : role.base.map (·.readBack (((role.extract doc).value.base).getD .unset)) =
      (role.extract doc).value.base.map fun values => role.base.elim values (values.filled ·) := by
    rw [Role.base_extract]
    cases isBase : role.base with
    | none => rfl
    | some base =>
        exact congrArg some (RoleBase.readBack_extract reparses (unique.others base isBase))
  have resources : role.resources.map
      (·.readBack (((role.extract doc).value.resources).getD .unset)) =
      (role.extract doc).value.resources := by
    rw [Role.resources_extract]
    cases isResources : role.resources with
    | none => rfl
    | some resources =>
        exact congrArg some (Resources.readBack_extract (unique.storageResources _ isResources))
  rw [Role.readBack, Params.Role.filled, isKnown, Option.bind_some, Option.bind_some, base,
    resources]
  rfl

theorem roles_extract (schema : Schema) :
    (schema.extract doc).value.roles = schema.roles.map fun role => (role.extract doc).value :=
  Logged.value_mapItems _ _

theorem readBack_extract (reparses : doc.Reparses) (known : schema.NamesUnique) :
    schema.readBack (schema.extract doc).value = (schema.extract doc).value.filled schema := by
  have parameters : schema.params.map (·.readBack (schema.params.map (·.extract doc))) =
      (schema.params.map (·.extract doc)).map (·.filled schema.params) := by
    rw [List.map_map]
    exact List.map_congr_left fun entry membership =>
      Parameter.readBack_extract reparses known.params membership
  have roles : schema.roles.map (fun role => role.readBack
      (named? Params.Role.name role.name (schema.extract doc).value.roles)) =
      (schema.extract doc).value.roles.map (·.filled schema.roles) := by
    rw [roles_extract, List.map_map]
    apply List.map_congr_left
    intro role membership
    have given : named? Params.Role.name role.name
        (schema.roles.map fun role => (role.extract doc).value) = some (role.extract doc).value :=
      named?_map (fun role => (role.extract doc).value) (fun _ => rfl) known.roles membership
    rw [given]
    exact Role.readBack_extract reparses known.roles membership (known.inRoles role membership)
  change Params.mk (schema.params.map (·.readBack (schema.params.map (·.extract doc)))) _ _ = _
  rw [parameters, roles]
  rfl

theorem Role.namesUnique_extract {role : Role} (unique : role.NamesUnique) (doc : Json) :
    (role.extract doc).value.NamesUnique where
  others := by
    intro base isBase
    rw [Role.base_extract] at isBase
    obtain ⟨entry, isEntry, rfl⟩ := Option.map_eq_some_iff.mp isBase
    change ((entry.others.map (·.extract doc)).map Params.Parameter.name).Nodup
    rw [List.map_map]
    exact unique.others entry isEntry
  storageResources := by
    intro resources isResources
    rw [Role.resources_extract] at isResources
    obtain ⟨entry, isEntry, rfl⟩ := Option.map_eq_some_iff.mp isResources
    change ((Logged.mapItems (·.extract doc) entry.storageResources).value.map
      Params.Storage.name).Nodup
    rw [Logged.value_mapItems, List.map_map]
    exact unique.storageResources entry isEntry

theorem namesUnique_extract (known : schema.NamesUnique) (doc : Json) :
    (schema.extract doc).value.NamesUnique where
  params := by
    change ((schema.params.map (·.extract doc)).map Params.Parameter.name).Nodup
    rw [List.map_map]
    exact known.params
  roles := by
    rw [roles_extract, List.map_map]
    exact known.roles
  inRoles := by
    rw [roles_extract, List.forall_mem_map]
    exact fun role membership => Role.namesUnique_extract (known.inRoles role membership) doc

theorem eq_payload_of_mem_written {known : List Parameter} {parameter : Params.Parameter}
    {payload : String} (membership : payload ∈ parameter.written known) :
    payload = parameter.payload := by
  unfold Params.Parameter.written at membership
  split at membership
  · cases membership
  · split at membership
    · cases membership
    · exact List.mem_singleton.mp membership

theorem exists_payload_of_mem_written (reparses : doc.Reparses) :
    ∀ payload ∈ (schema.extract doc).value.written schema,
      ∃ value, Writing.payload payload = .ok value := by
  have readable (entries known : List Parameter) (payload : String)
      (membership : payload ∈ (entries.map (·.extract doc)).flatMap (·.written known)) :
      ∃ value, Writing.payload payload = .ok value := by
    obtain ⟨parameter, inEntries, inWritten⟩ := List.mem_flatMap.mp membership
    obtain ⟨entry, -, rfl⟩ := List.mem_map.mp inEntries
    rw [eq_payload_of_mem_written inWritten]
    exact exists_payload_rawAt reparses entry.mapKey
  refine List.forall_mem_append.mpr ⟨readable _ _, ?_⟩
  rw [roles_extract, List.forall_mem_flatMap, List.forall_mem_map]
  intro role _
  unfold Params.Role.written
  split
  · exact List.forall_mem_nil _
  · rw [forall_mem_bundle, Role.base_extract]
    intro base _ values isValues
    obtain ⟨entry, -, rfl⟩ := Option.map_eq_some_iff.mp isValues
    exact readable _ _

theorem separate_writes {params : Params} (known : schema.NamesUnique) (given : params.NamesUnique)
    (apart : schema.KeysApart) (writable : schema.KeysWritable) :
    Separate (params.writes schema) := by
  have writableKeys (write : Write) (inWrites : write ∈ params.writes schema) :
      (∀ key ∈ write.keys, key ≠ "") ∧ write.keys.length ≤ maxMergeDepth := by
    obtain ⟨assignment, inAssignments, inWritten⟩ :=
      List.mem_flatMap.mp ((writes_perm known given).mem_iff.mp inWrites)
    obtain ⟨nonempty, isPath, -⟩ := Assignment.eq_of_mem_writes inWritten
    have inKeys : assignment.mapKey ∈ schema.mapKeys := by
      rw [← schema.mapKey_assignments params]
      exact List.mem_map_of_mem inAssignments
    rw [Write.keys, ← isPath]
    exact writable _ inKeys nonempty
  exact {
    apart := pairwise_apart_writes known given apart
    valid := fun write inWrites => (writableKeys write inWrites).1
    short := fun write inWrites => (writableKeys write inWrites).2 }

theorem withoutCores_of_forall {params : Params}
    (without : ∀ role ∈ params.roles, ∀ resources ∈ role.resources,
      resources.withoutCores = resources) : params.withoutCores = params := by
  have same : params.roles.map (·.withoutCores) = params.roles := by
    refine (List.map_congr_left fun role membership => ?_).trans (List.map_id _)
    rw [Params.Role.withoutCores,
      Option.map_congr fun resources isResources => without role membership resources isResources,
      Option.map_id']
    rfl
  rw [Params.withoutCores, same]

theorem withoutCores_extract (noCores : schema.HasNoCores) (doc : Json) :
    (schema.extract doc).value.withoutCores = (schema.extract doc).value := by
  apply withoutCores_of_forall
  rw [roles_extract, List.forall_mem_map]
  intro role membership values isValues
  rw [Role.resources_extract] at isValues
  obtain ⟨resources, isResources, rfl⟩ := Option.map_eq_some_iff.mp isValues
  have without := noCores role membership resources isResources
  obtain ⟨limitsMemory, limitsCpu, limitsGpu, requestsMemory, requestsCpu, requestsGpu, storages⟩ :=
    resources
  obtain ⟨rfl, rfl, rfl, rfl⟩ := without
  rfl

theorem withoutCores_readBack (noCores : schema.HasNoCores) (params : Params) :
    (schema.readBack params).withoutCores = schema.readBack params := by
  refine withoutCores_of_forall (List.forall_mem_map.mpr fun role membership values isValues => ?_)
  obtain ⟨resources, isResources, rfl⟩ := Option.map_eq_some_iff.mp isValues
  have without := noCores role membership resources isResources
  obtain ⟨limitsMemory, limitsCpu, limitsGpu, requestsMemory, requestsCpu, requestsGpu, storages⟩ :=
    resources
  obtain ⟨rfl, rfl, rfl, rfl⟩ := without
  rfl

/-- A parameter list that was extracted from any document builds a document, which gives back that
parameter list with null for what was missing, numbers of cores apart. If the schema has none of
these, the parameter list of the built document builds the same document again. -/
theorem construct_extract (known : schema.NamesUnique) (apart : schema.KeysApart)
    (writable : schema.KeysWritable) (reparses : doc.Reparses) :
    ∃ built, ((schema.extract doc).value.construct schema).result = .ok built ∧
      (schema.extract built).value.withoutCores =
        ((schema.extract doc).value.filled schema).withoutCores ∧
      (schema.HasNoCores → ((schema.extract built).value.construct schema).result = .ok built) := by
  have given := namesUnique_extract known doc
  obtain ⟨built, success⟩ := exists_construct (exists_payload_of_mem_written reparses)
    (separate_writes known given apart writable)
  have readBack := (extract_construct known given apart success).1
  refine ⟨built, success, ?_, fun noCores => ?_⟩
  · rw [readBack, readBack_extract reparses known]
  · rw [withoutCores_extract noCores, withoutCores_readBack noCores,
      readBack_extract reparses known] at readBack
    rw [readBack, construct_filled, success]

/-- An image that is no text and a variable without a value are put in order by the first document,
and an amount and a parameter that are missing become zero and null. -/
theorem construct_extract_role :
    let schema : Schema := {
      friendlyName := "", categories := [], dependencies := [], plugins := [], customParams := []
      params := [⟨"tree", "top.tree", none, "", none, false⟩,
        ⟨"other", "top.other", none, "", none, false⟩]
      roles := [⟨"web", "", "",
        some ⟨some (.new .text "web.image"), none, none, some (.new .environment "web.env"), none,
          []⟩,
        some ⟨some (.new .memory "web.limit"), none, none, none, none, none, []⟩, none⟩] }
    let env := Json.arr [.obj [("name", .str "A")]]
    let web := Json.obj [("image", .bool true), ("env", env)]
    let top := Json.obj [("tree", .bool false)]
    let doc := Json.obj [("web", web), ("top", top)]
    let built := Json.obj [
      ("top", .obj [("tree", .bool false), ("other", .null)]),
      ("web", .obj [("image", .str "true"),
        ("env", .arr [.obj [("name", .str "A"), ("value", .str "")]]), ("limit", .str "0Mi")])]
    ((schema.extract doc).value.construct schema).result = .ok built ∧
      ((schema.extract built).value.construct schema).result = .ok built := by
  intro schema env web top doc built
  have known : schema.NamesUnique := by
    refine ⟨by decide, by decide, List.forall_mem_singleton.mpr ⟨?_, ?_⟩⟩ <;>
      · rintro _ ⟨⟩
        decide
  have apart : schema.KeysApart := by
    unfold KeysApart
    decide
  have writable : schema.KeysWritable := by
    unfold KeysWritable
    decide
  have flag (value : Bool) : (Json.bool value).Reparses :=
    Json.reparses_leaf rfl (by cases value <;> rfl)
  have reparses : doc.Reparses := by
    dsimp only [doc, web, top, env]
    refine Json.reparses_obj (by rfl)
      (List.forall_mem_cons.mpr ⟨?_, List.forall_mem_singleton.mpr ?_⟩)
    · refine Json.reparses_obj (by rfl) (List.forall_mem_cons.mpr ⟨flag true, ?_⟩)
      exact List.forall_mem_singleton.mpr (Json.reparses_leaf rfl (by rfl))
    · exact Json.reparses_obj (by rfl) (List.forall_mem_singleton.mpr (flag false))
  have noCores : schema.HasNoCores := by
    refine List.forall_mem_singleton.mpr ?_
    rintro _ ⟨⟩
    exact ⟨rfl, rfl, rfl, rfl⟩
  have builds : ((schema.extract doc).value.construct schema).result = .ok built := by
    dsimp only [schema, doc, web, top, env, built]
    rfl
  obtain ⟨first, success, -, stable⟩ := construct_extract known apart writable reparses
  obtain rfl : built = first := Except.ok.inj (builds.symm.trans success)
  exact ⟨builds, stable noCores⟩

end Schema

end ChartParams
