import ChartParams.Proofs.Knob.ReadBack
import ChartParams.Proofs.Params.Assignment

/-!
# Extracting what was built

`Schema.readBack` tells what is extracted from the document of a parameter list: every entry with a
map key gives the value that the parameter list has for it, or the zero of its type. That is so if
names differ and map keys are apart, and if numbers of cores are left out.
-/

namespace ChartParams

open Params

namespace Params

/-- Resources without their numbers of cores, of which only the presence is left. -/
def Resources.withoutCores (resources : Resources) : Resources :=
  { resources with
    limitsCpu := resources.limitsCpu.map fun _ => .zero false
    limitsGpu := resources.limitsGpu.map fun _ => .zero false
    requestsCpu := resources.requestsCpu.map fun _ => .zero false
    requestsGpu := resources.requestsGpu.map fun _ => .zero false }

def Role.withoutCores (role : Role) : Role :=
  { role with resources := role.resources.map (·.withoutCores) }

def withoutCores (params : Params) : Params :=
  { params with roles := params.roles.map (·.withoutCores) }

end Params

namespace Schema

def Knob.readBack {type : KnobType} (knob : Option (Knob type)) (given : Option type.Value) :
    Option type.Value :=
  knob.map fun knob =>
    if knob.mapKey.isEmpty then type.zero else (given.map type.kept).getD type.zero

/-- The text that is read back of a payload that was written. -/
def payloadText (payload : String) : String :=
  match Writing.payload payload with
  | .ok value => value.compact
  | .error _ => ""

def Parameter.readBack (given : List Params.Parameter) (entry : Parameter) : Params.Parameter where
  name := entry.name
  kind := entry.kind
  payload :=
    if entry.mapKey.isEmpty then
      ""
    else
      (named? Params.Parameter.name entry.name given).elim "" fun parameter =>
        payloadText parameter.payload

def Storage.readBack (given : List Params.Storage) (entry : Storage) : Params.Storage where
  name := entry.name
  request :=
    if entry.mapKey.isEmpty then
      none
    else
      (named? Params.Storage.name entry.name given).bind fun storage =>
        storage.request.map (·.kept)

def RoleBase.readBack (base : RoleBase) (given : Params.RoleBase) : Params.RoleBase where
  image := Knob.readBack base.image given.image
  priority := Knob.readBack base.priority given.priority
  replicas := Knob.readBack base.replicas given.replicas
  env := Knob.readBack base.env given.env
  useHostNetwork := Knob.readBack base.useHostNetwork given.useHostNetwork
  others := base.others.map (·.readBack given.others)

def Resources.readBack (resources : Resources) (given : Params.Resources) : Params.Resources where
  limitsMemory := Knob.readBack resources.limitsMemory given.limitsMemory
  limitsCpu := Knob.readBack resources.limitsCpu given.limitsCpu
  limitsGpu := Knob.readBack resources.limitsGpu given.limitsGpu
  requestsMemory := Knob.readBack resources.requestsMemory given.requestsMemory
  requestsCpu := Knob.readBack resources.requestsCpu given.requestsCpu
  requestsGpu := Knob.readBack resources.requestsGpu given.requestsGpu
  storageResources := resources.storageResources.map (·.readBack given.storageResources)

def Role.readBack (role : Role) (given : Option Params.Role) : Params.Role where
  name := role.name
  base := role.base.map (·.readBack ((given.bind (·.base)).getD .unset))
  resources := role.resources.map (·.readBack ((given.bind (·.resources)).getD .unset))

/-- What is extracted from the document of a parameter list. -/
def readBack (schema : Schema) (given : Params) : Params where
  params := schema.params.map (·.readBack given.params)
  roles := schema.roles.map fun role =>
    role.readBack (named? Params.Role.name role.name given.roles)
  customParams := schema.customParams

end Schema

namespace Schema

variable {doc : Json}

theorem Knob.value_extract {type : KnobType} (notCores : type ≠ .cores) {knob : Option (Knob type)}
    {given : Option type.Value} (held : ∀ assignment ∈ Knob.assignments knob given,
      assignment.HeldBy doc) : (Knob.extract knob doc).value = Knob.readBack knob given := by
  cases knob with
  | none => rfl
  | some knob =>
      have found : doc.get? knob.mapKey =
          if knob.mapKey.isEmpty then none else given.map type.write :=
        held _ List.mem_cons_self
      change some (type.read doc knob.mapKey).value = some (if knob.mapKey.isEmpty then _ else _)
      by_cases isEmpty : knob.mapKey.isEmpty
      · rw [if_pos isEmpty] at found ⊢
        rw [KnobType.value_read_of_none found]
      · rw [if_neg isEmpty] at found ⊢
        cases given with
        | none => rw [KnobType.value_read_of_none found]; rfl
        | some value => rw [KnobType.value_read_of_get? notCores found]; rfl

theorem Knob.isSome_extract {type : KnobType} (knob : Option (Knob type))
    (given : Option type.Value) (zero : type.Value) :
    ((Knob.extract knob doc).value.map fun _ => zero) =
      (Knob.readBack knob given).map fun _ => zero := by
  cases knob <;> rfl

theorem Parameter.extract_eq_readBack {given : List Params.Parameter} {entry : Parameter}
    (held : (entry.assignment given).HeldBy doc) : entry.extract doc = entry.readBack given := by
  have found : doc.get? entry.mapKey = if entry.mapKey.isEmpty then none else _ := held
  rw [Parameter.extract, Parameter.readBack, Json.rawAt]
  by_cases isEmpty : entry.mapKey.isEmpty
  · rw [if_pos isEmpty] at found ⊢
    rw [found]
  · rw [if_neg isEmpty] at found ⊢
    rw [found, Parameter.assignment]
    cases named? Params.Parameter.name entry.name given with
    | none => rfl
    | some parameter =>
        simp only [Option.bind_some, Option.elim_some, payloadText]
        cases Writing.payload parameter.payload <;> rfl

theorem Storage.value_extract {given : List Params.Storage} {entry : Storage}
    (held : (entry.assignment given).HeldBy doc) :
    (entry.extract doc).value = entry.readBack given := by
  have found : doc.get? entry.mapKey = if entry.mapKey.isEmpty then none else _ := held
  change Params.Storage.mk _ (Reading.storage doc entry.mapKey).value = _
  rw [Storage.readBack]
  by_cases isEmpty : entry.mapKey.isEmpty
  · rw [if_pos isEmpty] at found ⊢
    rw [Reading.value_storage_of_none found]
  · rw [if_neg isEmpty] at found ⊢
    rw [Storage.assignment] at found
    cases isGiven : named? Params.Storage.name entry.name given with
    | none =>
        rw [isGiven] at found
        rw [Reading.value_storage_of_none found]
        rfl
    | some storage =>
        rw [isGiven] at found
        cases request : storage.request with
        | none =>
            rw [Option.bind_some, request] at found ⊢
            rw [Reading.value_storage_of_none found]
            rfl
        | some spec =>
            rw [Option.bind_some, request] at found ⊢
            rw [Reading.value_storage_of_get? found]
            rfl

/-- A list of variables that sets nothing is read back as if there were none. -/
theorem Knob.readBack_someVariables (knob : Option (Knob .environment))
    (given : Option (List EnvVar)) :
    Knob.readBack knob (someVariables given) = Knob.readBack knob given := by
  match given with
  | none | some [] | some (_ :: _) => rfl

theorem RoleBase.value_extract {base : RoleBase} {given : Params.RoleBase}
    (held : ∀ assignment ∈ base.assignments given, assignment.HeldBy doc) :
    (base.extract doc).value = base.readBack given := by
  simp only [RoleBase.assignments, List.forall_mem_append, List.forall_mem_map] at held
  obtain ⟨⟨⟨⟨⟨image, useHostNetwork⟩, priority⟩, env⟩, replicas⟩, others⟩ := held
  have parameters : base.others.map (·.extract doc) = base.others.map (·.readBack given.others) :=
    List.map_congr_left fun entry membership =>
      Parameter.extract_eq_readBack (others entry membership)
  change Params.RoleBase.mk (Knob.extract base.image doc).value (Knob.extract base.priority doc).value
    (Knob.extract base.replicas doc).value (Knob.extract base.env doc).value
    (Knob.extract base.useHostNetwork doc).value (base.others.map (·.extract doc)) = _
  rw [Knob.value_extract (by decide) image, Knob.value_extract (by decide) useHostNetwork,
    Knob.value_extract (by decide) priority, Knob.value_extract (by decide) env,
    Knob.value_extract (by decide) replicas, Knob.readBack_someVariables, parameters]
  rfl

theorem Resources.value_extract {resources : Resources} {given : Params.Resources}
    (held : ∀ assignment ∈ resources.assignments given, assignment.HeldBy doc) :
    (resources.extract doc).value.withoutCores = (resources.readBack given).withoutCores := by
  simp only [Resources.assignments, List.forall_mem_append, List.forall_mem_map] at held
  obtain ⟨⟨⟨⟨⟨⟨limitsMemory, -⟩, -⟩, requestsMemory⟩, -⟩, -⟩, storageResources⟩ := held
  have storages : (Logged.mapItems (·.extract doc) resources.storageResources).value =
      resources.storageResources.map (·.readBack given.storageResources) := by
    rw [Logged.value_mapItems]
    exact List.map_congr_left fun entry membership =>
      Storage.value_extract (storageResources entry membership)
  change Params.Resources.mk (Knob.extract resources.limitsMemory doc).value
    ((Knob.extract resources.limitsCpu doc).value.map fun _ => .zero false)
    ((Knob.extract resources.limitsGpu doc).value.map fun _ => .zero false)
    (Knob.extract resources.requestsMemory doc).value
    ((Knob.extract resources.requestsCpu doc).value.map fun _ => .zero false)
    ((Knob.extract resources.requestsGpu doc).value.map fun _ => .zero false)
    (Logged.mapItems (·.extract doc) resources.storageResources).value = _
  rw [Knob.value_extract (by decide) limitsMemory, Knob.value_extract (by decide) requestsMemory,
    storages, Knob.isSome_extract _ given.limitsCpu, Knob.isSome_extract _ given.limitsGpu,
    Knob.isSome_extract _ given.requestsCpu, Knob.isSome_extract _ given.requestsGpu]
  rfl

theorem Role.value_extract {role : Role} {given : Option Params.Role}
    (held : ∀ assignment ∈ role.assignments given, assignment.HeldBy doc) :
    (role.extract doc).value.withoutCores = (role.readBack given).withoutCores := by
  simp only [Role.assignments, List.forall_mem_append, List.forall_mem_flatMap,
    Option.mem_toList] at held
  have base : role.base.map (fun base => (base.extract doc).value) =
      role.base.map (·.readBack ((given.bind (·.base)).getD .unset)) :=
    Option.map_congr fun base isBase => RoleBase.value_extract (held.1 base isBase)
  have resources :
      role.resources.map (fun resources => (resources.extract doc).value.withoutCores) =
      role.resources.map fun resources =>
        (resources.readBack ((given.bind (·.resources)).getD .unset)).withoutCores :=
    Option.map_congr fun resources isResources =>
      Resources.value_extract (held.2 resources isResources)
  change Params.Role.mk role.name (Logged.mapOption (·.extract doc) role.base).value
    ((Logged.mapOption (·.extract doc) role.resources).value.map (·.withoutCores)) = _
  rw [Logged.value_mapOption, Logged.value_mapOption, Option.map_map, base]
  refine congrArg (Params.Role.mk _ _) (resources.trans ?_)
  rw [Role.readBack, Option.map_map]
  rfl

/-- Whoever holds what a parameter list assigns gives it back. -/
theorem value_extract {schema : Schema} {params : Params}
    (held : ∀ assignment ∈ schema.assignments params, assignment.HeldBy doc) :
    (schema.extract doc).value.withoutCores = (schema.readBack params).withoutCores := by
  simp only [assignments, List.forall_mem_append, List.forall_mem_map,
    List.forall_mem_flatMap] at held
  have parameters :
      schema.params.map (·.extract doc) = schema.params.map (·.readBack params.params) :=
    List.map_congr_left fun entry membership =>
      Parameter.extract_eq_readBack (held.1 entry membership)
  have roles : schema.roles.map (fun role => (role.extract doc).value.withoutCores) =
      schema.roles.map fun role =>
        (role.readBack (named? Params.Role.name role.name params.roles)).withoutCores :=
    List.map_congr_left fun role membership => Role.value_extract (held.2 role membership)
  change Params.mk (schema.params.map (·.extract doc))
    ((Logged.mapItems (·.extract doc) schema.roles).value.map (·.withoutCores)) _ = _
  rw [Logged.value_mapItems, List.map_map, parameters]
  refine congrArg (Params.mk _ · _) (roles.trans ?_)
  rw [readBack, List.map_map]
  rfl

/-- The document of a parameter list gives back the values of the parameter list. Every payload that
was written could be read, so its text is that of a document. -/
theorem extract_construct {schema : Schema} {params : Params} (known : schema.NamesUnique)
    (given : params.NamesUnique) (apart : schema.KeysApart)
    (built : (params.construct schema).result = .ok doc) :
    (schema.extract doc).value.withoutCores = (schema.readBack params).withoutCores ∧
      ∀ payload ∈ params.written schema, ∃ value, Writing.payload payload = .ok value :=
  ⟨value_extract (heldBy_of_construct known given apart built), readable_of_construct built⟩

/-- Memory is read back unless it is too large in bytes, and a payload as the text of its document.
The volume and the second parameter are not given. -/
theorem extract_construct_role :
    let schema : Schema := {
      friendlyName := "", categories := [], dependencies := [], plugins := [], customParams := []
      params := [⟨"tree", "top.tree", none, "", none, false⟩,
        ⟨"other", "top.other", none, "", none, false⟩]
      roles := [⟨"web", "", "",
        some ⟨some (.new .text "web.image"), none, none, some (.new .environment "web.env"), none,
          []⟩,
        some ⟨some (.new .memory "web.limit"), none, none, some (.new .memory "web.request"), none,
          none, [⟨"data", "web.data", none, "", "", false⟩]⟩, none⟩] }
    let params : Params := {
      customParams := []
      params := [⟨"tree", none, "[ true ]"⟩]
      roles := [⟨"web", some ⟨some "nginx", none, none, some [⟨"A", "1"⟩], none, []⟩,
        some ⟨some 512, none, none, some 0x1000_0000_0000, none, none, []⟩⟩] }
    let extracted : Params := {
      customParams := []
      params := [⟨"tree", none, "[true]"⟩, ⟨"other", none, ""⟩]
      roles := [⟨"web", some ⟨some "nginx", none, none, some [⟨"A", "1"⟩], none, []⟩,
        some ⟨some 512, none, none, some 0, none, none, [⟨"data", none⟩]⟩⟩] }
    ∃ doc, (params.construct schema).result = .ok doc ∧
      (schema.extract doc).value.withoutCores = extracted := by
  intro schema params extracted
  have known : schema.NamesUnique := by
    refine ⟨by decide, by decide, List.forall_mem_singleton.mpr ⟨?_, ?_⟩⟩ <;>
      · rintro _ ⟨⟩
        decide
  have given : params.NamesUnique := by
    refine ⟨by decide, by decide, List.forall_mem_singleton.mpr ⟨?_, ?_⟩⟩ <;>
      · rintro _ ⟨⟩
        decide
  have apart : schema.KeysApart := by
    unfold Schema.KeysApart
    decide
  obtain ⟨doc, built⟩ : ∃ doc, (params.construct schema).result = .ok doc := ⟨_, rfl⟩
  exact ⟨doc, built, (extract_construct known given apart built).1.trans rfl⟩

end Schema

end ChartParams
