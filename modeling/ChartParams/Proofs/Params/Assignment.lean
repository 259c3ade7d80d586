import ChartParams.Proofs.Params.Construction
import ChartParams.Proofs.Params.Names
import ChartParams.Schema.Extraction
import Mathlib.Data.List.Pairwise

/-!
# What a parameter list assigns to the entries of a schema

`Schema.assignments` goes through the entries of a schema and looks up, by name, the value that a
parameter list gives to each. If all names differ, these are the writes of the parameter list up to
their order. If the map keys are apart as well, every entry finds its own value in the document.
-/

namespace ChartParams

open ChartParams.Path Params

/-- The map key of an entry and the value that is given to the entry, if any is. -/
structure Assignment where
  mapKey : String
  value : Option Json

def Assignment.writes (assignment : Assignment) : List Write :=
  assignment.value.elim [] (writeAt assignment.mapKey)

def Params.RoleBase.unset : RoleBase := ⟨none, none, none, none, none, []⟩

def Params.Resources.unset : Resources := ⟨none, none, none, none, none, none, []⟩

namespace Schema

def Parameter.assignment (given : List Params.Parameter) (entry : Parameter) : Assignment :=
  ⟨entry.mapKey, (named? Params.Parameter.name entry.name given).bind fun parameter =>
    (Writing.payload parameter.payload).toOption⟩

def Storage.assignment (given : List Params.Storage) (entry : Storage) : Assignment :=
  ⟨entry.mapKey, (named? Params.Storage.name entry.name given).bind fun storage =>
    storage.request.map fun spec => Writing.storage (some spec)⟩

def Knob.assignments {type : KnobType} (knob : Option (Knob type)) (value : Option type.Value) :
    List Assignment :=
  knob.toList.map fun knob => ⟨knob.mapKey, value.map type.write⟩

def RoleBase.assignments (base : RoleBase) (given : Params.RoleBase) : List Assignment :=
  Knob.assignments base.image given.image ++
  Knob.assignments base.useHostNetwork given.useHostNetwork ++
  Knob.assignments base.priority given.priority ++
  Knob.assignments base.env (someVariables given.env) ++
  Knob.assignments base.replicas given.replicas ++
  base.others.map (·.assignment given.others)

def Resources.assignments (resources : Resources) (given : Params.Resources) : List Assignment :=
  Knob.assignments resources.limitsMemory given.limitsMemory ++
  Knob.assignments resources.limitsGpu given.limitsGpu ++
  Knob.assignments resources.limitsCpu given.limitsCpu ++
  Knob.assignments resources.requestsMemory given.requestsMemory ++
  Knob.assignments resources.requestsGpu given.requestsGpu ++
  Knob.assignments resources.requestsCpu given.requestsCpu ++
  resources.storageResources.map (·.assignment given.storageResources)

def Role.assignments (role : Role) (given : Option Params.Role) : List Assignment :=
  role.base.toList.flatMap (·.assignments ((given.bind (·.base)).getD .unset)) ++
  role.resources.toList.flatMap (·.assignments ((given.bind (·.resources)).getD .unset))

/-- What a parameter list assigns to the entries of a schema. -/
def assignments (schema : Schema) (given : Params) : List Assignment :=
  schema.params.map (·.assignment given.params) ++
  schema.roles.flatMap fun role =>
    role.assignments (named? Params.Role.name role.name given.roles)

def Knob.mapKeys {type : KnobType} (knob : Option (Knob type)) : List String :=
  knob.toList.map (·.mapKey)

def RoleBase.mapKeys (base : RoleBase) : List String :=
  Knob.mapKeys base.image ++ Knob.mapKeys base.useHostNetwork ++ Knob.mapKeys base.priority ++
  Knob.mapKeys base.env ++ Knob.mapKeys base.replicas ++ base.others.map (·.mapKey)

def Resources.mapKeys (resources : Resources) : List String :=
  Knob.mapKeys resources.limitsMemory ++ Knob.mapKeys resources.limitsGpu ++
  Knob.mapKeys resources.limitsCpu ++ Knob.mapKeys resources.requestsMemory ++
  Knob.mapKeys resources.requestsGpu ++ Knob.mapKeys resources.requestsCpu ++
  resources.storageResources.map (·.mapKey)

def Role.mapKeys (role : Role) : List String :=
  role.base.toList.flatMap (·.mapKeys) ++ role.resources.toList.flatMap (·.mapKeys)

def mapKeys (schema : Schema) : List String :=
  schema.params.map (·.mapKey) ++ schema.roles.flatMap (·.mapKeys)

/-- No two entries have the same map key or one inside the other's, missing map keys apart. -/
def KeysApart (schema : Schema) : Prop :=
  schema.mapKeys.Pairwise fun first second =>
    first ≠ "" → second ≠ "" → Apart (split first) (split second)

/-- Every map key can be written, missing ones apart: no key in it is empty, and it is not too deep
to be merged. -/
def KeysWritable (schema : Schema) : Prop :=
  ∀ mapKey ∈ schema.mapKeys, mapKey ≠ "" →
    (∀ key ∈ split mapKey, key ≠ "") ∧ (split mapKey).length ≤ maxMergeDepth

structure Role.NamesUnique (role : Role) : Prop where
  others : ∀ base ∈ role.base, (base.others.map Parameter.name).Nodup
  storageResources : ∀ resources ∈ role.resources,
    (resources.storageResources.map Storage.name).Nodup

/-- The names in every list of a schema differ. -/
structure NamesUnique (schema : Schema) : Prop where
  params : (schema.params.map Parameter.name).Nodup
  roles : (schema.roles.map Role.name).Nodup
  inRoles : ∀ role ∈ schema.roles, role.NamesUnique

end Schema

structure Params.Role.NamesUnique (role : Role) : Prop where
  others : ∀ base ∈ role.base, (base.others.map Parameter.name).Nodup
  storageResources : ∀ resources ∈ role.resources,
    (resources.storageResources.map Storage.name).Nodup

structure Params.NamesUnique (given : Params) : Prop where
  params : (given.params.map Parameter.name).Nodup
  roles : (given.roles.map Role.name).Nodup
  inRoles : ∀ role ∈ given.roles, role.NamesUnique

namespace Schema

theorem mapKey_knobAssignments {type : KnobType} (knob : Option (Knob type))
    (value : Option type.Value) :
    (Knob.assignments knob value).map Assignment.mapKey = Knob.mapKeys knob := by
  cases knob <;> rfl

theorem mapKey_assignments (schema : Schema) (params : Params) :
    (schema.assignments params).map Assignment.mapKey = schema.mapKeys := by
  simp only [assignments, mapKeys, Role.assignments, Role.mapKeys, RoleBase.assignments,
    RoleBase.mapKeys, Resources.assignments, Resources.mapKeys, List.map_append, List.map_flatMap,
    List.map_map, mapKey_knobAssignments]
  rfl

theorem writes_knobAssignments {type : KnobType} (knob : Option (Knob type))
    (value : Option type.Value) :
    (Knob.assignments knob value).flatMap Assignment.writes = knobWrites knob value := by
  cases knob <;> cases value <;> simp [Knob.assignments, knobWrites, Assignment.writes]

/-- Values are written to the entries of their names. -/
theorem writes_entries_perm {α β : Type} {entryName mapKey : α → String} {valueName : β → String}
    {known : List α} {given : List β} (knownDistinct : (known.map entryName).Nodup)
    (givenDistinct : (given.map valueName).Nodup) (document : β → Option Json) :
    (given.flatMap fun value => (lastNamed? entryName (valueName value) known).elim [] fun entry =>
        (document value).elim [] (writeAt (mapKey entry))).Perm
      ((known.map fun entry => Assignment.mk (mapKey entry)
        ((named? valueName (entryName entry) given).bind document)).flatMap Assignment.writes) := by
  have matched := flatMap_matched_perm knownDistinct givenDistinct fun entry value =>
    (document value).elim [] (writeAt (mapKey entry))
  have fromEntries (entry : α) :
      Assignment.writes ⟨mapKey entry, (named? valueName (entryName entry) given).bind document⟩ =
        (named? valueName (entryName entry) given).elim [] fun value =>
          (document value).elim [] (writeAt (mapKey entry)) := by
    cases isGiven : named? valueName (entryName entry) given <;> simp [Assignment.writes]
  simpa only [List.flatMap_map, lastNamed?_eq_named? knownDistinct, fromEntries] using matched

theorem writes_parameters_perm {known : List Parameter} {given : List Params.Parameter}
    (knownDistinct : (known.map Parameter.name).Nodup)
    (givenDistinct : (given.map Params.Parameter.name).Nodup) :
    (given.flatMap (·.writes known)).Perm
      ((known.map (·.assignment given)).flatMap Assignment.writes) := by
  have written (parameter : Params.Parameter) : parameter.writes known =
      (lastNamed? Parameter.name parameter.name known).elim [] fun entry =>
        (Writing.payload parameter.payload).toOption.elim [] (writeAt entry.mapKey) := by
    rw [Params.Parameter.writes]
    cases lastNamed? Parameter.name parameter.name known <;>
      cases Writing.payload parameter.payload <;> rfl
  simp only [written]
  exact writes_entries_perm knownDistinct givenDistinct _

theorem writes_storages_perm {known : List Storage} {given : List Params.Storage}
    (knownDistinct : (known.map Storage.name).Nodup)
    (givenDistinct : (given.map Params.Storage.name).Nodup) :
    (given.flatMap (·.writes known)).Perm
      ((known.map (·.assignment given)).flatMap Assignment.writes) := by
  have written (storage : Params.Storage) : storage.writes known =
      (lastNamed? Storage.name storage.name known).elim [] fun entry =>
        (storage.request.map fun spec => Writing.storage (some spec)).elim []
          (writeAt entry.mapKey) := by
    rw [Params.Storage.writes]
    cases lastNamed? Storage.name storage.name known <;> cases storage.request <;> rfl
  simp only [written]
  exact writes_entries_perm knownDistinct givenDistinct _

theorem writes_base_perm {base : RoleBase} {given : Params.RoleBase}
    (knownDistinct : (base.others.map Parameter.name).Nodup)
    (givenDistinct : (given.others.map Params.Parameter.name).Nodup) :
    (given.writes base).Perm ((base.assignments given).flatMap Assignment.writes) := by
  rw [Params.RoleBase.writes, RoleBase.assignments]
  simp only [List.flatMap_append, writes_knobAssignments]
  exact (writes_parameters_perm knownDistinct givenDistinct).append_left _

theorem writes_resources_perm {resources : Resources} {given : Params.Resources}
    (knownDistinct : (resources.storageResources.map Storage.name).Nodup)
    (givenDistinct : (given.storageResources.map Params.Storage.name).Nodup) :
    (given.writes resources).Perm ((resources.assignments given).flatMap Assignment.writes) := by
  rw [Params.Resources.writes, Resources.assignments]
  simp only [List.flatMap_append, writes_knobAssignments]
  exact (writes_storages_perm knownDistinct givenDistinct).append_left _

theorem knobWrites_none {type : KnobType} (knob : Option (Knob type)) :
    knobWrites knob none = [] := by
  cases knob <;> rfl

theorem writes_unset_base {base : RoleBase} (distinct : (base.others.map Parameter.name).Nodup) :
    (base.assignments .unset).flatMap Assignment.writes = [] := by
  have nothing : Params.RoleBase.unset.writes base = [] := by
    rw [Params.RoleBase.writes, Params.RoleBase.unset, knobWrites_none, knobWrites_none,
      knobWrites_none, someVariables, Option.filter_none, knobWrites_none, knobWrites_none]
    rfl
  have matched := @writes_base_perm base .unset distinct .nil
  rw [nothing] at matched
  exact matched.nil_eq.symm

theorem writes_unset_resources {resources : Resources}
    (distinct : (resources.storageResources.map Storage.name).Nodup) :
    (resources.assignments .unset).flatMap Assignment.writes = [] := by
  have nothing : Params.Resources.unset.writes resources = [] := by
    rw [Params.Resources.writes, Params.Resources.unset, knobWrites_none, knobWrites_none,
      knobWrites_none, knobWrites_none, knobWrites_none, knobWrites_none]
    rfl
  have matched := @writes_resources_perm resources .unset distinct .nil
  rw [nothing] at matched
  exact matched.nil_eq.symm

theorem writes_bundle_perm {α β : Type} {writes : α → β → List Write}
    {assignments : α → β → List Assignment} {unset : β} {entry : Option α} {given : Option β}
    (matched : ∀ known ∈ entry, ∀ values ∈ given,
      (writes known values).Perm ((assignments known values).flatMap Assignment.writes))
    (nothing : ∀ known ∈ entry, (assignments known unset).flatMap Assignment.writes = []) :
    (bundle writes entry given).Perm
      ((entry.toList.flatMap (assignments · (given.getD unset))).flatMap Assignment.writes) := by
  cases entry with
  | none => exact .nil
  | some known =>
      rw [Option.toList_some, List.flatMap_singleton]
      cases given with
      | none => exact .of_eq (nothing known rfl).symm
      | some values => exact matched known rfl values rfl

theorem writes_role_perm {entry : Role} (known : entry.NamesUnique) (given : Option Params.Role)
    (unique : ∀ role ∈ given, role.NamesUnique) :
    (bundle Params.RoleBase.writes entry.base (given.bind (·.base)) ++
        bundle Params.Resources.writes entry.resources (given.bind (·.resources))).Perm
      ((entry.assignments given).flatMap Assignment.writes) := by
  rw [Role.assignments, List.flatMap_append]
  apply List.Perm.append
  · apply writes_bundle_perm
    · intro base isKnown values isGiven
      obtain ⟨role, isRole, isBase⟩ := Option.bind_eq_some_iff.mp isGiven
      exact writes_base_perm (known.others base isKnown) ((unique role isRole).others values isBase)
    · intro base isKnown
      exact writes_unset_base (known.others base isKnown)
  · apply writes_bundle_perm
    · intro resources isKnown values isGiven
      obtain ⟨role, isRole, isResources⟩ := Option.bind_eq_some_iff.mp isGiven
      exact writes_resources_perm (known.storageResources resources isKnown)
        ((unique role isRole).storageResources values isResources)
    · intro resources isKnown
      exact writes_unset_resources (known.storageResources resources isKnown)

end Schema

open Schema in
/-- The writes of a parameter list are those of its assignments, up to their order. -/
theorem Params.writes_perm {schema : Schema} {params : Params} (known : schema.NamesUnique)
    (given : params.NamesUnique) :
    (params.writes schema).Perm ((schema.assignments params).flatMap Assignment.writes) := by
  rw [Params.writes, assignments, List.flatMap_append, List.flatMap_assoc]
  apply (writes_parameters_perm known.params given.params).append
  have matched := flatMap_matched_perm known.roles given.roles fun entry role =>
    bundle Params.RoleBase.writes entry.base role.base ++
        bundle Params.Resources.writes entry.resources role.resources
  have fromValues (role : Params.Role) : role.writes schema.roles =
      (named? Schema.Role.name role.name schema.roles).elim [] fun entry =>
        bundle Params.RoleBase.writes entry.base role.base ++
        bundle Params.Resources.writes entry.resources role.resources := by
    rw [Params.Role.writes, lastNamed?_eq_named? known.roles]
    cases named? Schema.Role.name role.name schema.roles <;> rfl
  simp only [← fromValues] at matched
  refine matched.trans (List.Perm.flatMap_left _ fun entry membership => ?_)
  have fromEntry := writes_role_perm (known.inRoles entry membership)
    (named? Role.name entry.name params.roles)
    fun role found => given.inRoles role (mem_of_named? found)
  refine .trans (.of_eq ?_) fromEntry
  cases named? Role.name entry.name params.roles with
  | none => cases entry.base <;> cases entry.resources <;> rfl
  | some role => rfl

namespace Assignment

/-- The places of two assignments are apart unless one of them has no map key. -/
def ApartFrom (first second : Assignment) : Prop :=
  first.mapKey ≠ "" → second.mapKey ≠ "" → Apart (split first.mapKey) (split second.mapKey)

/-- A document holds what is assigned to an entry at its map key. -/
def HeldBy (doc : Json) (assignment : Assignment) : Prop :=
  doc.get? assignment.mapKey = if assignment.mapKey.isEmpty then none else assignment.value

instance : Std.Symm ApartFrom where
  symm _ _ apart second first := (apart first second).symm

theorem eq_of_mem_writes {assignment : Assignment} {write : Write}
    (membership : write ∈ assignment.writes) :
    assignment.mapKey ≠ "" ∧ assignment.mapKey = write.path ∧
      assignment.value = some write.value := by
  obtain ⟨mapKey, value⟩ := assignment
  cases value with
  | none => cases membership
  | some value =>
      simp only [writes, writeAt, Option.elim_some] at membership
      split at membership
      · cases membership
      · rename_i nonempty
        cases List.mem_singleton.mp membership
        exact ⟨by simpa using nonempty, rfl, rfl⟩

theorem mem_writes {mapKey : String} (nonempty : mapKey ≠ "") (value : Json) :
    ⟨mapKey, value⟩ ∈ writes ⟨mapKey, some value⟩ := by
  have present : mapKey.isEmpty = false := by simpa using nonempty
  simp [writes, writeAt, present]

end Assignment

namespace Params

variable {schema : Schema} {params : Params} {doc : Json}

theorem pairwise_apartFrom (apart : schema.KeysApart) (params : Params) :
    (schema.assignments params).Pairwise Assignment.ApartFrom := by
  rw [Schema.KeysApart, ← schema.mapKey_assignments params, List.pairwise_map] at apart
  exact apart

/-- The writes of a parameter list are apart if names differ and map keys are apart. -/
theorem pairwise_apart_writes (known : schema.NamesUnique) (given : params.NamesUnique)
    (apart : schema.KeysApart) :
    (params.writes schema).Pairwise fun first second => Apart first.keys second.keys := by
  refine ((writes_perm known given).pairwise_iff fun apart => apart.symm).mpr ?_
  refine List.pairwise_flatMap.mpr ⟨fun assignment _ => ?_, ?_⟩
  · obtain ⟨mapKey, value⟩ := assignment
    cases value with
    | none => exact .nil
    | some value =>
        rw [Assignment.writes, Option.elim_some, writeAt]
        split
        · exact .nil
        · exact List.pairwise_singleton _ _
  · refine (pairwise_apartFrom apart params).imp fun apartFrom first inFirst second inSecond => ?_
    obtain ⟨firstNonempty, firstPath, -⟩ := Assignment.eq_of_mem_writes inFirst
    obtain ⟨secondNonempty, secondPath, -⟩ := Assignment.eq_of_mem_writes inSecond
    rw [Write.keys, Write.keys, ← firstPath, ← secondPath]
    exact apartFrom firstNonempty secondNonempty

theorem heldBy_of_construct (known : schema.NamesUnique) (given : params.NamesUnique)
    (apart : schema.KeysApart) (built : (params.construct schema).result = .ok doc) :
    ∀ assignment ∈ schema.assignments params, assignment.HeldBy doc := by
  rintro ⟨mapKey, value⟩ membership
  by_cases isEmpty : mapKey.isEmpty
  · exact (if_pos isEmpty).trans (if_pos isEmpty).symm
  have nonempty : mapKey ≠ "" := by simpa using isEmpty
  have assembled := assembled_of_construct built
  have sameWrites (write : Write) := (writes_perm known given).mem_iff (a := write)
  refine Eq.trans ?_ (if_neg isEmpty).symm
  cases value with
  | some value =>
      have written : ⟨mapKey, value⟩ ∈ params.writes schema :=
        (sameWrites _).mpr
          (List.mem_flatMap_of_mem membership (Assignment.mem_writes nonempty value))
      have lasts := assembled.getAt?_of_mem (pairwise_apart_writes known given apart) written
      rwa [← assembled.get?_path written] at lasts
  | none =>
      have separate : ∀ write ∈ params.writes schema, Apart write.keys (split mapKey) := by
        intro write inWrites
        obtain ⟨other, inAssignments, inOther⟩ :=
          List.mem_flatMap.mp ((sameWrites write).mp inWrites)
        obtain ⟨otherNonempty, isPath, isValue⟩ := Assignment.eq_of_mem_writes inOther
        have different : other ≠ ⟨mapKey, none⟩ := by
          rintro rfl
          cases isValue
        rw [Write.keys, ← isPath]
        exact (pairwise_apartFrom apart params).forall inAssignments membership different
          otherNonempty nonempty
      rw [Json.get?_eq_getAt? (Bool.eq_false_iff.mpr isEmpty)]
      exact assembled.getAt?_eq_none_of_apart (split_ne_nil _) separate

end Params

end ChartParams
