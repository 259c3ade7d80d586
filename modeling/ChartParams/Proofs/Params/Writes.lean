import ChartParams.Params.Construction
import ChartParams.Proofs.Json.Reading
import ChartParams.Proofs.Params.Assembly

/-!
# The writes of a parameter list

`Params.writes` lists what a parameter list writes, in order: the known parameters, then for every
known role its basic knobs, its other parameters, its resource knobs and its volumes. Missing
values, knobs that the schema lacks and entries without a map key write nothing. A document that is
built from a parameter list is assembled by these writes, and if the writes are apart from each
other and the payloads can be read, the document is built.
-/

namespace ChartParams

open ChartParams.Path

namespace Params

/-- A write at a map key, none if there is no map key. -/
def writeAt (mapKey : String) (value : Json) : List Write :=
  if mapKey.isEmpty then [] else [⟨mapKey, value⟩]

def Parameter.writes (known : List Schema.Parameter) (parameter : Parameter) : List Write :=
  match lastNamed? Schema.Parameter.name parameter.name known,
    Writing.payload parameter.payload with
  | some entry, .ok value => writeAt entry.mapKey value
  | _, _ => []

def knobWrites {type : KnobType} (knob : Option (Schema.Knob type)) (value : Option type.Value) :
    List Write :=
  match knob, value with
  | some knob, some value => writeAt knob.mapKey (type.write value)
  | _, _ => []

def Storage.writes (known : List Schema.Storage) (storage : Storage) : List Write :=
  match storage.request, lastNamed? Schema.Storage.name storage.name known with
  | some request, some entry => writeAt entry.mapKey (Writing.storage (some request))
  | _, _ => []

def RoleBase.writes (schema : Schema.RoleBase) (values : RoleBase) : List Write :=
  knobWrites schema.image values.image ++
  knobWrites schema.useHostNetwork values.useHostNetwork ++
  knobWrites schema.priority values.priority ++
  knobWrites schema.env (someVariables values.env) ++
  knobWrites schema.replicas values.replicas ++
  values.others.flatMap (·.writes schema.others)

def Resources.writes (schema : Schema.Resources) (values : Resources) : List Write :=
  knobWrites schema.limitsMemory values.limitsMemory ++
  knobWrites schema.limitsGpu values.limitsGpu ++
  knobWrites schema.limitsCpu values.limitsCpu ++
  knobWrites schema.requestsMemory values.requestsMemory ++
  knobWrites schema.requestsGpu values.requestsGpu ++
  knobWrites schema.requestsCpu values.requestsCpu ++
  values.storageResources.flatMap (·.writes schema.storageResources)

/-- The list of a bundle that both the schema and the values have. -/
def bundle {α β γ : Type} (list : α → β → List γ) (schema : Option α) (values : Option β) :
    List γ :=
  match schema, values with
  | some schema, some values => list schema values
  | _, _ => []

theorem flatMap_bundle {α β γ δ : Type} (list : α → β → List γ) (f : γ → List δ)
    (schema : Option α) (values : Option β) :
    (bundle list schema values).flatMap f =
      bundle (fun schema values => (list schema values).flatMap f) schema values := by
  cases schema <;> cases values <;> rfl

theorem forall_mem_bundle {α β γ : Type} {list : α → β → List γ} {schema : Option α}
    {values : Option β} {property : γ → Prop} :
    (∀ item ∈ bundle list schema values, property item) ↔
      ∀ known ∈ schema, ∀ given ∈ values, ∀ item ∈ list known given, property item := by
  cases schema <;> cases values <;> simp [bundle]

def Role.writes (known : List Schema.Role) (role : Role) : List Write :=
  match lastNamed? Schema.Role.name role.name known with
  | none => []
  | some entry =>
      bundle RoleBase.writes entry.base role.base ++
      bundle Resources.writes entry.resources role.resources

/-- What a parameter list writes, in order. -/
def writes (schema : Schema) (params : Params) : List Write :=
  params.params.flatMap (·.writes schema.params) ++ params.roles.flatMap (·.writes schema.roles)

def Parameter.written (known : List Schema.Parameter) (parameter : Parameter) : List String :=
  match lastNamed? Schema.Parameter.name parameter.name known with
  | none => []
  | some entry => if entry.mapKey.isEmpty then [] else [parameter.payload]

def RoleBase.written (schema : Schema.RoleBase) (values : RoleBase) : List String :=
  values.others.flatMap (·.written schema.others)

def Role.written (known : List Schema.Role) (role : Role) : List String :=
  match lastNamed? Schema.Role.name role.name known with
  | none => []
  | some entry => bundle RoleBase.written entry.base role.base

/-- The payloads that have to be read for building the document. -/
def written (schema : Schema) (params : Params) : List String :=
  params.params.flatMap (·.written schema.params) ++ params.roles.flatMap (·.written schema.roles)

end Params

namespace Step

def write? : Step → Option Write
  | write path (.ok value) => some ⟨path, value⟩
  | _ => none

/-- What is written by a step has a property, if the step writes at all. -/
def Content (property : Except Error Json → Prop) : Step → Prop
  | notice _ => True
  | write _ content => property content

def WellFormed : Step → Prop :=
  Content fun content => ∀ value, content = .ok value → value.WellFormed

/-- A step whose value could be made. -/
def IsReady : Step → Prop := Content fun content => ∃ value, content = .ok value

end Step

namespace Part

def allSteps (part : Part) : List Step := part.steps ++ part.others

def writes (part : Part) : List Write := part.allSteps.filterMap Step.write?

end Part

theorem Json.write_eq_ok_iff {doc written value : Json} {path : String} :
    doc.write path value = .ok written ↔ doc.set path value = .ok written := by
  rw [Json.write]
  exact mapError_eq_ok_iff

theorem Json.mergeOver_eq_ok_iff {doc overlay merged : Json} :
    doc.mergeOver overlay = .ok merged ↔ doc.merge overlay false = .ok merged := by
  rw [Json.mergeOver]
  exact mapError_eq_ok_iff

/-- Writes that do not disturb each other: apart in pairs, with keys that can be written and places
that are not too deep to be merged. -/
structure Separate (writes : List Write) : Prop where
  apart : writes.Pairwise fun first second => Apart first.keys second.keys
  valid : ∀ write ∈ writes, ∀ key ∈ write.keys, key ≠ ""
  short : ∀ write ∈ writes, write.keys.length ≤ maxMergeDepth

theorem Separate.sublist {writes fewer : List Write} (separate : Separate writes)
    (sublist : List.Sublist fewer writes) : Separate fewer where
  apart := separate.apart.sublist sublist
  valid write membership := separate.valid write (sublist.subset membership)
  short write membership := separate.short write (sublist.subset membership)

theorem Separate.apart_of_mem {writes later : List Write} (separate : Separate (writes ++ later)) :
    ∀ first ∈ writes, ∀ second ∈ later, Apart first.keys second.keys :=
  (List.pairwise_append.mp separate.apart).2.2

namespace Assembled

variable {writes : List Write} {doc next : Json}

theorem run (assembled : Assembled writes doc) {step : Step} (wellFormed : step.WellFormed)
    (success : (step.run doc).result = .ok next) :
    Assembled (writes ++ step.write?.toList) next := by
  match step, wellFormed, success with
  | .notice found, _, success =>
      cases success
      simpa [Step.write?] using assembled
  | .write path (.ok value), wellFormed, success =>
      exact .write ⟨path, value⟩ assembled (wellFormed value rfl) (Json.write_eq_ok_iff.mp success)
  | .write path (.error error), _, success => cases success

theorem runAll (assembled : Assembled writes doc) {steps : List Step}
    (wellFormed : ∀ step ∈ steps, step.WellFormed)
    (success : (steps.foldlM Step.run doc).result = .ok next) :
    Assembled (writes ++ steps.filterMap Step.write?) next := by
  rw [Attempt.result_foldlM] at success
  induction steps generalizing writes doc with
  | nil =>
      cases success
      simpa using assembled
  | cons step rest inductionHypothesis =>
      rw [List.foldlM_cons] at success
      rw [List.forall_mem_cons] at wellFormed
      obtain ⟨middle, result, success⟩ := bind_eq_ok_iff.mp success
      have first := assembled.run wellFormed.1 result
      have all := inductionHypothesis first wellFormed.2 success
      cases written : step.write? <;> simpa [List.filterMap_cons, written] using all

theorem exists_run (assembled : Assembled writes doc) {step : Step} (ready : step.IsReady)
    (separate : Separate (writes ++ step.write?.toList)) :
    ∃ next, (step.run doc).result = .ok next := by
  match step, ready, separate with
  | .notice found, _, _ => exact ⟨doc, rfl⟩
  | .write path (.ok value), _, separate =>
      have onlyWrite : (⟨path, value⟩ : Write) ∈ [(⟨path, value⟩ : Write)] := List.mem_cons_self
      obtain ⟨written, success⟩ := assembled.exists_set_eq_ok ⟨path, value⟩
        (separate.valid _ (List.mem_append_right _ onlyWrite))
        (fun earlier membership => separate.apart_of_mem earlier membership _ onlyWrite)
      exact ⟨written, Json.write_eq_ok_iff.mpr success⟩
  | .write _ (.error _), ⟨_, impossible⟩, _ => cases impossible

theorem exists_runAll (assembled : Assembled writes doc) {steps : List Step}
    (wellFormed : ∀ step ∈ steps, step.WellFormed) (ready : ∀ step ∈ steps, step.IsReady)
    (separate : Separate (writes ++ steps.filterMap Step.write?)) :
    ∃ next, (steps.foldlM Step.run doc).result = .ok next := by
  rw [Attempt.result_foldlM]
  induction steps generalizing writes doc with
  | nil => exact ⟨doc, rfl⟩
  | cons step rest inductionHypothesis =>
      rw [List.forall_mem_cons] at wellFormed ready
      have split : writes ++ (step :: rest).filterMap Step.write? =
          (writes ++ step.write?.toList) ++ rest.filterMap Step.write? := by
        cases written : step.write? <;> simp [written]
      rw [split] at separate
      obtain ⟨middle, first⟩ :=
        assembled.exists_run ready.1 (separate.sublist (List.sublist_append_left _ _))
      obtain ⟨next, others⟩ :=
        inductionHypothesis (assembled.run wellFormed.1 first) wellFormed.2 ready.2 separate
      refine ⟨next, ?_⟩
      rw [List.foldlM_cons, first]
      exact others

theorem result_document (part : Part) :
    part.document.result =
      (part.steps.foldlM Step.run (.obj [])).result.bind fun doc =>
        (part.others.foldlM Step.run (.obj [])).result.bind fun others => doc.mergeOver others := by
  simp [Part.document]

theorem document {part : Part} (wellFormed : ∀ step ∈ part.allSteps, step.WellFormed)
    (success : part.document.result = .ok doc) : Assembled part.writes doc := by
  rw [Part.allSteps, List.forall_mem_append] at wellFormed
  rw [result_document] at success
  obtain ⟨base, first, success⟩ := bind_eq_ok_iff.mp success
  obtain ⟨others, second, success⟩ := bind_eq_ok_iff.mp success
  have merged := (empty.runAll wellFormed.1 first).merge (empty.runAll wellFormed.2 second)
    (Json.mergeOver_eq_ok_iff.mp success)
  simpa [Part.writes, Part.allSteps] using merged

theorem exists_document {part : Part} (wellFormed : ∀ step ∈ part.allSteps, step.WellFormed)
    (ready : ∀ step ∈ part.allSteps, step.IsReady) (separate : Separate part.writes) :
    ∃ doc, part.document.result = .ok doc := by
  rw [Part.allSteps, List.forall_mem_append] at wellFormed ready
  rw [Part.writes, Part.allSteps, List.filterMap_append] at separate
  obtain ⟨base, first⟩ := empty.exists_runAll wellFormed.1 ready.1
    (separate.sublist (List.sublist_append_left _ _))
  obtain ⟨others, second⟩ := empty.exists_runAll wellFormed.2 ready.2
    (separate.sublist (List.sublist_append_right _ _))
  have baseAssembled := empty.runAll wellFormed.1 first
  have othersAssembled := empty.runAll wellFormed.2 second
  obtain ⟨merged, success⟩ := baseAssembled.exists_merge_eq_ok othersAssembled
    separate.apart_of_mem separate.short
  refine ⟨merged, ?_⟩
  rw [result_document, first, second]
  exact Json.mergeOver_eq_ok_iff.mpr success

theorem result_mergeInto (doc : Json) (part : Part) :
    (part.mergeInto doc).result =
      part.document.result.bind fun overlay => doc.mergeOver overlay := by
  simp [Part.mergeInto]

theorem mergeAll (assembled : Assembled writes doc) {parts : List Part}
    (wellFormed : ∀ part ∈ parts, ∀ step ∈ part.allSteps, step.WellFormed)
    (success : (parts.foldlM Part.mergeInto doc).result = .ok next) :
    Assembled (writes ++ parts.flatMap Part.writes) next := by
  rw [Attempt.result_foldlM] at success
  induction parts generalizing writes doc with
  | nil =>
      cases success
      simpa using assembled
  | cons part rest inductionHypothesis =>
      rw [List.forall_mem_cons] at wellFormed
      rw [List.foldlM_cons, result_mergeInto] at success
      obtain ⟨middle, merging, success⟩ := bind_eq_ok_iff.mp success
      obtain ⟨overlay, built, merging⟩ := bind_eq_ok_iff.mp merging
      have first := assembled.merge (document wellFormed.1 built)
        (Json.mergeOver_eq_ok_iff.mp merging)
      simpa using inductionHypothesis first wellFormed.2 success

theorem exists_mergeAll (assembled : Assembled writes doc) {parts : List Part}
    (wellFormed : ∀ part ∈ parts, ∀ step ∈ part.allSteps, step.WellFormed)
    (ready : ∀ part ∈ parts, ∀ step ∈ part.allSteps, step.IsReady)
    (separate : Separate (writes ++ parts.flatMap Part.writes)) :
    ∃ next, (parts.foldlM Part.mergeInto doc).result = .ok next := by
  rw [Attempt.result_foldlM]
  induction parts generalizing writes doc with
  | nil => exact ⟨doc, rfl⟩
  | cons part rest inductionHypothesis =>
      rw [List.forall_mem_cons] at wellFormed ready
      rw [List.flatMap_cons, ← List.append_assoc] at separate
      have firstSeparate := separate.sublist (List.sublist_append_left _ _)
      obtain ⟨overlay, built⟩ := exists_document wellFormed.1 ready.1
        (firstSeparate.sublist (List.sublist_append_right _ _))
      have overlayAssembled := document wellFormed.1 built
      obtain ⟨middle, merging⟩ := assembled.exists_merge_eq_ok overlayAssembled
        firstSeparate.apart_of_mem firstSeparate.short
      obtain ⟨next, others⟩ := inductionHypothesis (assembled.merge overlayAssembled merging)
        wellFormed.2 ready.2 separate
      refine ⟨next, ?_⟩
      rw [List.foldlM_cons, result_mergeInto, built, Except.bind,
        Json.mergeOver_eq_ok_iff.mpr merging]
      exact others

end Assembled

end ChartParams
