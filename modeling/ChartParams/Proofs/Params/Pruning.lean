import ChartParams.Proofs.Params.Construction
import Mathlib.Data.List.Basic

/-!
# Entries that are left out

`Params.prune` takes out of a parameter list all that has no place in the documents of a schema:
values that the schema does not know or knows without a map key, roles and bundles that it lacks,
empty lists of variables, and volumes that are not asked for. Such entries make notices at most, so
building a document has the same result without them, also when it fails. What they hold is never
looked at.
-/

namespace ChartParams

namespace Params

/-- Whether the entry of a parameter, which is the last one with its name, has a map key. -/
def Parameter.isMapped (known : List Schema.Parameter) (parameter : Parameter) : Bool :=
  (lastNamed? Schema.Parameter.name parameter.name known).any fun entry => !entry.mapKey.isEmpty

def Storage.isMapped (known : List Schema.Storage) (storage : Storage) : Bool :=
  storage.request.isSome &&
    (lastNamed? Schema.Storage.name storage.name known).any fun entry => !entry.mapKey.isEmpty

/-- The value of a knob, if the schema has that knob and it has a map key. -/
def mappedValue {type : KnobType} (knob : Option (Schema.Knob type)) (value : Option type.Value) :
    Option type.Value :=
  value.filter fun _ => knob.any fun knob => !knob.mapKey.isEmpty

def RoleBase.prune (schema : Schema.RoleBase) (values : RoleBase) : RoleBase where
  image := mappedValue schema.image values.image
  priority := mappedValue schema.priority values.priority
  replicas := mappedValue schema.replicas values.replicas
  env := mappedValue schema.env (someVariables values.env)
  useHostNetwork := mappedValue schema.useHostNetwork values.useHostNetwork
  others := values.others.filter (·.isMapped schema.others)

def Resources.prune (schema : Schema.Resources) (values : Resources) : Resources where
  limitsMemory := mappedValue schema.limitsMemory values.limitsMemory
  limitsCpu := mappedValue schema.limitsCpu values.limitsCpu
  limitsGpu := mappedValue schema.limitsGpu values.limitsGpu
  requestsMemory := mappedValue schema.requestsMemory values.requestsMemory
  requestsCpu := mappedValue schema.requestsCpu values.requestsCpu
  requestsGpu := mappedValue schema.requestsGpu values.requestsGpu
  storageResources := values.storageResources.filter (·.isMapped schema.storageResources)

/-- The values of a role for the bundles that the schema has, none if the schema lacks the role. -/
def Role.prune? (known : List Schema.Role) (role : Role) : Option Role :=
  (lastNamed? Schema.Role.name role.name known).map fun entry =>
    { role with
      base := entry.base.bind fun schema => role.base.map (·.prune schema)
      resources := entry.resources.bind fun schema => role.resources.map (·.prune schema) }

/-- The part of a parameter list that has a place in the documents of a schema. -/
def prune (schema : Schema) (params : Params) : Params :=
  { params with
    params := params.params.filter (·.isMapped schema.params)
    roles := params.roles.filterMap (·.prune? schema.roles) }

end Params

def Step.isWrite : Step → Bool
  | write .. => true
  | notice _ => false

namespace Part

def quiet (part : Part) : Part := ⟨part.steps.filter Step.isWrite, part.others.filter Step.isWrite⟩

/-- A part without its notices, left out if nothing else is in it. -/
def essence (part : Part) : List Part :=
  if part.quiet.allSteps.isEmpty then [] else [part.quiet]

end Part

theorem result_foldlM_filter (steps : List Step) (doc : Json) :
    ((steps.filter Step.isWrite).foldlM Step.run doc).result =
      (steps.foldlM Step.run doc).result := by
  rw [Attempt.result_foldlM, Attempt.result_foldlM]
  induction steps generalizing doc with
  | nil => rfl
  | cons step rest inductionHypothesis =>
      cases step with
      | write path content =>
          rw [List.filter_cons_of_pos rfl, List.foldlM_cons, List.foldlM_cons]
          simp only [inductionHypothesis]
      | notice found =>
          rw [List.filter_cons_of_neg Bool.false_ne_true, List.foldlM_cons, inductionHypothesis]
          rfl

namespace Assembled

variable {writes : List Write} {doc : Json}

theorem result_document_quiet (part : Part) : part.quiet.document.result = part.document.result := by
  rw [result_document, result_document, Part.quiet, result_foldlM_filter]
  simp only [result_foldlM_filter]

/-- An assembled document is an object, so nothing changes if no members are merged into it. -/
theorem mergeOver_empty (assembled : Assembled writes doc) : doc.mergeOver (.obj []) = .ok doc := by
  obtain ⟨value, found, isObject⟩ := assembled.holdsObject_root
  cases found
  cases doc with
  | obj members => rfl
  | _ => cases isObject

/-- Parts that make notices only do not change the result of merging all parts. -/
theorem result_mergeAll_essence (assembled : Assembled writes doc) {parts : List Part}
    (wellFormed : ∀ part ∈ parts, ∀ step ∈ part.allSteps, step.WellFormed) :
    ((parts.flatMap Part.essence).foldlM Part.mergeInto doc).result =
      (parts.foldlM Part.mergeInto doc).result := by
  rw [Attempt.result_foldlM, Attempt.result_foldlM]
  induction parts generalizing writes doc with
  | nil => rfl
  | cons part rest inductionHypothesis =>
      rw [List.forall_mem_cons] at wellFormed
      rw [List.flatMap_cons, List.foldlM_append, List.foldlM_cons, result_mergeInto,
        ← result_document_quiet]
      unfold Part.essence
      split
      case isTrue idle =>
        obtain ⟨noSteps, noOthers⟩ : part.quiet.steps = [] ∧ part.quiet.others = [] := by
          simpa [Part.allSteps] using idle
        have nothing : part.quiet.document.result = .ok (.obj []) := by
          rw [result_document, noSteps, noOthers]
          rfl
        rw [nothing, Except.bind, assembled.mergeOver_empty]
        exact inductionHypothesis assembled wellFormed.2
      case isFalse =>
        rw [List.foldlM_cons, result_mergeInto]
        cases merging : part.quiet.document.result.bind fun overlay => doc.mergeOver overlay with
        | error error => rfl
        | ok next =>
            obtain ⟨overlay, built, merged⟩ := bind_eq_ok_iff.mp merging
            rw [result_document_quiet] at built
            exact inductionHypothesis
              (assembled.merge (document wellFormed.1 built) (Json.mergeOver_eq_ok_iff.mp merged))
              wellFormed.2

end Assembled

namespace Params

theorem filter_flatMap_filter {α : Type} {keep : α → Bool} {steps : α → List Step}
    (idle : ∀ item, keep item = false → (steps item).filter Step.isWrite = []) (items : List α) :
    ((items.filter keep).flatMap steps).filter Step.isWrite =
      (items.flatMap steps).filter Step.isWrite := by
  induction items with
  | nil => rfl
  | cons item rest inductionHypothesis =>
      rw [List.flatMap_cons, List.filter_append, ← inductionHypothesis]
      cases kept : keep item with
      | true => rw [List.filter_cons_of_pos kept, List.flatMap_cons, List.filter_append]
      | false => rw [List.filter_cons_of_neg (by simp [kept]), idle item kept, List.nil_append]

theorem Parameter.filter_steps {known : List Schema.Parameter} {parameter : Parameter}
    (unmapped : parameter.isMapped known = false) :
    (parameter.steps known).filter Step.isWrite = [] := by
  rw [isMapped] at unmapped
  rw [steps]
  cases found : lastNamed? Schema.Parameter.name parameter.name known with
  | none => rfl
  | some entry =>
      have isEmpty : entry.mapKey.isEmpty = true := by simpa [found] using unmapped
      simp [isEmpty]

theorem Storage.filter_steps {known : List Schema.Storage} {storage : Storage}
    (unmapped : storage.isMapped known = false) :
    (storage.steps known).filter Step.isWrite = [] := by
  rw [isMapped] at unmapped
  rw [steps]
  cases asked : storage.request with
  | none => rfl
  | some request =>
      cases found : lastNamed? Schema.Storage.name storage.name known with
      | none => rfl
      | some entry =>
          have isEmpty : entry.mapKey.isEmpty = true := by simpa [asked, found] using unmapped
          simp [isEmpty]

theorem knobSteps_mappedValue {type : KnobType} (knob : Option (Schema.Knob type))
    (value : Option type.Value) : knobSteps knob (mappedValue knob value) = knobSteps knob value := by
  cases knob with
  | none => rfl
  | some knob =>
      cases value with
      | none => rfl
      | some value =>
          cases isEmpty : knob.mapKey.isEmpty with
          | true => simp [knobSteps, mappedValue, isEmpty]
          | false =>
              have kept : mappedValue (some knob) (some value) = some value := by
                simp [mappedValue, isEmpty]
              rw [kept]

theorem someVariables_mappedValue (knob : Option (Schema.Knob .environment))
    (env : Option (List EnvVar)) :
    someVariables (mappedValue knob (someVariables env)) = mappedValue knob (someVariables env) := by
  cases env with
  | none => rfl
  | some list =>
      cases isMapped : knob.any fun knob => !knob.mapKey.isEmpty <;>
        simp [someVariables, mappedValue, isMapped]

theorem RoleBase.quiet_part (schema : Schema.RoleBase) (values : RoleBase) :
    ((values.prune schema).part schema).quiet = (values.part schema).quiet := by
  simp only [part, prune, Part.quiet, someVariables_mappedValue, knobSteps_mappedValue,
    filter_flatMap_filter fun _ => Parameter.filter_steps]

theorem Resources.quiet_part (schema : Schema.Resources) (values : Resources) :
    ((values.prune schema).part schema).quiet = (values.part schema).quiet := by
  simp only [part, prune, Part.quiet, knobSteps_mappedValue, List.filter_append,
    filter_flatMap_filter fun _ => Storage.filter_steps]

theorem essence_bundle {α β : Type} (part : α → β → Part) (prune : α → β → β)
    (same : ∀ schema values, (part schema (prune schema values)).quiet = (part schema values).quiet)
    (schema : Option α) (values : Option β) :
    (bundle (fun schema values => [part schema values]) schema
        (schema.bind fun known => values.map (prune known))).flatMap Part.essence =
      (bundle (fun schema values => [part schema values]) schema values).flatMap Part.essence := by
  cases schema <;> cases values <;> simp [bundle, Part.essence, same]

/-- What a role writes does not change when it is pruned; an unknown role writes nothing. -/
theorem Role.essence_parts (known : List Schema.Role) (role : Role) :
    ((role.prune? known).toList.flatMap (·.parts known)).flatMap Part.essence =
      (role.parts known).flatMap Part.essence := by
  cases isKnown : lastNamed? Schema.Role.name role.name known with
  | none =>
      rw [prune?, parts, isKnown]
      rfl
  | some entry =>
      have sameName (base : Option RoleBase) (resources : Option Resources) :
          lastNamed? Schema.Role.name (⟨role.name, base, resources⟩ : Role).name known =
            some entry := isKnown
      rw [prune?, isKnown, Role.parts_eq_bundle isKnown, Option.map_some, Option.toList_some,
        List.flatMap_singleton, Role.parts_eq_bundle (sameName _ _), List.flatMap_append,
        List.flatMap_append]
      congr 1
      · exact essence_bundle _ RoleBase.prune RoleBase.quiet_part _ _
      · exact essence_bundle _ Resources.prune Resources.quiet_part _ _

theorem essence_parts (schema : Schema) (params : Params) :
    ((params.prune schema).parts schema).flatMap Part.essence =
      (params.parts schema).flatMap Part.essence := by
  have top : (⟨(params.prune schema).params.flatMap (·.steps schema.params), []⟩ : Part).quiet =
      (⟨params.params.flatMap (·.steps schema.params), []⟩ : Part).quiet := by
    simp only [prune, Part.quiet, filter_flatMap_filter fun _ => Parameter.filter_steps]
  have roles : ((params.prune schema).roles.flatMap (·.parts schema.roles)).flatMap Part.essence =
      (params.roles.flatMap (·.parts schema.roles)).flatMap Part.essence := by
    simp only [prune, List.filterMap_eq_flatMap_toList, List.flatMap_assoc]
    refine List.flatMap_congr fun role _ => ?_
    rw [← List.flatMap_assoc, Role.essence_parts]
  rw [parts, parts, List.flatMap_cons, List.flatMap_cons, roles, Part.essence, top, ← Part.essence]

theorem result_construct_essence (schema : Schema) (params : Params) :
    (((params.parts schema).flatMap Part.essence).foldlM Part.mergeInto (.obj [])).result =
      (params.construct schema).result :=
  Assembled.empty.result_mergeAll_essence (parts_wellFormed schema params)

/-- Building a document has the same result, a document or an error, without the entries that have
no place in it, and whatever other such entries there are. -/
theorem construct_prune (schema : Schema) (params : Params) :
    ((params.prune schema).construct schema).result = (params.construct schema).result ∧
    ∀ other : Params, other.prune schema = params.prune schema →
      (other.construct schema).result = (params.construct schema).result := by
  have pruned (list : Params) :
      ((list.prune schema).construct schema).result = (list.construct schema).result := by
    rw [← result_construct_essence, essence_parts, result_construct_essence]
  refine ⟨pruned params, fun other same => ?_⟩
  rw [← pruned other, same, pruned params]

/-- Payloads that are no JSON, where the last entry of a name has no map key or there is none, an
unknown role, an empty list of variables and a bundle that the schema lacks. -/
theorem construct_prune_malformed :
    let schema : Schema := {
      friendlyName := "", categories := [], dependencies := [], plugins := [], customParams := []
      params := [⟨"tree", "top.tree", none, "", none, false⟩, ⟨"tree", "", none, "", none, false⟩]
      roles := [⟨"web", "", "", some ⟨none, some (.new .integer ""), none,
        some (.new .environment "web.env"), none, [⟨"mode", "web.mode", none, "", none, false⟩]⟩,
        none, none⟩] }
    let params : Params := {
      customParams := []
      params := [⟨"tree", none, "\x7boops"⟩, ⟨"other", none, "\x7boops"⟩]
      roles := [⟨"db", some ⟨none, none, none, none, none, [⟨"mode", none, "oops"⟩]⟩, none⟩,
        ⟨"web", some ⟨some "nginx", some 1, none, some [], none,
          [⟨"color", none, "oops"⟩, ⟨"mode", none, "true"⟩]⟩,
          some ⟨some 1, none, none, none, none, none, [⟨"data", none⟩]⟩⟩] }
    let other : Params := {
      customParams := []
      params := [⟨"tree", none, "["⟩]
      roles := [⟨"web", some ⟨none, none, none, none, none, [⟨"mode", none, "true"⟩]⟩, none⟩] }
    other.prune schema = params.prune schema ∧
      (other.construct schema).result = (params.construct schema).result ∧
      (params.construct schema).result = .ok (.obj [("web", .obj [("mode", .bool true)])]) := by
  intro schema params other
  have same : other.prune schema = params.prune schema := by decide +kernel
  exact ⟨same, (construct_prune schema params).2 other same, rfl⟩

end Params

end ChartParams
