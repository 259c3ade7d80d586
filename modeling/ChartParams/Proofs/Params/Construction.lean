import ChartParams.Proofs.Params.Writes

/-!
# What a built document holds

The steps of a parameter list make exactly its writes, in the same order, and the values that they
write are well formed. So a document that is built from a parameter list is assembled by its writes:
the last write of a place decides what is there, and there is nothing that no write put there.
-/

namespace ChartParams

open ChartParams.Path

namespace Writing

theorem payload_wellFormed {raw : String} {value : Json} (success : payload raw = .ok value) :
    value.WellFormed := by
  rw [payload] at success
  split at success
  · cases success
    trivial
  · rw [Json.parse] at success
    cases parsed : Json.parse? raw with
    | none => simp [parsed] at success
    | some doc =>
        simp only [parsed, Except.ok.injEq] at success
        exact success ▸ Json.WellFormed.of_parse? parsed

theorem storage_wellFormed (request : Option StorageSpec) : (storage request).WellFormed := by
  cases request with
  | none => trivial
  | some spec =>
      have texts : ∀ item ∈ spec.accessModes.map Json.str, item.WellFormed := by
        intro item membership
        obtain ⟨mode, -, rfl⟩ := List.mem_map.mp membership
        trivial
      have modes : Json.WellFormed (.arr (spec.accessModes.map .str)) :=
        Json.allWellFormed_iff.mpr texts
      have keys : (["accessModes", "storageClass", "size"] : List String).Nodup := by decide
      exact ⟨keys, modes, trivial, trivial, trivial⟩

end Writing

theorem KnobType.write_wellFormed (type : KnobType) (value : type.Value) :
    (type.write value).WellFormed := by
  cases type with
  | environment =>
      apply Json.allWellFormed_iff.mpr
      intro item membership
      obtain ⟨variable_, -, rfl⟩ := List.mem_map.mp membership
      have keys : (["name", "value"] : List String).Nodup := by decide
      exact ⟨keys, trivial, trivial, trivial⟩
  | _ => trivial

namespace Params

theorem writeAt_eq_filterMap (mapKey : String) (value : Json) :
    (if mapKey.isEmpty then [] else [Step.write mapKey (.ok value)]).filterMap Step.write? =
      writeAt mapKey value := by
  rw [writeAt]
  split <;> rfl

theorem Parameter.writes_eq (known : List Schema.Parameter) (parameter : Parameter) :
    (parameter.steps known).filterMap Step.write? = parameter.writes known := by
  unfold Parameter.steps Parameter.writes
  cases lastNamed? Schema.Parameter.name parameter.name known with
  | none => rfl
  | some entry =>
      cases Writing.payload parameter.payload with
      | ok value => exact writeAt_eq_filterMap entry.mapKey value
      | error error =>
          dsimp only
          split <;> rfl

theorem knobWrites_eq {type : KnobType} (knob : Option (Schema.Knob type))
    (value : Option type.Value) :
    (knobSteps knob value).filterMap Step.write? = knobWrites knob value := by
  cases knob with
  | none => rfl
  | some knob =>
      cases value with
      | none => rfl
      | some value => exact writeAt_eq_filterMap knob.mapKey (type.write value)

theorem Storage.writes_eq (known : List Schema.Storage) (storage : Storage) :
    (storage.steps known).filterMap Step.write? = storage.writes known := by
  unfold Storage.steps Storage.writes
  cases storage.request with
  | none => rfl
  | some request =>
      cases lastNamed? Schema.Storage.name storage.name known with
      | none => rfl
      | some entry => exact writeAt_eq_filterMap entry.mapKey _

theorem RoleBase.writes_part (schema : Schema.RoleBase) (values : RoleBase) :
    (values.part schema).writes = values.writes schema := by
  simp only [Part.writes, Part.allSteps, RoleBase.part, RoleBase.writes, List.filterMap_append,
    List.filterMap_flatMap, knobWrites_eq, Parameter.writes_eq]

theorem Resources.writes_part (schema : Schema.Resources) (values : Resources) :
    (values.part schema).writes = values.writes schema := by
  simp only [Part.writes, Part.allSteps, Resources.part, Resources.writes, List.filterMap_append,
    List.filterMap_flatMap, knobWrites_eq, Storage.writes_eq, List.append_nil]

theorem Role.parts_eq_bundle {known : List Schema.Role} {role : Role} {entry : Schema.Role}
    (isKnown : lastNamed? Schema.Role.name role.name known = some entry) :
    role.parts known =
      bundle (fun schema values => [RoleBase.part schema values]) entry.base role.base ++
        bundle (fun schema values => [Resources.part schema values]) entry.resources
          role.resources := by
  simp only [Role.parts, isKnown]
  cases entry.base <;> cases role.base <;> cases entry.resources <;> cases role.resources <;> rfl

theorem Role.writes_parts (known : List Schema.Role) (role : Role) :
    (role.parts known).flatMap Part.writes = role.writes known := by
  cases isKnown : lastNamed? Schema.Role.name role.name known with
  | none =>
      rw [Role.parts, Role.writes, isKnown]
      rfl
  | some entry =>
      rw [Role.parts_eq_bundle isKnown, Role.writes, isKnown, List.flatMap_append]
      simp only [flatMap_bundle, List.flatMap_singleton, RoleBase.writes_part,
        Resources.writes_part]

theorem writes_parts (schema : Schema) (params : Params) :
    (params.parts schema).flatMap Part.writes = params.writes schema := by
  simp only [parts, writes, List.flatMap_cons, List.flatMap_assoc, Role.writes_parts, Part.writes,
    Part.allSteps, List.append_nil, List.filterMap_flatMap, Parameter.writes_eq]

section Contents

variable {property : Except Error Json → Prop}

theorem Parameter.forall_steps_iff (known : List Schema.Parameter) (parameter : Parameter) :
    (∀ step ∈ parameter.steps known, step.Content property) ↔
      ∀ raw ∈ parameter.written known, property (Writing.payload raw) := by
  unfold Parameter.steps Parameter.written
  cases lastNamed? Schema.Parameter.name parameter.name known with
  | none => simp [Step.Content]
  | some entry =>
      dsimp only
      split <;> simp [Step.Content]

variable (values : ∀ value : Json, value.WellFormed → property (.ok value))

include values

theorem forall_knobSteps {type : KnobType} (knob : Option (Schema.Knob type))
    (value : Option type.Value) : ∀ step ∈ knobSteps knob value, step.Content property := by
  intro step membership
  unfold knobSteps at membership
  split at membership
  · split at membership
    · cases membership
    · cases List.mem_singleton.mp membership
      exact values _ (type.write_wellFormed _)
  · cases membership

theorem Storage.forall_steps (known : List Schema.Storage) (storage : Storage) :
    ∀ step ∈ storage.steps known, step.Content property := by
  intro step membership
  unfold Storage.steps at membership
  split at membership
  · cases membership
  · split at membership
    · cases List.mem_singleton.mp membership
      trivial
    · split at membership
      · cases membership
      · cases List.mem_singleton.mp membership
        exact values _ (Writing.storage_wellFormed (some _))

theorem RoleBase.forall_part_iff (schema : Schema.RoleBase) (base : RoleBase) :
    (∀ step ∈ (base.part schema).allSteps, step.Content property) ↔
      ∀ raw ∈ base.written schema, property (Writing.payload raw) := by
  have knobs : ∀ step ∈ (base.part schema).steps, step.Content property := by
    simp only [RoleBase.part, List.forall_mem_append]
    refine ⟨⟨⟨⟨?_, ?_⟩, ?_⟩, ?_⟩, ?_⟩ <;> exact forall_knobSteps values _ _
  rw [Part.allSteps, List.forall_mem_append, and_iff_right knobs]
  simp only [RoleBase.part, RoleBase.written, List.forall_mem_flatMap, Parameter.forall_steps_iff]

theorem Resources.forall_part (schema : Schema.Resources) (resources : Resources) :
    ∀ step ∈ (resources.part schema).allSteps, step.Content property := by
  simp only [Part.allSteps, Resources.part, List.append_nil, List.forall_mem_append]
  refine ⟨⟨⟨⟨⟨⟨?_, ?_⟩, ?_⟩, ?_⟩, ?_⟩, ?_⟩, fun step membership => ?_⟩
  iterate 6 exact forall_knobSteps values _ _
  obtain ⟨storage, -, inSteps⟩ := List.mem_flatMap.mp membership
  exact storage.forall_steps values _ step inSteps

theorem Role.forall_parts_iff (known : List Schema.Role) (role : Role) :
    (∀ part ∈ role.parts known, ∀ step ∈ part.allSteps, step.Content property) ↔
      ∀ raw ∈ role.written known, property (Writing.payload raw) := by
  cases isKnown : lastNamed? Schema.Role.name role.name known with
  | none => simp [Role.parts, Role.written, isKnown, Part.allSteps, Step.Content]
  | some entry =>
      have resources (schema : Schema.Resources) (given : Resources) :=
        Resources.forall_part values schema given
      rw [Role.parts_eq_bundle isKnown, Role.written, isKnown, List.forall_mem_append,
        and_iff_left (forall_mem_bundle.mpr fun schema _ given _ =>
          List.forall_mem_singleton.mpr (resources schema given))]
      simp only [forall_mem_bundle, List.forall_mem_singleton, RoleBase.forall_part_iff values]

/-- Whatever holds of every well-formed value holds of all that the parts write if it holds of the
payloads that have to be read. -/
theorem forall_parts_iff (schema : Schema) (params : Params) :
    (∀ part ∈ params.parts schema, ∀ step ∈ part.allSteps, step.Content property) ↔
      ∀ raw ∈ params.written schema, property (Writing.payload raw) := by
  simp only [parts, List.forall_mem_cons, written, List.forall_mem_append]
  refine and_congr ?_ ?_
  · simp only [Part.allSteps, List.append_nil, List.forall_mem_flatMap, Parameter.forall_steps_iff]
  · simp only [List.forall_mem_flatMap, Role.forall_parts_iff values]

end Contents

theorem parts_wellFormed (schema : Schema) (params : Params) :
    ∀ part ∈ params.parts schema, ∀ step ∈ part.allSteps, step.WellFormed := by
  apply (forall_parts_iff ?_ schema params).mpr
  · intro payload membership value
    exact Writing.payload_wellFormed
  · intro value wellFormed other same
    cases same
    exact wellFormed

theorem parts_ready_iff (schema : Schema) (params : Params) :
    (∀ part ∈ params.parts schema, ∀ step ∈ part.allSteps, step.IsReady) ↔
      ∀ raw ∈ params.written schema, ∃ value, Writing.payload raw = .ok value :=
  forall_parts_iff (fun value _ => ⟨value, rfl⟩) schema params

variable {schema : Schema} {params : Params} {doc : Json}

theorem assembled_of_construct (built : (params.construct schema).result = .ok doc) :
    Assembled (params.writes schema) doc := by
  have assembled := Assembled.empty.mergeAll (parts_wellFormed schema params) built
  rwa [writes_parts, List.nil_append] at assembled

theorem exists_ok_of_foldlM {ε α β : Type} {step : α → β → Except ε α} {start next : α}
    {items : List β} (success : items.foldlM step start = .ok next) :
    ∀ item ∈ items, ∃ before after, step before item = .ok after := by
  induction items generalizing start with
  | nil => simp
  | cons item rest inductionHypothesis =>
      rw [List.foldlM_cons] at success
      obtain ⟨middle, result, success⟩ := bind_eq_ok_iff.mp success
      exact List.forall_mem_cons.mpr ⟨⟨start, middle, result⟩, inductionHypothesis success⟩

theorem isReady_of_foldlM {steps : List Step} {start next : Json}
    (success : (steps.foldlM Step.run start).result = .ok next) : ∀ step ∈ steps, step.IsReady := by
  intro step membership
  rw [Attempt.result_foldlM] at success
  obtain ⟨before, after, done⟩ := exists_ok_of_foldlM success step membership
  match step, done with
  | .notice _, _ => trivial
  | .write _ (.ok value), _ => exact ⟨value, rfl⟩
  | .write _ (.error _), done => cases done

theorem isReady_of_document {part : Part} (success : part.document.result = .ok doc) :
    ∀ step ∈ part.allSteps, step.IsReady := by
  rw [Assembled.result_document] at success
  obtain ⟨base, first, success⟩ := bind_eq_ok_iff.mp success
  obtain ⟨others, second, -⟩ := bind_eq_ok_iff.mp success
  exact List.forall_mem_append.mpr ⟨isReady_of_foldlM first, isReady_of_foldlM second⟩

/-- The payloads that have to be read for building a document can be read if it is built. -/
theorem readable_of_construct (built : (params.construct schema).result = .ok doc) :
    ∀ raw ∈ params.written schema, ∃ value, Writing.payload raw = .ok value := by
  apply (parts_ready_iff schema params).mp
  intro part membership
  rw [construct, Attempt.result_foldlM] at built
  obtain ⟨before, after, merged⟩ := exists_ok_of_foldlM built part membership
  rw [Assembled.result_mergeInto] at merged
  obtain ⟨overlay, success, -⟩ := bind_eq_ok_iff.mp merged
  exact isReady_of_document success

/-- A parameter list whose payloads can be read and whose writes are separate builds a document. -/
theorem exists_construct
    (readable : ∀ raw ∈ params.written schema, ∃ value, Writing.payload raw = .ok value)
    (separate : Separate (params.writes schema)) :
    ∃ doc, (params.construct schema).result = .ok doc := by
  have ready := (parts_ready_iff schema params).mpr readable
  apply Assembled.empty.exists_mergeAll (parts_wellFormed schema params) ready
  rwa [writes_parts, List.nil_append]

/-- The document of a parameter list is the sparse document of its writes. A value is read back at
its map key if all later writes are apart from it and, should it be an object, the earlier ones too.
Every place of the document is on the way to a write or belongs to its value, and every leaf belongs
to the value of a write. -/
theorem construct_sparse (built : (params.construct schema).result = .ok doc) :
    (∀ before write after, params.writes schema = before ++ write :: after →
      (∀ later ∈ after, Apart write.keys later.keys) →
      (write.value.isObject = false ∨ ∀ earlier ∈ before, Apart write.keys earlier.keys) →
        doc.get? write.path = some write.value) ∧
      (∀ place value, place ≠ [] → doc.getAt? place = some value →
        ∃ write ∈ params.writes schema, write.keys <+: place ∨ place <+: write.keys) ∧
      ∀ place leaf, doc.HoldsLeaf place leaf →
        ∃ write ∈ params.writes schema, write.keys <+: place := by
  have assembled := assembled_of_construct built
  refine ⟨fun before write after split last unmerged => ?_, fun place value belowRoot found =>
    assembled.exists_write_of_getAt? found belowRoot, fun place leaf holds =>
    assembled.exists_write_of_holdsLeaf holds⟩
  rw [assembled.get?_path (split ▸ List.mem_append_right _ List.mem_cons_self)]
  exact assembled.getAt?_of_lastWrite split last unmerged

/-- A parameter is written above the values of a role, which replace it. -/
theorem construct_sparse_overlapping :
    let schema : Schema := {
      friendlyName := "", categories := [], dependencies := [], plugins := [], customParams := []
      params := [⟨"tree", "top", none, "", none, false⟩]
      roles := [⟨"web", "", "", some ⟨some (.new .text "top.image"), none, none, none, none,
        [⟨"mode", "top.mode", none, "", none, false⟩]⟩, none, none⟩] }
    let params : Params := {
      customParams := []
      params := [⟨"tree", none, ""⟩]
      roles := [⟨"web", some ⟨some "nginx", none, none, none, none, [⟨"mode", none, "[true]"⟩]⟩,
        none⟩] }
    let doc := Json.obj [("top", .obj [("image", .str "nginx"), ("mode", .arr [.bool true])])]
    (params.construct schema).result = .ok doc ∧ doc.get? "top.image" = some (.str "nginx") ∧
      ∃ write ∈ params.writes schema, write.keys <+: ["top"] ∨ ["top"] <+: write.keys := by
  intro schema params doc
  have built : (params.construct schema).result = .ok doc := rfl
  have sparse := construct_sparse built
  have isSplit : params.writes schema =
      [⟨"top", .null⟩] ++ ⟨"top.image", .str "nginx"⟩ :: [⟨"top.mode", .arr [.bool true]⟩] := rfl
  refine ⟨built, ?_, sparse.2.1 ["top"] _ (by decide) rfl⟩
  refine sparse.1 _ _ _ isSplit (List.forall_mem_singleton.mpr ?_) (.inl rfl)
  change Apart (split "top.image") (split "top.mode")
  decide

end Params

end ChartParams
