import ChartParams.Proofs.Json.Places
import ChartParams.Proofs.Knob.Warnings
import ChartParams.Proofs.Lint.Walk
import ChartParams.Schema.Extraction

/-!
# Extracting from documents that lint accepts

Linting looks at the shape of a value only: a quantity may be too large to be measured, and what is
inside of a volume request is not looked at. A document that lint accepts is read without a warning
exactly if those parts can be read as well.
-/

namespace ChartParams

namespace Lint

namespace Expectation

/-- What linting leaves out of an environment: the values of its variables are texts. -/
def HasTextValues : Expectation → Json → Prop
  | env, .arr items => ∀ item ∈ items, ∀ value ∈ item.member? "value", value.IsText
  | _, _ => True

/-- What linting leaves out of amounts and volume requests. -/
def Decodable : Expectation → Json → Prop
  | memory, value => value.HoldsAmount Quantity.value
  | cpu, value => value.HoldsAmount Quantity.milliValue
  | storage, value =>
      (∀ modes ∈ value.member? "accessModes", modes.IsTexts) ∧
        (∀ storageClass ∈ value.member? "storageClass", storageClass.IsText) ∧
        ∀ size ∈ value.member? "size", size.HoldsAmount Quantity.value
  | _, _ => True

end Expectation

namespace Check

variable {doc value : Json} {check : Check}

/-- The value of an entry can be read without a warning if its shape is right. -/
def Decodable (doc : Json) (check : Check) : Prop :=
  ∀ value, doc.get? check.mapKey = some value → check.expectation.Decodable value

/-- The value of an entry has the right shape, with texts for the variables of an environment. -/
def Fits (doc : Json) (check : Check) : Prop :=
  ∀ value, doc.get? check.mapKey = some value →
    check.expectation.accepts value = true ∧ check.expectation.HasTextValues value

theorem accepts_of_issue? (noIssue : check.issue? doc = none)
    (found : doc.get? check.mapKey = some value) : check.expectation.accepts value = true := by
  rw [issue?, found] at noIssue
  cases accepted : check.expectation.accepts value with
  | true => rfl
  | false => simp [accepted] at noIssue

theorem decodable_of_none (missing : doc.get? check.mapKey = none) : check.Decodable doc := by
  intro value found
  cases missing.symm.trans found

theorem decodable_iff_of_get? (found : doc.get? check.mapKey = some value) :
    check.Decodable doc ↔ check.expectation.Decodable value := by
  simp [Decodable, found]

end Check

end Lint

open Lint

theorem Lint.Expectation.isText_of_hasName {item : Json} (named : hasName item = true) :
    ∃ members : Members, item = .obj members ∧ ∃ name ∈ members.get? "name", name.IsText := by
  unfold hasName at named
  split at named
  · rename_i name found
    cases item with
    | obj members => exact ⟨members, rfl, .str name, found, name, rfl⟩
    | _ => cases found
  · cases named

namespace Reading

variable {doc value : Json} {path : String}

theorem quiet_environment_of_accepts (wellFormed : value.WellFormed)
    (accepted : Expectation.env.accepts value = true) (texts : Expectation.env.HasTextValues value)
    (found : doc.get? path = some value) : (environment doc path).Quiet := by
  cases value with
  | null =>
      rw [environment, found]
      exact Logged.quiet_pure []
  | arr items =>
      refine quiet_environment (fun item membership => ?_) found
      have named := List.all_eq_true.mp accepted item membership
      obtain ⟨members, rfl, isNamed⟩ := Expectation.isText_of_hasName named
      have distinct := (Json.allWellFormed_iff.mp wellFormed _ membership).nodup_keys
      exact (exists_variable_iff distinct).mpr ⟨isNamed, texts _ membership⟩
  | _ => cases accepted

theorem quiet_storage_iff_decodable (wellFormed : value.WellFormed)
    (accepted : Expectation.storage.accepts value = true) (found : doc.get? path = some value) :
    (storage doc path).Quiet ↔ Expectation.storage.Decodable value := by
  cases value with
  | null =>
      rw [storage, found]
      simp [Expectation.Decodable, Json.member?]
  | obj members => exact quiet_storage_iff wellFormed.nodup_keys found
  | _ => cases accepted

end Reading

theorem KnobType.quiet_read_iff {type : KnobType} {doc value : Json} {path : String}
    (wellFormed : value.WellFormed) (accepted : (Expectation.ofKnobType type).accepts value = true)
    (texts : (Expectation.ofKnobType type).HasTextValues value)
    (found : doc.get? path = some value) :
    (type.read doc path).Quiet ↔ (Expectation.ofKnobType type).Decodable value := by
  cases type with
  | text | flag => exact iff_of_true (Logged.quiet_pure _) trivial
  | integer =>
      refine iff_of_true ?_ trivial
      change (Reading.integer doc path).Quiet
      rw [Reading.integer, found]
      cases value with
      | num n => exact Logged.quiet_pure _
      | _ => cases accepted
  | environment =>
      refine iff_of_true ?_ trivial
      exact Reading.quiet_environment_of_accepts wellFormed accepted texts found
  | memory => exact Reading.quiet_quantity_iff (fun _ => BinaryUnit.exists_read_iff) found
  | cores => exact Reading.quiet_quantity_iff (fun _ => Cores.exists_read_iff) found

namespace Schema

variable {doc : Json}

theorem Parameter.decodable_check (entry : Parameter) : entry.check.Decodable doc := by
  intro value found
  change (Expectation.ofKind entry.kind).Decodable value
  match entry.kind with
  | none => trivial
  | some kind => cases kind <;> trivial

section Quiet

variable (wellFormed : doc.WellFormed)

include wellFormed

theorem Knob.quiet_extract_iff {type : KnobType} {knob : Option (Knob type)}
    (fits : ∀ check ∈ Knob.checks knob, check.Fits doc) :
    (Knob.extract knob doc).Quiet ↔ ∀ check ∈ Knob.checks knob, check.Decodable doc := by
  cases knob with
  | none => simp [Knob.extract, Knob.checks]
  | some knob =>
      have quiet : (type.read doc knob.mapKey).Quiet ↔ knob.check.Decodable doc := by
        cases present : doc.get? knob.mapKey with
        | none =>
            have decodable : knob.check.Decodable doc := Check.decodable_of_none present
            exact iff_of_true (KnobType.quiet_read_of_none present) decodable
        | some value =>
            obtain ⟨accepted, texts⟩ := fits knob.check List.mem_cons_self value present
            have decodable : knob.check.Decodable doc ↔ _ := Check.decodable_iff_of_get? present
            rw [decodable]
            exact KnobType.quiet_read_iff (wellFormed.atPath present) accepted texts present
      simpa [Knob.extract, Knob.checks] using quiet

theorem Storage.quiet_extract_iff {entry : Storage} (fits : entry.check.Fits doc) :
    (entry.extract doc).Quiet ↔ entry.check.Decodable doc := by
  simp only [Storage.extract, Logged.quiet_bind_iff, Logged.quiet_pure, and_true]
  cases present : doc.get? entry.mapKey with
  | none =>
      have decodable : entry.check.Decodable doc := Check.decodable_of_none present
      have quiet : (Reading.storage doc entry.mapKey).Quiet := by
        rw [Reading.storage, present]
        exact Logged.quiet_pure none
      exact iff_of_true quiet decodable
  | some value =>
      have decodable : entry.check.Decodable doc ↔ _ := Check.decodable_iff_of_get? present
      rw [decodable]
      exact Reading.quiet_storage_iff_decodable (wellFormed.atPath present) (fits value present).1
        present

theorem RoleBase.quiet_extract_iff {base : RoleBase}
    (fits : ∀ check ∈ base.checks, check.Fits doc) :
    (base.extract doc).Quiet ↔ ∀ check ∈ base.checks, check.Decodable doc := by
  have others : ∀ check ∈ base.others.map (·.check), check.Decodable doc :=
    List.forall_mem_map.mpr fun entry _ => entry.decodable_check
  simp only [RoleBase.checks, List.forall_mem_append] at fits ⊢
  obtain ⟨⟨⟨⟨⟨image, priority⟩, replicas⟩, env⟩, useHostNetwork⟩, -⟩ := fits
  simp only [RoleBase.extract, Logged.quiet_bind_iff, Logged.quiet_pure,
    Knob.quiet_extract_iff wellFormed image, Knob.quiet_extract_iff wellFormed priority,
    Knob.quiet_extract_iff wellFormed replicas, Knob.quiet_extract_iff wellFormed env,
    Knob.quiet_extract_iff wellFormed useHostNetwork, and_iff_left others, and_true, and_assoc]

theorem Resources.quiet_extract_iff {resources : Resources}
    (fits : ∀ check ∈ resources.checks, check.Fits doc) :
    (resources.extract doc).Quiet ↔ ∀ check ∈ resources.checks, check.Decodable doc := by
  simp only [Resources.checks, List.forall_mem_append, List.forall_mem_map] at fits ⊢
  obtain ⟨⟨⟨⟨⟨⟨limitsCpu, limitsMemory⟩, limitsGpu⟩, requestsMemory⟩, requestsCpu⟩, requestsGpu⟩,
    storages⟩ := fits
  have storageResources : (Logged.mapItems (·.extract doc) resources.storageResources).Quiet ↔
      ∀ entry ∈ resources.storageResources, entry.check.Decodable doc := by
    rw [Logged.quiet_mapItems_iff]
    exact forall₂_congr fun entry membership =>
      Storage.quiet_extract_iff wellFormed (storages entry membership)
  simp only [Resources.extract, Logged.quiet_bind_iff, Logged.quiet_pure, storageResources,
    Knob.quiet_extract_iff wellFormed limitsCpu, Knob.quiet_extract_iff wellFormed limitsMemory,
    Knob.quiet_extract_iff wellFormed limitsGpu, Knob.quiet_extract_iff wellFormed requestsMemory,
    Knob.quiet_extract_iff wellFormed requestsCpu, Knob.quiet_extract_iff wellFormed requestsGpu,
    and_true, and_assoc]
  exact and_left_comm

theorem Role.quiet_extract_iff {role : Role} (fits : ∀ check ∈ role.checks, check.Fits doc) :
    (role.extract doc).Quiet ↔ ∀ check ∈ role.checks, check.Decodable doc := by
  simp only [Role.checks, List.forall_mem_append, List.forall_mem_flatMap,
    Option.mem_toList] at fits ⊢
  simp only [Role.extract, Logged.quiet_bind_iff, Logged.quiet_mapOption_iff, Logged.quiet_pure,
    and_true]
  apply and_congr
  · exact forall₂_congr fun base isBase =>
      RoleBase.quiet_extract_iff wellFormed (fits.1 base isBase)
  · exact forall₂_congr fun resources isResources =>
      Resources.quiet_extract_iff wellFormed (fits.2 resources isResources)

theorem quiet_extract_iff {schema : Schema} (fits : ∀ check ∈ schema.checks, check.Fits doc) :
    (schema.extract doc).Quiet ↔ ∀ check ∈ schema.checks, check.Decodable doc := by
  have params : ∀ check ∈ schema.params.map (·.check), check.Decodable doc :=
    List.forall_mem_map.mpr fun entry _ => entry.decodable_check
  simp only [checks, List.forall_mem_append, List.forall_mem_flatMap] at fits ⊢
  simp only [extract, Logged.quiet_bind_iff, Logged.quiet_mapItems_iff, Logged.quiet_pure, and_true,
    and_iff_left params]
  exact forall₂_congr fun role membership =>
    Role.quiet_extract_iff wellFormed (fits.1 role membership)

end Quiet

/-- A document in which linting finds nothing, and in which the values of variables are texts, is
read without a warning exactly if its amounts can be measured and its volume requests can be
read. -/
theorem lint_extract_quiet_iff {schema : Schema} (clean : schema.lint.isClean = true)
    (wellFormed : doc.WellFormed) (accepted : schema.lint.checkValues doc = [])
    (texts : ∀ check ∈ schema.lint.checks, ∀ value, doc.get? check.mapKey = some value →
      check.expectation.HasTextValues value) :
    (schema.extract doc).Quiet ↔ ∀ check ∈ schema.lint.checks, ∀ value,
      doc.get? check.mapKey = some value → check.expectation.Decodable value := by
  rw [Report.checkValues, List.filterMap_eq_nil_iff] at accepted
  have sameChecks := (lint_checks clean).1
  rw [sameChecks] at accepted texts ⊢
  apply quiet_extract_iff wellFormed
  intro check membership value found
  have isAccepted := Check.accepts_of_issue? (accepted check membership) found
  exact ⟨isAccepted, texts check membership value found⟩

/-- Linting does not look at the value of a variable, at the range of an amount or at the size of a
volume. Reading each of them gives a warning. -/
theorem extract_warns_after_lint :
    let schema : Schema := {
      friendlyName := "web", categories := [], dependencies := [], plugins := [], customParams := []
      params := []
      roles := [⟨"web", "", "pod",
        some ⟨none, none, none, some (.new .environment "web.env"), none, []⟩,
        some ⟨some (.new .memory "web.memory"), some (.new .cores "web.cpu"), none, none, none,
          none, [⟨"data", "web.data", none, "", "", false⟩]⟩, none⟩] }
    let env := Json.arr [.obj [("name", .str "A"), ("value", .ofInt64 1)]]
    let web := Json.obj [("env", env), ("memory", .str "9999999999999Mi"), ("cpu", .str "1e30"),
      ("data", .obj [("size", .str "lots")])]
    let doc := Json.obj [("web", web)]
    schema.lint.isClean = true ∧ doc.WellFormed ∧ schema.lint.checkValues doc = [] ∧
      (schema.extract doc).log.map Notice.isWarning = [true, true, true, true] ∧
      ¬(schema.extract doc).Quiet := by
  intro schema env web doc
  have wellFormed : doc.WellFormed := by
    simp [doc, web, env, Json.WellFormed, Json.MembersWellFormed, Json.AllWellFormed, Members.keys,
      Json.ofInt64]
  have warnings : (schema.extract doc).log.map Notice.isWarning = [true, true, true, true] := by
    dsimp only [schema, doc, web, env]
    rfl
  refine ⟨rfl, wellFormed, rfl, warnings, fun quiet => ?_⟩
  have warns : true ∈ (schema.extract doc).log.map Notice.isWarning := by
    rw [warnings]
    exact List.mem_cons_self
  obtain ⟨notice, reported, isWarning⟩ := List.mem_map.mp warns
  rw [quiet notice reported] at isWarning
  cases isWarning

theorem lint_extract_quiet_iff_role :
    let schema : Schema := {
      friendlyName := "web", categories := [], dependencies := [], plugins := [], customParams := []
      params := []
      roles := [⟨"web", "", "pod",
        some ⟨none, none, none, some (.new .environment "web.env"), none, []⟩,
        some ⟨some (.new .memory "web.memory"), some (.new .cores "web.cpu"), none, none, none,
          none, [⟨"data", "web.data", none, "", "", false⟩]⟩, none⟩] }
    let env := Json.arr [.obj [("name", .str "A")]]
    let web := Json.obj [("env", env), ("memory", .str "512Mi"), ("cpu", .ofInt64 2),
      ("data", .obj [("accessModes", .arr [.str "ReadWriteOnce"]), ("size", .str "1e9")])]
    let doc := Json.obj [("web", web)]
    schema.lint.isClean = true ∧ schema.lint.checkValues doc = [] ∧ (schema.extract doc).Quiet := by
  intro schema env web doc
  have wellFormed : doc.WellFormed := by
    simp [doc, web, env, Json.WellFormed, Json.MembersWellFormed, Json.AllWellFormed, Members.keys,
      Json.ofInt64]
  have clean : schema.lint.isClean = true := rfl
  have accepted : schema.lint.checkValues doc = [] := rfl
  have checks : schema.lint.checks = [⟨"web.env", false, .env⟩, ⟨"web.cpu", false, .cpu⟩,
    ⟨"web.memory", false, .memory⟩, ⟨"web.data", false, .storage⟩] := rfl
  refine ⟨clean, accepted, (lint_extract_quiet_iff clean wellFormed accepted ?_).mpr ?_⟩
  · rw [checks]
    simp only [List.forall_mem_cons]
    refine ⟨?_, ?_, ?_, ?_, List.forall_mem_nil _⟩ <;> rintro _ ⟨⟩
    · refine List.forall_mem_singleton.mpr ?_
      rintro _ ⟨⟩
    all_goals trivial
  · rw [checks]
    simp only [List.forall_mem_cons]
    refine ⟨?_, ?_, ?_, ?_, List.forall_mem_nil _⟩ <;> rintro _ ⟨⟩
    · trivial
    · exact .inr ⟨⟨2, 0, 0⟩, 2000, by rfl, by rfl⟩
    · exact .inr ⟨⟨512, 0, 20⟩, 0x2000_0000, by rfl, by rfl⟩
    · refine ⟨?_, ?_, ?_⟩ <;> rintro _ ⟨⟩
      · exact ⟨_, rfl, List.forall_mem_singleton.mpr ⟨_, rfl⟩⟩
      · exact .inr ⟨⟨1, 9, 0⟩, 1000000000, by rfl, by rfl⟩

end Schema

end ChartParams
