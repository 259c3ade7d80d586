import ChartParams.Proofs.Lint.Walk

/-!
# Linting accounts for every entry

An entry of a schema gives its check if it is complete. If not, it gives issues at its own place and
no check. This holds of every entry by itself, whatever is wrong with the others (`lint_accounts`).
-/

namespace ChartParams

namespace Lint

variable {place : String}

theorem filter_issuesAt_self (place : String) (complaints : List String) :
    (issuesAt place complaints).filter (·.place = place) = issuesAt place complaints := by
  simp [issuesAt, List.filter_map, Function.comp_def]

theorem filter_issuesAt_of_ne {other : String} (different : other ≠ place)
    (complaints : List String) : (issuesAt other complaints).filter (·.place = place) = [] := by
  simp [issuesAt, different]

/-- The issues at the place of one of several items are its own, if no two items share a place. -/
theorem issues_at_item {items : List (String × Item)} (distinct : (items.map Prod.fst).Nodup)
    {item : Item} (membership : (place, item) ∈ items) :
    (items.flatMap fun placed => issuesAt placed.1 placed.2.complaints).filter (·.place = place) =
      issuesAt place item.complaints := by
  induction items with
  | nil => cases membership
  | cons first rest inductionHypothesis =>
      rw [List.map_cons, List.nodup_cons] at distinct
      rw [List.flatMap_cons, List.filter_append]
      rcases List.mem_cons.mp membership with rfl | inRest
      · have elsewhere : (rest.flatMap fun placed =>
            issuesAt placed.1 placed.2.complaints).filter (·.place = place) = [] := by
          rw [List.filter_flatMap, List.flatMap_eq_nil_iff]
          intro placed inRest
          apply filter_issuesAt_of_ne
          intro same
          exact distinct.1 (List.mem_map.mpr ⟨placed, inRest, same⟩)
        rw [filter_issuesAt_self, elsewhere, List.append_nil]
      · have different : first.1 ≠ place := by
          intro same
          exact distinct.1 (List.mem_map.mpr ⟨(place, item), inRest, same.symm⟩)
        rw [filter_issuesAt_of_ne different, inductionHypothesis distinct.2 inRest, List.nil_append]

end Lint

namespace Schema

open Lint (Item Entry issuesAt collect collect_nil collect_append collect_single
  collect_sections collect_numbered collect_numbered_nil)

theorem Knob.collect_fields {type : KnobType} (knob : Option (Knob type)) :
    collect Item.fields (Knob.items knob) = [] := by
  cases knob <;> rfl

theorem Parameter.collect_fields (entry : Parameter) : collect Item.fields entry.items = [] :=
  collect_single _

theorem Storage.collect_fields (entry : Storage) : collect Item.fields entry.items = [] :=
  collect_single _

theorem RoleBase.collect_fields (base : RoleBase) : collect Item.fields base.items = [] := by
  simp [RoleBase.items, collect_sections, Knob.collect_fields,
    collect_numbered_nil Parameter.collect_fields]

theorem Resources.collect_fields (resources : Resources) :
    collect Item.fields resources.items = [] := by
  simp [Resources.items, collect_sections, Knob.collect_fields,
    collect_numbered_nil Storage.collect_fields]

theorem Role.collect_fields (role : Role) : collect Item.fields role.items = role.fields := by
  rw [Role.items, collect_append, collect_single, collect_sections]
  cases role.base <;> cases role.resources <;>
    simp [collect_nil, Item.fields, RoleBase.collect_fields, Resources.collect_fields]

theorem Dependency.collect_fields (entry : Dependency) :
    collect Item.fields entry.items = entry.fields :=
  collect_single _

theorem Plugin.collect_fields (entry : Plugin) : collect Item.fields entry.items = entry.fields :=
  collect_single _

theorem collect_fields (schema : Schema) :
    collect Item.fields schema.items =
      [("friendlyName", schema.friendlyName)] ++ schema.dependencies.flatMap Dependency.fields ++
        schema.roles.flatMap Role.fields ++ schema.plugins.flatMap Plugin.fields := by
  simp [items, collect_sections, collect_single, collect_numbered Dependency.collect_fields,
    collect_numbered Role.collect_fields, collect_numbered_nil Parameter.collect_fields,
    collect_numbered Plugin.collect_fields, Item.fields]

theorem mem_entries_iff {schema : Schema} {place : String} {entry : Entry} :
    (place, entry) ∈ schema.entries ↔ (place, .entry entry) ∈ schema.items := by
  simp only [entries, List.mem_flatMap, List.mem_map, Option.mem_toList]
  constructor
  · rintro ⟨⟨place, item⟩, membership, found, isEntry, equality⟩
    cases item with
    | texts fields => cases isEntry
    | entry other =>
        cases isEntry
        cases equality
        exact membership
  · intro membership
    exact ⟨_, membership, entry, rfl, rfl⟩

/-- Nothing that linting asks of a schema is missing. -/
structure IsComplete (schema : Schema) : Prop where
  friendlyName : schema.friendlyName ≠ ""
  dependencies : ∀ dependency ∈ schema.dependencies, dependency.name ≠ "" ∧
    dependency.minVersion ≠ "" ∧ dependency.maxVersion ≠ "" ∧ dependency.aliasConfigVar ≠ ""
  roles : ∀ role ∈ schema.roles, role.name ≠ "" ∧ role.type ≠ ""
  plugins : ∀ plugin ∈ schema.plugins, plugin.name ≠ "" ∧ plugin.version ≠ "" ∧ plugin.args ≠ ""
  entries : ∀ placed ∈ schema.entries, placed.2.IsComplete

theorem isComplete_iff {schema : Schema} :
    schema.IsComplete ↔ (∀ field ∈ collect Item.fields schema.items, field.2 ≠ "") ∧
      ∀ placed ∈ schema.entries, placed.2.IsComplete := by
  rw [collect_fields]
  simp only [List.forall_mem_append, List.forall_mem_flatMap, List.forall_mem_cons,
    List.not_mem_nil, false_implies, implies_true, Dependency.fields, Role.fields, Plugin.fields,
    and_assoc, and_true]
  constructor
  · intro complete
    exact ⟨complete.friendlyName, complete.dependencies, complete.roles, complete.plugins,
      complete.entries⟩
  · rintro ⟨friendlyName, dependencies, roles, plugins, entries⟩
    exact ⟨friendlyName, dependencies, roles, plugins, entries⟩

theorem isClean_lint_iff {schema : Schema} : schema.lint.isClean = true ↔ schema.IsComplete :=
  isClean_lint_iff_items.trans isComplete_iff.symm

/-- Linting accounts for every entry of a schema once, whatever is wrong with the others. All issues
at the place of an entry are about that entry, and there are some if and only if it is incomplete;
the checks are those of the complete entries, in the order of the walk. A report is clean if and
only if the schema is complete, and it has a check for every entry then. -/
theorem lint_accounts (schema : Schema) :
    (schema.items.map Prod.fst).Nodup ∧
      schema.entries.map (·.2.check) = schema.checks ∧
      (∀ place entry, (place, entry) ∈ schema.entries →
        schema.lint.issues.filter (·.place = place) = issuesAt place entry.complaints ∧
          (entry.complaints = [] ↔ entry.IsComplete)) ∧
      schema.lint.checks = (schema.entries.filter (·.2.IsComplete)).map (·.2.check) ∧
      (schema.lint.isClean = true ↔ schema.IsComplete) ∧
      (schema.lint.isClean = true → schema.lint.checks.length = schema.entries.length) := by
  refine ⟨Lint.nodup_items schema, map_check_entries schema, ?_, checks_lint schema,
    isClean_lint_iff, ?_⟩
  · intro place entry membership
    rw [issues_lint]
    have isItem := mem_entries_iff.mp membership
    exact ⟨Lint.issues_at_item (Lint.nodup_items schema) isItem, Entry.complaints_eq_nil_iff⟩
  · intro clean
    rw [(lint_checks clean).1, ← map_check_entries, List.length_map]

theorem lint_accounts_untyped :
    let schema : Schema := {
      friendlyName := "web", categories := [], dependencies := [], plugins := [], customParams := []
      params := [⟨"port", "web.port", none, "", some .int, true⟩]
      roles := [⟨"web", "", "pod",
        some ⟨some (.new .text "web.image"), none, none, none, none,
          [⟨"heap", "web.heap", none, "", none, false⟩]⟩,
        some ⟨none, none, none, none, none, none, [⟨"", "", none, "", "", false⟩]⟩, none⟩] }
    let heap := "roles[0].baseConfig.others[0]"
    let volume := "roles[0].resources.storageResources[0]"
    schema.lint.issues.filter (·.place = heap) = [⟨heap, "type required"⟩] ∧
      schema.lint.issues.filter (·.place = volume) =
        [⟨volume, "name required"⟩, ⟨volume, "mapKey required"⟩] ∧
      schema.lint.checks = [⟨"web.image", false, .string⟩, ⟨"web.port", true, .integer⟩] ∧
      schema.lint.isClean = false := by
  intro schema heap volume
  obtain ⟨-, -, about, checks, clean, -⟩ := lint_accounts schema
  have entries : schema.entries = [
      ("roles[0].baseConfig.image", .knob (.new .text "web.image")),
      (heap, .parameter ⟨"heap", "web.heap", none, "", none, false⟩),
      (volume, .storage ⟨"", "", none, "", "", false⟩),
      ("params[0]", .parameter ⟨"port", "web.port", none, "", some .int, true⟩)] := rfl
  have untyped : (heap, Entry.parameter ⟨"heap", "web.heap", none, "", none, false⟩) ∈
      schema.entries := by simp [entries]
  have unnamed : (volume, Entry.storage ⟨"", "", none, "", "", false⟩) ∈ schema.entries := by
    simp [entries]
  refine ⟨(about _ _ untyped).1, (about _ _ unnamed).1, checks, ?_⟩
  rw [Bool.eq_false_iff]
  intro isClean
  have typed := (clean.mp isClean).entries _ untyped
  exact typed.2.2.1 rfl

end Schema

end ChartParams
