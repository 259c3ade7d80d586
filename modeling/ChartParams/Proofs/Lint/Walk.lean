import ChartParams.Proofs.Lint.Checks

/-!
# The walk of linting

Each visit adds to a report what its items give: the complaints about them at their places, and the
checks of the entries that are complete (`Report.add`). An entry gives its check if there are no more
issues than before, which is to say that there is no complaint about it. So a report holds what the
items of the schema give, in the order of the walk (`Schema.lint_eq`).
-/

namespace ChartParams

namespace Lint

namespace Report

/-- The report with what an item at a place gives. -/
def add (report : Report) (place : String) (item : Item) : Report :=
  ⟨report.issues ++ issuesAt place item.complaints,
    report.checks ++ (item.asEntry.toList.filter (·.IsComplete)).map (·.check)⟩

def addAll (report : Report) (place : String) (items : List (String × Item)) : Report :=
  items.foldl (fun report placed => report.add (place ++ placed.1) placed.2) report

def withIssues (report : Report) (place : String) (complaints : List String) : Report :=
  { report with issues := report.issues ++ issuesAt place complaints }

theorem addAll_append (report : Report) (place : String) (first second : List (String × Item)) :
    report.addAll place (first ++ second) = (report.addAll place first).addAll place second :=
  List.foldl_append

theorem addAll_single (report : Report) (place : String) (item : Item) :
    report.addAll place (single item) = report.add place item := by
  rw [addAll, single, List.foldl_cons, List.foldl_nil, String.append_empty]

theorem addAll_sections (report : Report) (place : String)
    (parts : List (String × List (String × Item))) :
    report.addAll place (sections parts) =
      parts.foldl (fun report part => report.addAll (place ++ part.1) part.2) report := by
  rw [addAll, sections, List.foldl_flatMap]
  simp only [List.foldl_map, addAll, String.append_assoc]

/-- A visit to each member adds the items of the list if it adds those of a member. -/
theorem indexed_eq {α : Type} {visit : Report → String → α → Report}
    {items : α → List (String × Item)}
    (each : ∀ report place entry, visit report place entry = report.addAll place (items entry))
    (report : Report) (place : String) (entries : List α) :
    report.indexed visit place entries = report.addAll place (numbered items entries) := by
  rw [numbered, addAll_sections, List.foldl_map, indexed]
  simp only [each, String.append_assoc]

theorem issues_addAll (report : Report) (place : String) (items : List (String × Item)) :
    (report.addAll place items).issues =
      report.issues ++ items.flatMap fun placed =>
        issuesAt (place ++ placed.1) placed.2.complaints := by
  induction items generalizing report with
  | nil => exact (List.append_nil _).symm
  | cons placed rest inductionHypothesis =>
      rw [addAll, List.foldl_cons, ← addAll, inductionHypothesis, List.flatMap_cons,
        ← List.append_assoc]
      rfl

theorem checks_addAll (report : Report) (place : String) (items : List (String × Item)) :
    (report.addAll place items).checks =
      report.checks ++ items.flatMap fun placed =>
        (placed.2.asEntry.toList.filter (·.IsComplete)).map (·.check) := by
  induction items generalizing report with
  | nil => exact (List.append_nil _).symm
  | cons placed rest inductionHypothesis =>
      rw [addAll, List.foldl_cons, ← addAll, inductionHypothesis, List.flatMap_cons,
        ← List.append_assoc]
      rfl

/-! ## Entries -/

theorem requireAll_eq (report : Report) (place : String) (fields : List (String × String)) :
    report.requireAll place fields = report.withIssues place (missing fields) := by
  induction fields generalizing report with
  | nil => simp [requireAll, withIssues, missing, issuesAt]
  | cons field rest inductionHypothesis =>
      rw [requireAll, List.foldl_cons, ← requireAll, inductionHypothesis]
      cases isEmpty : field.2.isEmpty <;>
        simp [complain, issue, withIssues, missing, issuesAt, isEmpty]

theorem kind_eq (report : Report) (place : String) (kind : Option Kind) :
    report.kind place kind = report.withIssues place (kindComplaints kind) := by
  rcases kind with _ | kind
  · rfl
  · cases kind <;> simp [Report.kind, issue, withIssues, kindComplaints, issuesAt]

theorem withIssues_append (report : Report) (place : String) (first second : List String) :
    (report.withIssues place first).withIssues place second =
      report.withIssues place (first ++ second) := by
  rw [withIssues, withIssues, withIssues, issuesAt_append, List.append_assoc]

theorem add_texts (report : Report) (place : String) (fields : List (String × String)) :
    report.add place (.texts fields) = report.requireAll place fields := by
  rw [requireAll_eq, add]
  exact congrArg _ (List.append_nil _)

/-- There are no more issues than before exactly if there was nothing to complain about. -/
theorem checkUnlessMore_eq (report : Report) (place : String) (entry : Entry) :
    (report.withIssues place entry.complaints).checkUnlessMore report.issues.length entry.check =
      report.add place (.entry entry) := by
  have same : (report.withIssues place entry.complaints).issues.length = report.issues.length ↔
      entry.complaints = [] := by
    simp [withIssues, issuesAt]
  rw [checkUnlessMore, add, Item.complaints, Item.asEntry, Option.toList_some]
  by_cases complete : entry.IsComplete
  · have noComplaints := Entry.complaints_eq_nil_iff.mpr complete
    rw [if_pos (same.mpr noComplaints), List.filter_cons_of_pos (by simpa using complete)]
    rfl
  · have complaints := mt Entry.complaints_eq_nil_iff.mp complete
    rw [if_neg (mt same.mp complaints), List.filter_cons_of_neg (by simpa using complete),
      List.filter_nil, List.map_nil, List.append_nil]
    rfl

theorem knob_eq {type : KnobType} (report : Report) (place : String)
    (entry : Option (Schema.Knob type)) :
    report.knob place (.ofKnobType type) entry =
      report.addAll place (Schema.Knob.items entry) := by
  cases entry with
  | none => rfl
  | some entry =>
      rw [Schema.Knob.items, Option.toList_some, List.flatMap_singleton, addAll_single,
        ← checkUnlessMore_eq, Entry.complaints, ← requireAll_eq]
      by_cases isEmpty : entry.mapKey = "" <;>
        simp [knob, requireAll, complain, issue, checkUnlessMore, isEmpty, Entry.check,
          Schema.Knob.check]

theorem parameter_eq (report : Report) (place : String) (entry : Schema.Parameter) :
    report.parameter place entry = report.addAll place entry.items := by
  rw [Schema.Parameter.items, addAll_single, ← checkUnlessMore_eq, Entry.complaints,
    ← withIssues_append, ← requireAll_eq, ← kind_eq]
  simp [parameter, requireAll, Entry.check, Schema.Parameter.check]

theorem storage_eq (report : Report) (place : String) (entry : Schema.Storage) :
    report.storage place entry = report.addAll place entry.items := by
  rw [Schema.Storage.items, addAll_single, ← checkUnlessMore_eq, Entry.complaints,
    ← requireAll_eq]
  simp [storage, requireAll, Entry.check, Schema.Storage.check]

theorem dependency_eq (report : Report) (place : String) (entry : Schema.Dependency) :
    report.dependency place entry = report.addAll place entry.items := by
  rw [Schema.Dependency.items, addAll_single, add_texts]
  rfl

theorem plugin_eq (report : Report) (place : String) (entry : Schema.Plugin) :
    report.plugin place entry = report.addAll place entry.items := by
  rw [Schema.Plugin.items, addAll_single, add_texts]
  rfl

/-! ## Bundles -/

theorem roleBase_eq (report : Report) (place : String) (entry : Schema.RoleBase) :
    report.roleBase place entry = report.addAll place entry.items := by
  simp only [Schema.RoleBase.items, addAll_sections, List.foldl_cons, List.foldl_nil, roleBase,
    ← knob_eq, ← indexed_eq parameter_eq]
  rfl

theorem resources_eq (report : Report) (place : String) (entry : Schema.Resources) :
    report.resources place entry = report.addAll place entry.items := by
  simp only [Schema.Resources.items, addAll_sections, List.foldl_cons, List.foldl_nil, resources,
    ← knob_eq, ← indexed_eq storage_eq]
  rfl

theorem role_eq (report : Report) (place : String) (entry : Schema.Role) :
    report.role place entry = report.addAll place entry.items := by
  rw [Schema.Role.items, addAll_append, addAll_single, add_texts, addAll_sections, role]
  cases entry.base <;> cases entry.resources <;>
    simp [Schema.Role.fields, requireAll, roleBase_eq, resources_eq, addAll]

end Report

end Lint

namespace Schema

open Lint (Item Entry issuesAt collect)

theorem lint_eq (schema : Schema) :
    schema.lint = (Lint.Report.mk [] []).addAll "" schema.items := by
  rw [items, Lint.Report.addAll_sections, lint]
  simp only [List.foldl_cons, List.foldl_nil, String.empty_append,
    ← Lint.Report.indexed_eq Lint.Report.dependency_eq,
    ← Lint.Report.indexed_eq Lint.Report.role_eq,
    ← Lint.Report.indexed_eq Lint.Report.parameter_eq,
    ← Lint.Report.indexed_eq Lint.Report.plugin_eq, Lint.Report.addAll_single,
    Lint.Report.add_texts]
  rfl

theorem issues_lint (schema : Schema) :
    schema.lint.issues =
      schema.items.flatMap fun placed => issuesAt placed.1 placed.2.complaints := by
  rw [lint_eq, Lint.Report.issues_addAll]
  simp only [List.nil_append, String.empty_append]

theorem checks_lint (schema : Schema) :
    schema.lint.checks = (schema.entries.filter (·.2.IsComplete)).map (·.2.check) := by
  rw [lint_eq, Lint.Report.checks_addAll, entries, List.filter_flatMap, List.map_flatMap]
  simp only [List.nil_append, List.filter_map, List.map_map, Function.comp_def]

theorem isClean_lint_iff_items {schema : Schema} :
    schema.lint.isClean = true ↔
      (∀ field ∈ collect Item.fields schema.items, field.2 ≠ "") ∧
        ∀ placed ∈ schema.entries, placed.2.IsComplete := by
  have noIssues (placed : String × Item) : issuesAt placed.1 placed.2.complaints = [] ↔
      (∀ field ∈ placed.2.fields, field.2 ≠ "") ∧ ∀ entry ∈ placed.2.asEntry, entry.IsComplete := by
    rw [issuesAt, List.map_eq_nil_iff, Item.complaints_eq_nil_iff]
  rw [Lint.Report.isClean, List.isEmpty_iff, issues_lint, List.flatMap_eq_nil_iff, collect, entries,
    List.forall_mem_flatMap, List.forall_mem_flatMap]
  simp only [noIssues, List.forall_mem_map, Option.mem_toList]
  exact ⟨fun each => ⟨fun placed membership => (each placed membership).1,
    fun placed membership => (each placed membership).2⟩,
    fun each placed membership => ⟨each.1 placed membership, each.2 placed membership⟩⟩

/-- Linting a schema without issues gives the checks of its entries, which all have a map key. -/
theorem lint_checks {schema : Schema} (clean : schema.lint.isClean = true) :
    schema.lint.checks = schema.checks ∧ ∀ check ∈ schema.checks, check.mapKey.isEmpty = false := by
  have complete := (isClean_lint_iff_items.mp clean).2
  have kept : schema.entries.filter (·.2.IsComplete) = schema.entries := by
    simpa [List.filter_eq_self] using complete
  rw [checks_lint, kept, map_check_entries]
  refine ⟨rfl, fun check membership => ?_⟩
  rw [← map_check_entries] at membership
  obtain ⟨placed, isEntry, rfl⟩ := List.mem_map.mp membership
  exact (complete placed isEntry).mapKey

end Schema

end ChartParams
