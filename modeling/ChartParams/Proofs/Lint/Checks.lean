import ChartParams.Proofs.Lint.Items

/-!
# The checks of a schema

`Schema.checks` lists one check for every entry of a schema. A knob is expected to hold what its
type says. There are complaints about an item unless all its texts are there, and unless it is
complete if it is an entry.
-/

namespace ChartParams

def Lint.Expectation.ofKnobType : KnobType → Expectation
  | .text => .string
  | .integer => .integer
  | .flag => .boolean
  | .environment => .env
  | .memory => .memory
  | .cores => .cpu

namespace Schema

open Lint (Check)

def Knob.check {type : KnobType} (knob : Knob type) : Check :=
  ⟨knob.mapKey, knob.isRequired, .ofKnobType type⟩

def Knob.checks {type : KnobType} (knob : Option (Knob type)) : List Check :=
  knob.toList.map (·.check)

def Parameter.check (entry : Parameter) : Check :=
  ⟨entry.mapKey, entry.isRequired, .ofKind entry.kind⟩

def Storage.check (entry : Storage) : Check := ⟨entry.mapKey, entry.isRequired, .storage⟩

def RoleBase.checks (base : RoleBase) : List Check :=
  Knob.checks base.image ++ Knob.checks base.priority ++ Knob.checks base.replicas ++
  Knob.checks base.env ++ Knob.checks base.useHostNetwork ++ base.others.map (·.check)

def Resources.checks (resources : Resources) : List Check :=
  Knob.checks resources.limitsCpu ++ Knob.checks resources.limitsMemory ++
  Knob.checks resources.limitsGpu ++ Knob.checks resources.requestsMemory ++
  Knob.checks resources.requestsCpu ++ Knob.checks resources.requestsGpu ++
  resources.storageResources.map (·.check)

def Role.checks (role : Role) : List Check :=
  role.base.toList.flatMap (·.checks) ++ role.resources.toList.flatMap (·.checks)

def checks (schema : Schema) : List Check :=
  schema.roles.flatMap (·.checks) ++ schema.params.map (·.check)

end Schema

namespace Lint

def missing (fields : List (String × String)) : List String :=
  (fields.filter fun field => field.2.isEmpty).map fun field => field.1 ++ " required"

def kindComplaints : Option Kind → List String
  | none => ["type required"]
  | some .unknown => ["type not supported"]
  | some _ => []

def issuesAt (place : String) (complaints : List String) : List Issue :=
  complaints.map (Issue.mk place)

theorem issuesAt_append (place : String) (first second : List String) :
    issuesAt place (first ++ second) = issuesAt place first ++ issuesAt place second :=
  List.map_append

theorem missing_eq_nil_iff {fields : List (String × String)} :
    missing fields = [] ↔ ∀ field ∈ fields, field.2 ≠ "" := by
  simp [missing]

theorem kindComplaints_eq_nil_iff {kind : Option Kind} :
    kindComplaints kind = [] ↔ kind ≠ none ∧ kind ≠ some .unknown := by
  rcases kind with _ | kind
  · simp [kindComplaints]
  · cases kind <;> simp [kindComplaints]

namespace Entry

def check : Entry → Check
  | knob entry => entry.check
  | parameter entry => entry.check
  | storage entry => entry.check

def complaints : Entry → List String
  | knob entry => missing [("mapKey", entry.mapKey)]
  | parameter entry =>
      missing [("name", entry.name), ("mapKey", entry.mapKey)] ++ kindComplaints entry.kind
  | storage entry => missing [("name", entry.name), ("mapKey", entry.mapKey)]

/-- Nothing that linting asks of an entry is missing. -/
def IsComplete : Entry → Prop
  | knob entry => entry.mapKey ≠ ""
  | parameter entry =>
      entry.name ≠ "" ∧ entry.mapKey ≠ "" ∧ entry.kind ≠ none ∧ entry.kind ≠ some .unknown
  | storage entry => entry.name ≠ "" ∧ entry.mapKey ≠ ""

instance : DecidablePred IsComplete
  | knob entry => inferInstanceAs (Decidable (entry.mapKey ≠ ""))
  | parameter _ => inferInstanceAs (Decidable (_ ∧ _))
  | storage _ => inferInstanceAs (Decidable (_ ∧ _))

theorem IsComplete.mapKey {entry : Entry} (complete : entry.IsComplete) :
    entry.check.mapKey.isEmpty = false := by
  rw [Bool.eq_false_iff, ne_eq, String.isEmpty_iff]
  cases entry with
  | knob entry => exact complete
  | parameter entry => exact complete.2.1
  | storage entry => exact complete.2

theorem complaints_eq_nil_iff {entry : Entry} : entry.complaints = [] ↔ entry.IsComplete := by
  cases entry with
  | knob entry => simp [complaints, IsComplete, missing_eq_nil_iff]
  | parameter entry =>
      simp [complaints, IsComplete, missing_eq_nil_iff, kindComplaints_eq_nil_iff, and_assoc]
  | storage entry => simp [complaints, IsComplete, missing_eq_nil_iff]

end Entry

namespace Item

def complaints : Item → List String
  | texts fields => missing fields
  | entry found => found.complaints

theorem complaints_eq_nil_iff {item : Item} :
    item.complaints = [] ↔
      (∀ field ∈ item.fields, field.2 ≠ "") ∧ ∀ entry ∈ item.asEntry, entry.IsComplete := by
  cases item with
  | texts fields => simp [complaints, Item.fields, asEntry, missing_eq_nil_iff]
  | entry found => simp [complaints, Item.fields, asEntry, Entry.complaints_eq_nil_iff]

def checks : Item → List Check
  | texts _ => []
  | entry found => [found.check]

end Item

end Lint

namespace Schema

open Lint (Item collect collect_nil collect_append collect_single
  collect_sections collect_numbered collect_numbered_nil)

theorem Knob.collect_checks {type : KnobType} (knob : Option (Knob type)) :
    collect Item.checks (Knob.items knob) = Knob.checks knob := by
  cases knob <;> rfl

theorem Parameter.collect_checks (entry : Parameter) :
    collect Item.checks entry.items = [entry.check] :=
  collect_single _

theorem Storage.collect_checks (entry : Storage) :
    collect Item.checks entry.items = [entry.check] :=
  collect_single _

theorem RoleBase.collect_checks (base : RoleBase) :
    collect Item.checks base.items = base.checks := by
  simp only [RoleBase.items, collect_sections, List.flatMap_cons, List.flatMap_nil, List.append_nil,
    Knob.collect_checks, collect_numbered Parameter.collect_checks, checks, List.append_assoc,
    List.map_eq_flatMap]

theorem Resources.collect_checks (resources : Resources) :
    collect Item.checks resources.items = resources.checks := by
  simp only [Resources.items, collect_sections, List.flatMap_cons, List.flatMap_nil,
    List.append_nil, Knob.collect_checks, collect_numbered Storage.collect_checks, checks,
    List.append_assoc, List.map_eq_flatMap]

theorem Role.collect_checks (role : Role) : collect Item.checks role.items = role.checks := by
  rw [Role.items, collect_append, collect_single, collect_sections, checks]
  cases role.base <;> cases role.resources <;>
    simp [collect_nil, Item.checks, RoleBase.collect_checks, Resources.collect_checks]

theorem Dependency.collect_checks (entry : Dependency) : collect Item.checks entry.items = [] :=
  collect_single _

theorem Plugin.collect_checks (entry : Plugin) : collect Item.checks entry.items = [] :=
  collect_single _

theorem collect_checks (schema : Schema) : collect Item.checks schema.items = schema.checks := by
  simp [items, collect_sections, collect_single, collect_numbered_nil Dependency.collect_checks,
    collect_numbered Role.collect_checks, collect_numbered Parameter.collect_checks,
    collect_numbered_nil Plugin.collect_checks, checks, Item.checks, List.map_eq_flatMap]

theorem map_check_entries (schema : Schema) :
    schema.entries.map (·.2.check) = schema.checks := by
  rw [← collect_checks, entries, List.map_flatMap, collect]
  congr 1
  funext placed
  cases placed.2 <;> rfl

end Schema

end ChartParams
