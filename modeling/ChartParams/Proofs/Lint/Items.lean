import ChartParams.Lint
import ChartParams.Proofs.Quantity.Units
import Mathlib.Data.List.Nodup

/-!
# The items of a schema

Linting walks over the items of a schema: its entries, and the texts that describe the chart, its
dependencies, roles and plugins. `Schema.items` lists them with their places, in the order of the
walk. No two items have the same place (`nodup_items`).
-/

namespace ChartParams

namespace Lint

/-- A part of a schema that names the path of a value. -/
inductive Entry
  | knob {type : KnobType} (knob : Schema.Knob type)
  | parameter (parameter : Schema.Parameter)
  | storage (storage : Schema.Storage)

inductive Item
  /-- Texts that are required, each with its name. -/
  | texts (fields : List (String × String))
  | entry (entry : Entry)

namespace Item

def fields : Item → List (String × String)
  | texts fields => fields
  | entry _ => []

def asEntry : Item → Option Entry
  | texts _ => none
  | entry found => some found

end Item

/-- Lists of items, each list below the place of its section. -/
def sections (parts : List (String × List (String × Item))) : List (String × Item) :=
  parts.flatMap fun part => part.2.map fun placed => (part.1 ++ placed.1, placed.2)

/-- The items of the members of a list, each below its number. -/
def numbered {α : Type} (items : α → List (String × Item)) (entries : List α) :
    List (String × Item) :=
  sections (entries.zipIdx.map fun (entry, index) => ("[" ++ toString index ++ "]", items entry))

def single (item : Item) : List (String × Item) := [("", item)]

end Lint

namespace Schema

open Lint (Item Entry sections numbered single)

def Knob.items {type : KnobType} (knob : Option (Knob type)) : List (String × Item) :=
  knob.toList.flatMap fun entry => single (.entry (.knob entry))

def Parameter.items (entry : Parameter) : List (String × Item) := single (.entry (.parameter entry))

def Storage.items (entry : Storage) : List (String × Item) := single (.entry (.storage entry))

def Dependency.fields (entry : Dependency) : List (String × String) :=
  [("name", entry.name), ("minVersion", entry.minVersion), ("maxVersion", entry.maxVersion),
    ("aliasConfigVar", entry.aliasConfigVar)]

def Plugin.fields (entry : Plugin) : List (String × String) :=
  [("name", entry.name), ("version", entry.version), ("args", entry.args)]

def Role.fields (role : Role) : List (String × String) :=
  [("name", role.name), ("type", role.type)]

def Dependency.items (entry : Dependency) : List (String × Item) := single (.texts entry.fields)

def Plugin.items (entry : Plugin) : List (String × Item) := single (.texts entry.fields)

def RoleBase.items (base : RoleBase) : List (String × Item) :=
  sections [(".image", Knob.items base.image), (".priority", Knob.items base.priority),
    (".replicas", Knob.items base.replicas), (".env", Knob.items base.env),
    (".useHostNetwork", Knob.items base.useHostNetwork),
    (".others", numbered Parameter.items base.others)]

def Resources.items (resources : Resources) : List (String × Item) :=
  sections [(".limitsCpu", Knob.items resources.limitsCpu),
    (".limitsMemory", Knob.items resources.limitsMemory),
    (".limitsGpu", Knob.items resources.limitsGpu),
    (".requestsMemory", Knob.items resources.requestsMemory),
    (".requestsCpu", Knob.items resources.requestsCpu),
    (".requestsGpu", Knob.items resources.requestsGpu),
    (".storageResources", numbered Storage.items resources.storageResources)]

def Role.items (role : Role) : List (String × Item) :=
  single (.texts role.fields) ++
  sections [(".baseConfig", role.base.toList.flatMap (·.items)),
    (".resources", role.resources.toList.flatMap (·.items))]

/-- The items of a schema and their places, in the order of the walk. -/
def items (schema : Schema) : List (String × Item) :=
  sections [("friendlyName", single (.texts [("friendlyName", schema.friendlyName)])),
    ("dependencies", numbered Dependency.items schema.dependencies),
    ("roles", numbered Role.items schema.roles),
    ("params", numbered Parameter.items schema.params),
    ("plugins", numbered Plugin.items schema.plugins)]

def entries (schema : Schema) : List (String × Entry) :=
  schema.items.flatMap fun placed => placed.2.asEntry.toList.map fun entry => (placed.1, entry)

end Schema

namespace Lint

section Collect

variable {β : Type} {part : Item → List β}

/-- What is collected from items, in the order of the walk. -/
def collect (part : Item → List β) (items : List (String × Item)) : List β :=
  items.flatMap fun placed => part placed.2

theorem collect_nil : collect part [] = [] := rfl

theorem collect_append (first second : List (String × Item)) :
    collect part (first ++ second) = collect part first ++ collect part second :=
  List.flatMap_append

theorem collect_single (item : Item) : collect part (single item) = part item :=
  List.flatMap_singleton _ _

theorem collect_sections (parts : List (String × List (String × Item))) :
    collect part (sections parts) = parts.flatMap fun below => collect part below.2 := by
  simp only [collect, sections, List.flatMap_assoc, List.flatMap_map]

theorem collect_numbered {α : Type} {items : α → List (String × Item)} {collected : α → List β}
    (each : ∀ entry, collect part (items entry) = collected entry) (entries : List α) :
    collect part (numbered items entries) = entries.flatMap collected := by
  rw [numbered, collect_sections, List.flatMap_map]
  simp only [each]
  rw [← List.flatMap_map Prod.fst collected, List.zipIdx_map_fst]

theorem collect_numbered_nil {α : Type} {items : α → List (String × Item)}
    (each : ∀ entry, collect part (items entry) = []) (entries : List α) :
    collect part (numbered items entries) = [] := by
  rw [collect_numbered each, List.flatMap_eq_nil_iff]
  exact fun _ _ => rfl

end Collect

section Places

/-- Neither text begins with the other. -/
def Incomparable (first second : String) : Prop :=
  ¬first.toList <+: second.toList ∧ ¬second.toList <+: first.toList

instance (first second : String) : Decidable (Incomparable first second) :=
  inferInstanceAs (Decidable (_ ∧ _))

theorem Incomparable.append_ne {first second : String} (incomparable : Incomparable first second)
    (rest other : String) : first ++ rest ≠ second ++ other := by
  intro same
  have firstBegins : first.toList <+: second.toList ++ other.toList := by
    rw [← String.toList_append, ← same, String.toList_append]
    exact List.prefix_append _ _
  rcases List.prefix_or_prefix_of_prefix firstBegins (List.prefix_append _ _) with begins | begins
  · exact incomparable.1 begins
  · exact incomparable.2 begins

theorem nodup_sections {parts : List (String × List (String × Item))}
    (heads : (parts.map Prod.fst).Pairwise Incomparable)
    (each : ∀ part ∈ parts, (part.2.map Prod.fst).Nodup) :
    ((sections parts).map Prod.fst).Nodup := by
  rw [sections, List.map_flatMap, List.nodup_flatMap]
  refine ⟨fun part membership => ?_, (List.pairwise_map.mp heads).imp ?_⟩
  · have places : (part.2.map fun placed => (part.1 ++ placed.1, placed.2)).map Prod.fst =
        (part.2.map Prod.fst).map (part.1 ++ ·) := by
      simp only [List.map_map, Function.comp_def]
    rw [places]
    exact (each part membership).map fun _ _ => (String.append_right_inj part.1).mp
  · intro first second incomparable place inFirst inSecond
    simp only [List.map_map, List.mem_map, Function.comp] at inFirst inSecond
    obtain ⟨rest, -, rfl⟩ := inFirst
    obtain ⟨other, -, same⟩ := inSecond
    exact incomparable.append_ne _ _ same.symm

theorem incomparable_number {i j : Nat} (different : i ≠ j) :
    Incomparable ("[" ++ toString i ++ "]") ("[" ++ toString j ++ "]") := by
  have spelled (n : Nat) :
      ("[" ++ toString n ++ "]").toList = '[' :: (Nat.toDigits 10 n ++ [']']) := by
    simp [String.toList_append]
  have read (n : Nat) (rest : List Char) :
      Numeral.spanDigits (Nat.toDigits 10 n ++ ']' :: rest) = (Nat.toDigits 10 n, ']' :: rest) := by
    apply Numeral.spanDigits_append Numeral.isDigit_of_mem_toDigits
    rintro _ ⟨⟩
    rfl
  have eq_of_begins {n m : Nat}
      (below : ("[" ++ toString n ++ "]").toList <+: ("[" ++ toString m ++ "]").toList) :
      n = m := by
    rw [spelled, spelled, List.cons_prefix_cons] at below
    obtain ⟨rest, same⟩ := below.2
    rw [List.append_assoc] at same
    have sameDigits := congrArg (fun digits => (Numeral.spanDigits digits).1) same
    simp only [List.singleton_append, read] at sameDigits
    rw [← Numeral.ofDigits_toDigits n, sameDigits, Numeral.ofDigits_toDigits]
  exact ⟨fun below => different (eq_of_begins below),
    fun below => different (eq_of_begins below).symm⟩

theorem nodup_numbered {α : Type} {items : α → List (String × Item)}
    (each : ∀ entry, ((items entry).map Prod.fst).Nodup) (entries : List α) :
    ((numbered items entries).map Prod.fst).Nodup := by
  apply nodup_sections
  · have numbers : (entries.zipIdx.map Prod.snd).Nodup := by
      rw [List.zipIdx_map_snd]
      exact List.nodup_range'
    rw [List.map_map, List.pairwise_map]
    exact (List.pairwise_map.mp numbers).imp incomparable_number
  · intro part membership
    obtain ⟨entry, -, rfl⟩ := List.mem_map.mp membership
    exact each entry.1

theorem nodup_single (item : Item) : ((single item).map Prod.fst).Nodup := by
  simp [single]

theorem nodup_knob {type : KnobType} (entry : Option (Schema.Knob type)) :
    ((Schema.Knob.items entry).map Prod.fst).Nodup := by
  cases entry with
  | none => exact List.nodup_nil
  | some entry => exact nodup_single _

theorem nodup_roleBase (base : Schema.RoleBase) : (base.items.map Prod.fst).Nodup := by
  apply nodup_sections
  · change [".image", ".priority", ".replicas", ".env", ".useHostNetwork",
      ".others"].Pairwise Incomparable
    decide
  · simp only [List.forall_mem_cons]
    refine ⟨nodup_knob _, nodup_knob _, nodup_knob _, nodup_knob _, nodup_knob _, ?_,
      List.forall_mem_nil _⟩
    exact nodup_numbered (fun _ => nodup_single _) base.others

theorem nodup_resources (bundle : Schema.Resources) : (bundle.items.map Prod.fst).Nodup := by
  apply nodup_sections
  · change [".limitsCpu", ".limitsMemory", ".limitsGpu", ".requestsMemory", ".requestsCpu",
      ".requestsGpu", ".storageResources"].Pairwise Incomparable
    decide
  · simp only [List.forall_mem_cons]
    refine ⟨nodup_knob _, nodup_knob _, nodup_knob _, nodup_knob _, nodup_knob _, nodup_knob _, ?_,
      List.forall_mem_nil _⟩
    exact nodup_numbered (fun _ => nodup_single _) bundle.storageResources

theorem nodup_option {α : Type} {items : α → List (String × Item)}
    (each : ∀ entry, ((items entry).map Prod.fst).Nodup) (entry : Option α) :
    ((entry.toList.flatMap items).map Prod.fst).Nodup := by
  cases entry with
  | none => exact List.nodup_nil
  | some entry => simpa using each entry

theorem nodup_role (entry : Schema.Role) : (entry.items.map Prod.fst).Nodup := by
  have below : ((sections [(".baseConfig", entry.base.toList.flatMap (·.items)),
      (".resources", entry.resources.toList.flatMap (·.items))]).map Prod.fst).Nodup := by
    apply nodup_sections
    · change [".baseConfig", ".resources"].Pairwise Incomparable
      decide
    · simp only [List.forall_mem_cons]
      exact ⟨nodup_option nodup_roleBase _, nodup_option nodup_resources _, List.forall_mem_nil _⟩
  rw [Schema.Role.items, single, List.singleton_append, List.map_cons, List.nodup_cons]
  refine ⟨fun membership => ?_, below⟩
  simp [sections] at membership

theorem nodup_items (schema : Schema) : (schema.items.map Prod.fst).Nodup := by
  apply nodup_sections
  · change ["friendlyName", "dependencies", "roles", "params", "plugins"].Pairwise Incomparable
    decide
  · simp only [List.forall_mem_cons]
    refine ⟨nodup_single _, nodup_numbered ?_ _, nodup_numbered nodup_role _, nodup_numbered ?_ _,
      nodup_numbered ?_ _, List.forall_mem_nil _⟩ <;> exact fun _ => nodup_single _

end Places

end Lint

end ChartParams
