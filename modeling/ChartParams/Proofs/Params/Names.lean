import ChartParams.Params.Steps
import Mathlib.Data.List.Perm.Basic

/-!
# Entries with different names

If the names in a list differ, a name stands for one item, whichever end the search starts from. So
two lists can be matched by name from either side: going through the values and looking up their
entries gives the same pairs as going through the entries and looking up their values.
-/

namespace ChartParams

namespace Params

variable {α β γ : Type} {nameOf : α → String} {items : List α} {item : α} {name : String}

def named? (nameOf : α → String) (name : String) (items : List α) : Option α :=
  items.find? fun item => nameOf item == name

theorem mem_of_named? (found : named? nameOf name items = some item) : item ∈ items :=
  List.mem_of_find?_eq_some found

theorem named?_of_mem (distinct : (items.map nameOf).Nodup) (membership : item ∈ items) :
    named? nameOf (nameOf item) items = some item := by
  induction items with
  | nil => cases membership
  | cons first rest inductionHypothesis =>
      obtain ⟨fresh, restDistinct⟩ := List.nodup_cons.mp distinct
      rcases List.mem_cons.mp membership with rfl | later
      · simp [named?]
      · have different : nameOf first ≠ nameOf item := fun same =>
          fresh (same ▸ List.mem_map_of_mem later)
        rw [named?, List.find?_cons_of_neg (by simpa using different)]
        exact inductionHypothesis restDistinct later

theorem named?_eq_some_iff (distinct : (items.map nameOf).Nodup) :
    named? nameOf name items = some item ↔ item ∈ items ∧ nameOf item = name := by
  constructor
  · intro found
    exact ⟨mem_of_named? found, by simpa using List.find?_some found⟩
  · rintro ⟨membership, rfl⟩
    exact named?_of_mem distinct membership

theorem lastNamed?_eq_named? (distinct : (items.map nameOf).Nodup) :
    lastNamed? nameOf name items = named? nameOf name items := by
  have reversed : (items.reverse.map nameOf).Nodup :=
    ((List.reverse_perm items).map nameOf).nodup_iff.mpr distinct
  ext item
  rw [named?_eq_some_iff distinct]
  exact (named?_eq_some_iff reversed).trans (and_congr_left' List.mem_reverse)

theorem flatMap_named? (distinct : (items.map nameOf).Nodup) (list : α → List γ) :
    (items.flatMap fun item => if nameOf item = name then list item else []) =
      (named? nameOf name items).elim [] list := by
  induction items with
  | nil => rfl
  | cons first rest inductionHypothesis =>
      obtain ⟨fresh, restDistinct⟩ := List.nodup_cons.mp distinct
      rw [List.flatMap_cons, inductionHypothesis restDistinct]
      by_cases same : nameOf first = name
      · have nothingLater : named? nameOf name rest = none := by
          rw [Option.eq_none_iff_forall_not_mem]
          intro item found
          obtain ⟨later, isNamed⟩ := (named?_eq_some_iff restDistinct).mp found
          exact fresh (same.trans isNamed.symm ▸ List.mem_map_of_mem later)
        rw [if_pos same, nothingLater]
        simp [named?, same]
      · rw [if_neg same]
        simp [named?, same]

theorem flatMap_comm_perm (first : List α) (second : List β) (list : α → β → List γ) :
    (first.flatMap fun a => second.flatMap (list a)).Perm
      (second.flatMap fun b => first.flatMap (list · b)) := by
  induction first with
  | nil => simp
  | cons a rest inductionHypothesis =>
      simp only [List.flatMap_cons]
      exact (inductionHypothesis.append_left _).trans (List.flatMap_append_perm second _ _)

/-- Two lists can be matched by name from either side. -/
theorem flatMap_matched_perm {entryName : α → String} {valueName : β → String} {entries : List α}
    {values : List β} (entriesDistinct : (entries.map entryName).Nodup)
    (valuesDistinct : (values.map valueName).Nodup) (list : α → β → List γ) :
    (values.flatMap fun value =>
        (named? entryName (valueName value) entries).elim [] (list · value)).Perm
      (entries.flatMap fun entry =>
        (named? valueName (entryName entry) values).elim [] (list entry)) := by
  have swapped := flatMap_comm_perm values entries fun value entry =>
    if entryName entry = valueName value then list entry value else []
  have fromValues (value : β) :
      (entries.flatMap fun entry =>
        if entryName entry = valueName value then list entry value else []) =
        (named? entryName (valueName value) entries).elim [] (list · value) :=
    flatMap_named? entriesDistinct (list · value)
  have fromEntries (entry : α) :
      (values.flatMap fun value =>
        if entryName entry = valueName value then list entry value else []) =
        (named? valueName (entryName entry) values).elim [] (list entry) := by
    simpa only [eq_comm] using flatMap_named? valuesDistinct (list entry)
  simpa only [fromValues, fromEntries] using swapped

end Params

end ChartParams
