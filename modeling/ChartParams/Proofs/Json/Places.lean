import ChartParams.Json.Path
import ChartParams.Proofs.Json.Members

/-!
# Places in documents

A list of keys names a place in a document. At a place there is an object, a leaf, which is any
value that is no object, or nothing. A leaf further up blocks the place: nothing can be there.
Two lists of keys are apart if neither begins with the other, so that what happens at one place does
not concern the other.
-/

namespace ChartParams

namespace Path

variable {first second keys : List String}

/-- Neither list of keys begins with the other. -/
def Apart (first second : List String) : Prop := ¬first <+: second ∧ ¬second <+: first

instance (first second : List String) : Decidable (Apart first second) :=
  inferInstanceAs (Decidable (_ ∧ _))

/-- The first list of keys is a proper beginning of the second. -/
def Above (above keys : List String) : Prop := above <+: keys ∧ above ≠ keys

theorem Apart.symm (apart : Apart first second) : Apart second first := ⟨apart.2, apart.1⟩

theorem not_apart_of_prefix (firstBegins : first <+: keys) (secondBegins : second <+: keys) :
    ¬Apart first second := fun apart =>
  (List.prefix_or_prefix_of_prefix firstBegins secondBegins).elim apart.1 apart.2

theorem apart_cons_iff {key other : String} :
    Apart (key :: first) (other :: second) ↔ key = other → Apart first second := by
  simp only [Apart, List.cons_prefix_cons]
  by_cases same : key = other <;> simp [same, Ne.symm]

theorem nil_above_cons (key : String) (rest : List String) : Above [] (key :: rest) :=
  ⟨List.nil_prefix, by simp⟩

theorem not_above_nil : ¬Above keys [] := fun above => above.2 (List.prefix_nil.mp above.1)

theorem above_cons_iff {key other : String} :
    Above (other :: first) (key :: second) ↔ other = key ∧ Above first second := by
  simp only [Above, List.cons_prefix_cons, ne_eq, List.cons.injEq]
  constructor
  · rintro ⟨⟨rfl, begins⟩, different⟩
    exact ⟨rfl, begins, fun equality => different ⟨rfl, equality⟩⟩
  · rintro ⟨rfl, begins, different⟩
    exact ⟨⟨rfl, begins⟩, fun equality => different equality.2⟩

/-- A place is at or below the end of a list of keys, above it, or apart from it. -/
theorem begins_or_above_or_apart (keys place : List String) :
    keys <+: place ∨ Above place keys ∨ Apart keys place := by
  by_cases begins : keys <+: place
  · exact .inl begins
  · by_cases above : place <+: keys
    · have different : place ≠ keys := by
        rintro rfl
        exact begins List.prefix_rfl
      exact .inr (.inl ⟨above, different⟩)
    · exact .inr (.inr ⟨begins, above⟩)

theorem Apart.append (apart : Apart first second) (more : List String) :
    Apart (first ++ more) second := by
  have longer : first <+: first ++ more := List.prefix_append first more
  constructor
  · intro begins
    exact apart.1 (longer.trans begins)
  · intro begins
    exact not_apart_of_prefix longer begins apart

end Path

namespace Json

open ChartParams.Path

variable {doc value leaf : Json} {key : String} {keys rest above : List String}

/-- There is an object at a place. -/
def HoldsObject (doc : Json) (keys : List String) : Prop :=
  ∃ value, doc.getAt? keys = some value ∧ value.isObject = true

/-- There is a value at a place that is no object. -/
def HoldsLeaf (doc : Json) (keys : List String) (leaf : Json) : Prop :=
  doc.getAt? keys = some leaf ∧ leaf.isObject = false

/-- There is a value that is no object above a place. -/
def IsBlocked (doc : Json) (keys : List String) : Prop :=
  ∃ above leaf, Above above keys ∧ doc.HoldsLeaf above leaf

theorem member?_of_not_isObject (notObject : doc.isObject = false) : doc.member? key = none := by
  cases doc with
  | obj members => simp [isObject] at notObject
  | _ => rfl

theorem getAt?_cons_eq_some :
    doc.getAt? (key :: rest) = some value ↔
      ∃ child, doc.member? key = some child ∧ child.getAt? rest = some value :=
  Option.bind_eq_some_iff

theorem holdsObject_cons :
    doc.HoldsObject (key :: rest) ↔
      ∃ child, doc.member? key = some child ∧ child.HoldsObject rest := by
  constructor
  · rintro ⟨value, found, isObject⟩
    obtain ⟨child, present, foundBelow⟩ := getAt?_cons_eq_some.mp found
    exact ⟨child, present, value, foundBelow, isObject⟩
  · rintro ⟨child, present, value, foundBelow, isObject⟩
    exact ⟨value, getAt?_cons_eq_some.mpr ⟨child, present, foundBelow⟩, isObject⟩

theorem holdsLeaf_cons :
    doc.HoldsLeaf (key :: rest) leaf ↔
      ∃ child, doc.member? key = some child ∧ child.HoldsLeaf rest leaf := by
  constructor
  · rintro ⟨found, notObject⟩
    obtain ⟨child, present, foundBelow⟩ := getAt?_cons_eq_some.mp found
    exact ⟨child, present, foundBelow, notObject⟩
  · rintro ⟨child, present, foundBelow, notObject⟩
    exact ⟨getAt?_cons_eq_some.mpr ⟨child, present, foundBelow⟩, notObject⟩

theorem isBlocked_cons :
    doc.IsBlocked (key :: rest) ↔
      doc.isObject = false ∨ ∃ child, doc.member? key = some child ∧ child.IsBlocked rest := by
  constructor
  · rintro ⟨above, leaf, isAbove, holds⟩
    cases above with
    | nil =>
        obtain ⟨equality, notObject⟩ := holds
        cases equality
        exact .inl notObject
    | cons other above =>
        obtain ⟨rfl, aboveRest⟩ := above_cons_iff.mp isAbove
        obtain ⟨child, present, holdsBelow⟩ := holdsLeaf_cons.mp holds
        exact .inr ⟨child, present, above, leaf, aboveRest, holdsBelow⟩
  · rintro (notObject | ⟨child, present, above, leaf, isAbove, holds⟩)
    · exact ⟨[], doc, nil_above_cons key rest, rfl, notObject⟩
    · exact ⟨key :: above, leaf, above_cons_iff.mpr ⟨rfl, isAbove⟩,
        holdsLeaf_cons.mpr ⟨child, present, holds⟩⟩

theorem holds_of_getAt? (found : doc.getAt? keys = some value) :
    doc.HoldsLeaf keys value ∨ doc.HoldsObject keys := by
  cases shape : value.isObject with
  | false => exact .inl ⟨found, shape⟩
  | true => exact .inr ⟨value, found, shape⟩

theorem HoldsLeaf.not_holdsObject (holds : doc.HoldsLeaf keys leaf) : ¬doc.HoldsObject keys := by
  rintro ⟨value, found, isObject⟩
  have same : leaf = value := Option.some.inj (holds.1.symm.trans found)
  rw [← same, holds.2] at isObject
  exact Bool.false_ne_true isObject

/-- Above a value there are only objects. -/
theorem holdsObject_above (found : doc.getAt? keys = some value) (isAbove : Above above keys) :
    doc.HoldsObject above := by
  obtain ⟨⟨rest, rfl⟩, proper⟩ := isAbove
  rw [getAt?_append, Option.bind_eq_some_iff] at found
  obtain ⟨middle, foundAbove, foundBelow⟩ := found
  refine ⟨middle, foundAbove, ?_⟩
  cases rest with
  | nil => exact absurd (List.append_nil above).symm proper
  | cons key rest =>
      cases shape : middle.isObject with
      | true => rfl
      | false =>
          rw [getAt?_cons, member?_of_not_isObject shape] at foundBelow
          cases foundBelow

theorem HoldsObject.of_begins (holds : doc.HoldsObject keys) (begins : above <+: keys) :
    doc.HoldsObject above := by
  by_cases same : above = keys
  · exact same ▸ holds
  · obtain ⟨value, found, -⟩ := holds
    exact holdsObject_above found ⟨begins, same⟩

theorem exists_obj_of_isObject (isObject : doc.isObject = true) : ∃ members, doc = obj members := by
  cases doc with
  | obj members => exact ⟨members, rfl⟩
  | _ => cases isObject

theorem HoldsObject.exists_obj (holds : doc.HoldsObject keys) : ∃ members, doc = obj members := by
  obtain ⟨root, isDoc, isObject⟩ := holds.of_begins List.nil_prefix
  cases isDoc
  exact exists_obj_of_isObject isObject

theorem IsBlocked.getAt?_eq_none (blocked : doc.IsBlocked keys) : doc.getAt? keys = none := by
  obtain ⟨above, leaf, isAbove, holds⟩ := blocked
  rw [Option.eq_none_iff_forall_not_mem]
  intro value found
  exact holds.not_holdsObject (holdsObject_above found isAbove)

theorem get?_eq_getAt? {path : String} (nonempty : path.isEmpty = false) :
    doc.get? path = doc.getAt? (split path) := by
  rw [get?, nonempty]
  exact if_neg Bool.false_ne_true

theorem WellFormed.getAt (wellFormed : doc.WellFormed) (found : doc.getAt? keys = some value) :
    value.WellFormed := by
  induction keys generalizing doc with
  | nil =>
      cases found
      exact wellFormed
  | cons key rest inductionHypothesis =>
      obtain ⟨child, present, foundBelow⟩ := getAt?_cons_eq_some.mp found
      exact inductionHypothesis (wellFormed.member present) foundBelow

theorem WellFormed.atPath {path : String} (wellFormed : doc.WellFormed)
    (found : doc.get? path = some value) : value.WellFormed := by
  unfold Json.get? at found
  split at found
  · cases found
  · exact wellFormed.getAt found

end Json

end ChartParams
