import ChartParams.Proofs.Json.Places

/-!
# Writing at places

A write puts its value at its place, makes every place above into an object and leaves every place
apart from it alone. It fails exactly if there is a conflict: a leaf above its place that is not
null.
-/

namespace ChartParams

namespace Json

open ChartParams.Path

variable {doc written value : Json} {name key path : String} {keys place above rest : List String}

/-- At a place above the keys there is a value that is neither an object nor null. -/
def IsConflict (doc : Json) (keys above : List String) : Prop :=
  Above above keys ∧ ∃ leaf, doc.HoldsLeaf above leaf ∧ leaf ≠ null

theorem writableMembers?_eq_none_iff :
    doc.writableMembers? = none ↔ doc.isObject = false ∧ doc ≠ null := by
  cases doc <;> simp [writableMembers?, isObject]

theorem get?_writableMembers {members : Members} (writable : doc.writableMembers? = some members) :
    members.get? key = doc.member? key := by
  cases doc with
  | null =>
      cases writable
      rfl
  | obj own =>
      cases writable
      rfl
  | _ => simp [writableMembers?] at writable

theorem setAtFrom_cons_eq_ok :
    setAtFrom value name (key :: rest) doc = .ok written ↔
      ∃ members child, doc.writableMembers? = some members ∧
        setAtFrom value key rest ((doc.member? key).getD null) = .ok child ∧
        written = obj (members.put key child) := by
  rw [setAtFrom]
  cases writable : doc.writableMembers? with
  | none => simp
  | some members =>
      simp only [get?_writableMembers writable, Option.some.injEq]
      cases below : setAtFrom value key rest ((doc.member? key).getD null) with
      | error fault => simp [Except.map]
      | ok child => simp [Except.map, eq_comm]

/-- At and below the place of a write there is what its value holds. -/
theorem getAt?_setAtFrom_append (success : setAtFrom value name keys doc = .ok written)
    (more : List String) : written.getAt? (keys ++ more) = value.getAt? more := by
  induction keys generalizing doc name written with
  | nil =>
      cases success
      rfl
  | cons key rest inductionHypothesis =>
      obtain ⟨members, child, -, below, rfl⟩ := setAtFrom_cons_eq_ok.mp success
      rw [List.cons_append, getAt?_cons, member?, Members.get?_put_self]
      exact inductionHypothesis below

theorem getAt?_setAtFrom_self (success : setAtFrom value name keys doc = .ok written) :
    written.getAt? keys = some value := by
  simpa using getAt?_setAtFrom_append success []

theorem getAt?_setAtFrom_apart (success : setAtFrom value name keys doc = .ok written)
    (apart : Apart keys place) : written.getAt? place = doc.getAt? place := by
  induction keys generalizing doc name written place with
  | nil => exact absurd List.nil_prefix apart.1
  | cons key rest inductionHypothesis =>
      cases place with
      | nil => exact absurd List.nil_prefix apart.2
      | cons other place =>
          obtain ⟨members, child, writable, below, rfl⟩ := setAtFrom_cons_eq_ok.mp success
          rw [getAt?_cons, getAt?_cons, member?, Members.get?_put, get?_writableMembers writable]
          split
          case isFalse different => rfl
          case isTrue same =>
            have apartBelow := apart_cons_iff.mp apart same.symm
            rw [same, Option.bind_some, inductionHypothesis below apartBelow]
            cases doc.member? key with
            | some old => rfl
            | none =>
                cases place with
                | nil => exact absurd List.nil_prefix apartBelow.2
                | cons next place => rfl

theorem exists_setAtFrom_null (value : Json) (name : String) (keys : List String) :
    ∃ written, setAtFrom value name keys null = .ok written := by
  induction keys generalizing name with
  | nil => exact ⟨value, rfl⟩
  | cons key rest inductionHypothesis =>
      obtain ⟨child, below⟩ := inductionHypothesis key
      exact ⟨_, setAtFrom_cons_eq_ok.mpr ⟨[], child, rfl, below, rfl⟩⟩

theorem not_isConflict_nil : ¬doc.IsConflict [] above := fun conflict =>
  not_above_nil conflict.1

theorem isConflict_cons_nil :
    doc.IsConflict (key :: rest) [] ↔ doc.writableMembers? = none := by
  rw [writableMembers?_eq_none_iff]
  constructor
  · rintro ⟨-, leaf, ⟨same, notObject⟩, notNull⟩
    cases same
    exact ⟨notObject, notNull⟩
  · rintro ⟨notObject, notNull⟩
    exact ⟨nil_above_cons key rest, doc, ⟨rfl, notObject⟩, notNull⟩

theorem isConflict_cons_cons {other : String} :
    doc.IsConflict (key :: rest) (other :: above) ↔
      other = key ∧ ∃ child, doc.member? key = some child ∧ child.IsConflict rest above := by
  constructor
  · rintro ⟨isAbove, leaf, holds, notNull⟩
    obtain ⟨rfl, aboveRest⟩ := above_cons_iff.mp isAbove
    obtain ⟨child, present, holdsBelow⟩ := holdsLeaf_cons.mp holds
    exact ⟨rfl, child, present, aboveRest, leaf, holdsBelow, notNull⟩
  · rintro ⟨rfl, child, present, aboveRest, leaf, holdsBelow, notNull⟩
    exact ⟨above_cons_iff.mpr ⟨rfl, aboveRest⟩, leaf,
      holdsLeaf_cons.mpr ⟨child, present, holdsBelow⟩, notNull⟩

theorem setAtFrom_cons_eq_error {fault : Fault} :
    setAtFrom value name (key :: rest) doc = .error fault ↔
      (doc.writableMembers? = none ∧ fault = .notObject name) ∨
        ∃ child, doc.member? key = some child ∧ setAtFrom value key rest child = .error fault := by
  rw [setAtFrom]
  cases writable : doc.writableMembers? with
  | none =>
      have noMember : doc.member? key = none :=
        member?_of_not_isObject (writableMembers?_eq_none_iff.mp writable).1
      simp [noMember, eq_comm]
  | some members =>
      simp only [get?_writableMembers writable]
      cases present : doc.member? key with
      | none =>
          obtain ⟨written, success⟩ := exists_setAtFrom_null value key rest
          simp [success, Except.map]
      | some child =>
          cases below : setAtFrom value key rest child <;> simp [below, Except.map]

/-- A write fails exactly at a conflict, and names the last key on the way to it. -/
theorem setAtFrom_eq_error_iff {fault : Fault} :
    setAtFrom value name keys doc = .error fault ↔
      ∃ above, doc.IsConflict keys above ∧ fault = .notObject (above.getLast?.getD name) := by
  induction keys generalizing doc name with
  | nil =>
      refine ⟨fun failure => (nomatch failure), ?_⟩
      rintro ⟨above, conflict, -⟩
      exact absurd conflict not_isConflict_nil
  | cons key rest inductionHypothesis =>
      simp only [setAtFrom_cons_eq_error, inductionHypothesis]
      constructor
      · rintro (⟨unwritable, rfl⟩ | ⟨child, present, above, conflict, rfl⟩)
        · exact ⟨[], isConflict_cons_nil.mpr unwritable, rfl⟩
        · refine ⟨key :: above, isConflict_cons_cons.mpr ⟨rfl, child, present, conflict⟩, ?_⟩
          rw [List.getLast?_cons, Option.getD_some]
      · rintro ⟨above, conflict, rfl⟩
        cases above with
        | nil => exact .inl ⟨isConflict_cons_nil.mp conflict, rfl⟩
        | cons other above =>
            obtain ⟨rfl, child, present, conflictBelow⟩ := isConflict_cons_cons.mp conflict
            refine .inr ⟨child, present, above, conflictBelow, ?_⟩
            rw [List.getLast?_cons, Option.getD_some]

theorem exists_setAtFrom_iff :
    (∃ written, setAtFrom value name keys doc = .ok written) ↔
      ∀ above, ¬doc.IsConflict keys above := by
  constructor
  · rintro ⟨written, success⟩ above conflict
    have failure : setAtFrom value name keys doc = .error _ :=
      setAtFrom_eq_error_iff.mpr ⟨above, conflict, rfl⟩
    cases success.symm.trans failure
  · intro free
    cases result : setAtFrom value name keys doc with
    | ok written => exact ⟨written, rfl⟩
    | error fault =>
        obtain ⟨above, conflict, -⟩ := setAtFrom_eq_error_iff.mp result
        exact absurd conflict (free above)

/-- There is at most one conflict, because nothing is below it. -/
theorem IsConflict.eq {other : List String} (first : doc.IsConflict keys above)
    (second : doc.IsConflict keys other) : above = other := by
  have not_longer {short long : List String} (stops : doc.IsConflict keys short)
      (goesOn : doc.IsConflict keys long) : ¬Above short long := by
    intro longer
    obtain ⟨-, leaf, holds, -⟩ := stops
    obtain ⟨-, beyond, ⟨found, -⟩, -⟩ := goesOn
    exact holds.not_holdsObject (holdsObject_above found longer)
  by_cases same : above = other
  · exact same
  · rcases List.prefix_or_prefix_of_prefix first.1.1 second.1.1 with begins | begins
    · exact absurd ⟨begins, same⟩ (not_longer first second)
    · exact absurd ⟨begins, Ne.symm same⟩ (not_longer second first)

theorem IsConflict.length_le {other : List String} (first : doc.IsConflict keys above)
    (second : doc.IsConflict keys other) : above.length ≤ other.length :=
  Nat.le_of_eq (congrArg List.length (first.eq second))

theorem WellFormed.setAtFrom (wellFormed : doc.WellFormed) (valueWellFormed : value.WellFormed)
    (success : setAtFrom value name keys doc = .ok written) : written.WellFormed := by
  induction keys generalizing doc name written with
  | nil =>
      cases success
      exact valueWellFormed
  | cons key rest inductionHypothesis =>
      obtain ⟨members, child, writable, below, rfl⟩ := setAtFrom_cons_eq_ok.mp success
      have childWellFormed : child.WellFormed := by
        refine inductionHypothesis ?_ below
        cases present : doc.member? key with
        | none => trivial
        | some old => exact wellFormed.member present
      have membersWellFormed : (obj members).WellFormed := by
        cases doc with
        | null =>
            cases writable
            exact wellFormed_obj_iff.mpr ⟨List.nodup_nil, by simp⟩
        | obj own =>
            cases writable
            exact wellFormed
        | _ => simp [writableMembers?] at writable
      exact membersWellFormed.put childWellFormed

/-- A write at a path is a write at its keys, none of which may be empty. -/
theorem set_eq_ok_iff :
    doc.set path value = .ok written ↔
      (∀ key ∈ split path, key ≠ "") ∧
        setAtFrom value rootName (split path) doc = .ok written := by
  have anyEmpty : (split path).any String.isEmpty = true ↔ ¬∀ key ∈ split path, key ≠ "" := by
    simp
  rw [set, setAt]
  by_cases nonempty : ∀ key ∈ split path, key ≠ ""
  · rw [if_neg (by rw [anyEmpty]; exact not_not_intro nonempty)]
    exact (and_iff_right nonempty).symm
  · rw [if_pos (anyEmpty.mpr nonempty)]
    exact ⟨fun impossible => (nomatch impossible), fun valid => absurd valid.1 nonempty⟩

theorem set_eq_emptyKey_iff :
    doc.set path value = .error .emptyKey ↔ ∃ key ∈ split path, key = "" := by
  rw [set, setAt]
  split
  · rename_i anyEmpty
    simpa using anyEmpty
  · rename_i noneEmpty
    refine iff_of_false (fun failure => ?_) (by simpa using noneEmpty)
    obtain ⟨above, -, named⟩ := setAtFrom_eq_error_iff.mp failure
    cases named

theorem isEmpty_of_valid (valid : ∀ key ∈ split path, key ≠ "") : path.isEmpty = false := by
  rw [Bool.eq_false_iff]
  intro isEmpty
  have onlyKey : split path = [""] := by
    rw [String.isEmpty_iff.mp isEmpty]
    rfl
  exact valid "" (onlyKey ▸ List.mem_cons_self) rfl

theorem get?_of_valid (valid : ∀ key ∈ split path, key ≠ "") (doc : Json) :
    doc.get? path = doc.getAt? (split path) :=
  get?_eq_getAt? (isEmpty_of_valid valid)

theorem set_of_valid (valid : ∀ key ∈ split path, key ≠ "") (doc value : Json) :
    doc.set path value = setAtFrom value rootName (split path) doc := by
  have noneEmpty : ¬(split path).any String.isEmpty = true := by
    simpa using fun isThere => valid "" isThere rfl
  rw [set, if_neg noneEmpty, setAt]

theorem set_eq_notObject_iff (valid : ∀ key ∈ split path, key ≠ "") :
    doc.set path value = .error (.notObject name) ↔
      ∃ above, doc.IsConflict (split path) above ∧ name = above.getLast?.getD rootName := by
  rw [set_of_valid valid, setAtFrom_eq_error_iff]
  simp only [Fault.notObject.injEq]

end Json

end ChartParams
