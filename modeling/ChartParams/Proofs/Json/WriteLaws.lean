import ChartParams.Attempt
import ChartParams.Proofs.Json.Sameness
import ChartParams.Proofs.Json.Writing

/-!
# Laws of writing

Writing the value that is there changes nothing, and of two writes at one place only the second
counts; both are meant with the order of the members. Writes at places that are apart can change
their order: they succeed together in either order and give the same value. They need not give the
same order of members, because what is created first stands first.
-/

namespace ChartParams

namespace Json

open ChartParams.Path

variable {doc value other written both : Json} {name otherName : String}
  {keys first second above : List String}

theorem setAtFrom_self (found : doc.getAt? keys = some value) :
    setAtFrom value name keys doc = .ok doc := by
  induction keys generalizing doc name with
  | nil =>
      cases found
      rfl
  | cons key rest inductionHypothesis =>
      obtain ⟨child, present, foundBelow⟩ := getAt?_cons_eq_some.mp found
      cases doc with
      | obj members =>
          refine setAtFrom_cons_eq_ok.mpr ⟨members, child, rfl, ?_, ?_⟩
          · rw [present, Option.getD_some]
            exact inductionHypothesis foundBelow
          · rw [Members.put_eq_self present]
      | _ => cases present

theorem setAtFrom_again (success : setAtFrom value name keys doc = .ok written) :
    ∃ again, setAtFrom other name keys written = .ok again ∧
      setAtFrom other name keys doc = .ok again := by
  induction keys generalizing doc name written with
  | nil => exact ⟨other, rfl, rfl⟩
  | cons key rest inductionHypothesis =>
      obtain ⟨members, child, writable, below, rfl⟩ := setAtFrom_cons_eq_ok.mp success
      obtain ⟨again, onceMore, directly⟩ := inductionHypothesis below
      have isThere : (obj (members.put key child)).member? key = some child :=
        Members.get?_put_self key child members
      refine ⟨obj (members.put key again), ?_, ?_⟩
      · refine setAtFrom_cons_eq_ok.mpr ⟨members.put key child, again, rfl, ?_, ?_⟩
        · rwa [isThere, Option.getD_some]
        · rw [Members.put_put]
      · exact setAtFrom_cons_eq_ok.mpr ⟨members, again, writable, directly, rfl⟩

/-- A write neither makes nor removes a conflict for a place apart from it. -/
theorem isConflict_setAtFrom_iff (success : setAtFrom value name first doc = .ok written)
    (apart : Apart first second) :
    written.IsConflict second above ↔ doc.IsConflict second above := by
  apply and_congr_right
  intro isAbove
  rcases begins_or_above_or_apart first above with begins | aboveFirst | apartFirst
  · exact absurd (begins.trans isAbove.1) apart.1
  · have objectNow := holdsObject_above (getAt?_setAtFrom_self success) aboveFirst
    apply iff_of_false
    · rintro ⟨leaf, holds, -⟩
      exact holds.not_holdsObject objectNow
    · intro conflict
      exact exists_setAtFrom_iff.mp ⟨written, success⟩ above ⟨aboveFirst, conflict⟩
  · simp only [HoldsLeaf, getAt?_setAtFrom_apart success apartFirst]

/-- Two writes apart from each other succeed exactly if neither meets a conflict. -/
theorem exists_setAtFrom_setAtFrom_iff (apart : Apart first second) :
    (∃ both, (setAtFrom value name first doc).bind (setAtFrom other otherName second) = .ok both) ↔
      (∀ above, ¬doc.IsConflict first above) ∧ ∀ above, ¬doc.IsConflict second above := by
  simp only [bind_eq_ok_iff]
  constructor
  · rintro ⟨both, written, success, next⟩
    refine ⟨exists_setAtFrom_iff.mp ⟨written, success⟩, ?_⟩
    intro above
    rw [← isConflict_setAtFrom_iff success apart]
    exact exists_setAtFrom_iff.mp ⟨both, next⟩ above
  · rintro ⟨free, secondFree⟩
    obtain ⟨written, success⟩ := exists_setAtFrom_iff.mpr free
    have stillFree (above : List String) : ¬written.IsConflict second above := by
      rw [isConflict_setAtFrom_iff success apart]
      exact secondFree above
    obtain ⟨both, next⟩ := exists_setAtFrom_iff.mpr stillFree
    exact ⟨both, written, success, next⟩

/-- A document holds a value at one place and another value at a second place, and at the places
apart from both what was there before. -/
structure HoldsBoth (doc value other : Json) (first second : List String) (both : Json) : Prop where
  atFirst : ∀ more, both.getAt? (first ++ more) = value.getAt? more
  atSecond : ∀ more, both.getAt? (second ++ more) = other.getAt? more
  elsewhere : ∀ place, Apart first place → Apart second place → both.getAt? place = doc.getAt? place

theorem holdsBoth_of_writes (apart : Apart first second)
    (success : (setAtFrom value name first doc).bind (setAtFrom other otherName second) = .ok both) :
    HoldsBoth doc value other first second both := by
  obtain ⟨written, wrote, next⟩ := bind_eq_ok_iff.mp success
  constructor
  · intro more
    rw [getAt?_setAtFrom_apart next (apart.append more).symm, getAt?_setAtFrom_append wrote]
  · exact getAt?_setAtFrom_append next
  · intro place apartFirst apartSecond
    rw [getAt?_setAtFrom_apart next apartSecond, getAt?_setAtFrom_apart wrote apartFirst]

namespace HoldsBoth

variable {left right : Json}

theorem symm (holds : HoldsBoth doc value other first second left) :
    HoldsBoth doc other value second first left where
  atFirst := holds.atSecond
  atSecond := holds.atFirst
  elsewhere place apartSecond apartFirst := holds.elsewhere place apartFirst apartSecond

theorem holdsObject (holds : HoldsBoth doc value other first second left)
    (isAbove : Above above first) : left.HoldsObject above := by
  have found := holds.atFirst []
  rw [List.append_nil] at found
  exact holdsObject_above found isAbove

/-- Two such documents agree: they can only differ in the order of members. -/
theorem agreeAt (leftHolds : HoldsBoth doc value other first second left)
    (rightHolds : HoldsBoth doc value other first second right) (place : List String) :
    AgreeAt left right place := by
  rcases begins_or_above_or_apart first place with ⟨more, rfl⟩ | aboveFirst | apartFirst
  · apply agreeAt_of_getAt?_eq
    rw [leftHolds.atFirst, rightHolds.atFirst]
  · exact agreeAt_of_holdsObject (leftHolds.holdsObject aboveFirst)
      (rightHolds.holdsObject aboveFirst)
  · rcases begins_or_above_or_apart second place with ⟨more, rfl⟩ | aboveSecond | apartSecond
    · apply agreeAt_of_getAt?_eq
      rw [leftHolds.atSecond, rightHolds.atSecond]
    · exact agreeAt_of_holdsObject (leftHolds.symm.holdsObject aboveSecond)
        (rightHolds.symm.holdsObject aboveSecond)
    · apply agreeAt_of_getAt?_eq
      rw [leftHolds.elsewhere place apartFirst apartSecond,
        rightHolds.elsewhere place apartFirst apartSecond]

end HoldsBoth

theorem WellFormed.writes (wellFormed : doc.WellFormed) (valueWellFormed : value.WellFormed)
    (otherWellFormed : other.WellFormed)
    (success : (Json.setAtFrom value name first doc).bind (Json.setAtFrom other otherName second) =
      .ok both) :
    both.WellFormed := by
  obtain ⟨written, wrote, next⟩ := bind_eq_ok_iff.mp success
  exact (wellFormed.setAtFrom valueWellFormed wrote).setAtFrom otherWellFormed next

/-- Writing the value that is at a path changes nothing; a write at a path makes an earlier one
there void; and writes at paths of which neither leads below the other can change their order, which
keeps their success and, up to the order of members, their result. -/
theorem set_laws {path otherPath : String} (wellFormed : doc.WellFormed)
    (valueWellFormed : value.WellFormed) (otherWellFormed : other.WellFormed)
    (valid : ∀ key ∈ split path, key ≠ "") (otherValid : ∀ key ∈ split otherPath, key ≠ "") :
    (doc.get? path = some value → doc.set path value = .ok doc) ∧
    (∀ written, doc.set path value = .ok written →
      ∃ again, written.set path other = .ok again ∧ doc.set path other = .ok again) ∧
    (Apart (split path) (split otherPath) →
      let straight := (doc.set path value).bind (·.set otherPath other)
      let swapped := (doc.set otherPath other).bind (·.set path value)
      ((∃ result, straight = .ok result) ↔ ∃ result, swapped = .ok result) ∧
      ∀ result swappedResult, straight = .ok result → swapped = .ok swappedResult →
        result.same swappedResult = true) := by
  simp only [set_of_valid valid, set_of_valid otherValid, get?_of_valid valid]
  refine ⟨setAtFrom_self, fun written => setAtFrom_again, ?_⟩
  intro apart
  constructor
  · rw [exists_setAtFrom_setAtFrom_iff apart, exists_setAtFrom_setAtFrom_iff apart.symm]
    exact and_comm
  · intro result swappedResult success swappedSuccess
    have holds := holdsBoth_of_writes apart success
    have swappedHolds := (holdsBoth_of_writes apart.symm swappedSuccess).symm
    exact same_of_agreeAt (wellFormed.writes valueWellFormed otherWellFormed success)
      (wellFormed.writes otherWellFormed valueWellFormed swappedSuccess) (holds.agreeAt swappedHolds)

/-- Two writes below the same null: the key of the one that comes first stands in front. -/
theorem set_laws_below_null :
    let kept := Json.arr [.bool true]
    let web := fun content => Json.obj [("web", content), ("x", .obj [("a.b", kept)])]
    let doc := web .null
    let on := ("on", Json.bool true)
    let off := ("off", Json.obj [("deep", .null)])
    doc.set "x.a\\.b" kept = .ok doc ∧
    (∃ again, (web (.obj [on])).set "web.on" .null = .ok again ∧ doc.set "web.on" .null = .ok again) ∧
    (doc.set "web.on" (.bool true)).bind (·.set "web.off.deep" .null) = .ok (web (.obj [on, off])) ∧
    (doc.set "web.off.deep" .null).bind (·.set "web.on" (.bool true)) = .ok (web (.obj [off, on])) ∧
    (web (.obj [on, off])).same (web (.obj [off, on])) = true := by
  intro kept web doc on off
  have keptWellFormed : kept.WellFormed := by simp [kept, WellFormed, AllWellFormed]
  have wellFormed : doc.WellFormed := by
    simp [doc, web, kept, WellFormed, MembersWellFormed, AllWellFormed, Members.keys]
  have onWellFormed : (Json.bool true).WellFormed := trivial
  have nullWellFormed : Json.null.WellFormed := trivial
  have keptValid : ∀ key ∈ split "x.a\\.b", key ≠ "" := by decide +kernel
  have onValid : ∀ key ∈ split "web.on", key ≠ "" := by decide +kernel
  have offValid : ∀ key ∈ split "web.off.deep", key ≠ "" := by decide +kernel
  have apart : Apart (split "web.on") (split "web.off.deep") := by decide +kernel
  obtain ⟨unchanged, -, -⟩ := set_laws wellFormed keptWellFormed nullWellFormed keptValid keptValid
  obtain ⟨-, overwritten, reordered⟩ :=
    set_laws wellFormed onWellFormed nullWellFormed onValid offValid
  have straight : (doc.set "web.on" (.bool true)).bind (·.set "web.off.deep" .null) =
      .ok (web (.obj [on, off])) := rfl
  have swapped : (doc.set "web.off.deep" .null).bind (·.set "web.on" (.bool true)) =
      .ok (web (.obj [off, on])) := rfl
  exact ⟨unchanged rfl, overwritten _ rfl, straight, swapped, (reordered apart).2 _ _ straight swapped⟩

end Json

end ChartParams
