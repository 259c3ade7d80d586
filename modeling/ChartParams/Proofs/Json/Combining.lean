import ChartParams.Proofs.Json.MergeOrder

/-!
# Combining overlays

Two overlays can be merged into one before they are merged into a document, and the document that
results is the same, with the order of its members. That does not hold where a leaf of the first
overlay separates an object of the document from an object of the second: one after the other, the
leaf clears what the document held there, and the combined overlay knows nothing of it.
-/

namespace ChartParams

theorem append_fresh_assoc (first second third : List String) :
    first ++ second.filter (· ∉ first) ++
        third.filter (· ∉ first ++ second.filter (· ∉ first)) =
      first ++ (second ++ third.filter (· ∉ second)).filter (· ∉ first) := by
  have fresh : third.filter (· ∉ first ++ second.filter (· ∉ first)) =
      (third.filter (· ∉ second)).filter (· ∉ first) := by
    rw [List.filter_filter]
    apply List.filter_congr
    intro key _
    by_cases inFirst : key ∈ first <;> simp [inFirst]
  rw [fresh, List.filter_append, List.append_assoc]

namespace Members

variable {room : Nat}

/-- Three objects merge to the same object in either grouping if they do at every key. -/
theorem mergeWithin_assoc_of_forall {first second third both later left right : Members}
    (distinct : first.keys.Nodup) (secondDistinct : second.keys.Nodup)
    (thirdDistinct : third.keys.Nodup)
    (mergesBoth : mergeWithin false (room + 1) first second = .ok both)
    (mergesLeft : mergeWithin false (room + 1) both third = .ok left)
    (mergesLater : mergeWithin false (room + 1) second third = .ok later)
    (mergesRight : mergeWithin false (room + 1) first later = .ok right)
    (same : ∀ key, left.get? key = right.get? key) : left = right := by
  have bothDistinct := (mergedAt_mergeWithin distinct secondDistinct mergesBoth).2
  have laterDistinct := (mergedAt_mergeWithin secondDistinct thirdDistinct mergesLater).2
  have leftDistinct := (mergedAt_mergeWithin bothDistinct thirdDistinct mergesLeft).2
  apply eq_of_keys_eq leftDistinct _ same
  rw [keys_mergeWithin thirdDistinct mergesLeft, keys_mergeWithin secondDistinct mergesBoth,
    keys_mergeWithin laterDistinct mergesRight, keys_mergeWithin thirdDistinct mergesLater]
  exact append_fresh_assoc first.keys second.keys third.keys

end Members

namespace Json

open ChartParams.Path Members

variable {first second third merged : Json} {room : Nat} {keys : List String}

/-- At a place, a leaf separates an object that was there before it from an object after it. -/
def IsSeparated (before between after : Json) (keys : List String) : Prop :=
  before.HoldsObject keys ∧ (∃ leaf, between.HoldsLeaf keys leaf) ∧ after.HoldsObject keys

theorem isSeparated_cons {before between after : Members} {key : String} {old middle new : Json}
    (isOld : before.get? key = some old) (isMiddle : between.get? key = some middle)
    (isNew : after.get? key = some new) (separated : IsSeparated old middle new keys) :
    IsSeparated (obj before) (obj between) (obj after) (key :: keys) := by
  obtain ⟨holds, ⟨leaf, holdsLeaf⟩, holdsAfter⟩ := separated
  refine ⟨?_, ⟨leaf, ?_⟩, ?_⟩
  · exact holdsObject_cons.mpr ⟨old, isOld, holds⟩
  · exact holdsLeaf_cons.mpr ⟨middle, isMiddle, holdsLeaf⟩
  · exact holdsObject_cons.mpr ⟨new, isNew, holdsAfter⟩

/-- Three objects merge to the same object in either grouping, with so much room. -/
def MergesAssociate (room : Nat) : Prop :=
  ∀ before between after both left later right : Members,
    (obj before).WellFormed → (obj between).WellFormed → (obj after).WellFormed →
    (∀ keys, ¬IsSeparated (obj before) (obj between) (obj after) keys) →
    mergeWithin false room before between = .ok both →
    mergeWithin false room both after = .ok left →
    mergeWithin false room between after = .ok later →
    mergeWithin false room before later = .ok right → left = right

theorem MergesAssociate.mergedAt_values (associate : MergesAssociate room)
    {before between after : Json} {both left later right : Option Json}
    (wellFormed : before.WellFormed) (middleWellFormed : between.WellFormed)
    (afterWellFormed : after.WellFormed) (united : ∀ keys, ¬IsSeparated before between after keys)
    (mergesBoth : MergedAt false room (some before) (some between) both)
    (mergesLeft : MergedAt false room both (some after) left)
    (mergesLater : MergedAt false room (some between) (some after) later)
    (mergesRight : MergedAt false room (some before) later right) : left = right := by
  cases shape : after.isObject with
  | false =>
      have isLater : later = some after := mergesLater.eq_new fun _ _ _ => shape
      rw [isLater] at mergesRight
      rw [mergesLeft.eq_new fun _ _ _ => shape, mergesRight.eq_new fun _ _ _ => shape]
  | true =>
      cases middleShape : between.isObject with
      | false =>
          have oldShape : before.isObject = false := by
            cases oldShape : before.isObject with
            | false => rfl
            | true =>
                exact absurd ⟨⟨before, rfl, oldShape⟩, ⟨between, rfl, middleShape⟩,
                  ⟨after, rfl, shape⟩⟩ (united [])
          have notBoth {leaf : Json} (isLeaf : leaf.isObject = false) (value : Json)
              (same : some leaf = some value) (isObject : value.isObject = true) :
              after.isObject = false := by
            cases same
            cases isLeaf.symm.trans isObject
          have isBoth : both = some between := mergesBoth.eq_new fun _ _ _ => middleShape
          have isLater : later = some after := mergesLater.eq_new (notBoth middleShape)
          rw [isBoth] at mergesLeft
          rw [isLater] at mergesRight
          rw [mergesLeft.eq_new (notBoth middleShape), mergesRight.eq_new (notBoth oldShape)]
      | true =>
          obtain ⟨changes, rfl⟩ := exists_obj_of_isObject middleShape
          obtain ⟨moreChanges, rfl⟩ := exists_obj_of_isObject shape
          obtain ⟨combined, combine, rfl⟩ := mergesLater.exists_merged
          cases oldShape : before.isObject with
          | false =>
              have copied (new : Members) (value : Json) (same : some before = some value)
                  (isObject : value.isObject = true) : (obj new).isObject = false := by
                cases same
                cases oldShape.symm.trans isObject
              rw [mergesBoth.eq_new (copied changes)] at mergesLeft
              rw [mergesRight.eq_new (copied combined)]
              exact mergesLeft.unique (.mergedObjects combine)
          | true =>
              obtain ⟨members, rfl⟩ := exists_obj_of_isObject oldShape
              obtain ⟨mergedBoth, mergeBoth, rfl⟩ := mergesBoth.exists_merged
              obtain ⟨mergedLeft, mergeLeft, rfl⟩ := mergesLeft.exists_merged
              obtain ⟨mergedRight, mergeRight, rfl⟩ := mergesRight.exists_merged
              rw [associate _ _ _ _ _ _ _ wellFormed middleWellFormed afterWellFormed united
                mergeBoth mergeLeft combine mergeRight]

/-- What becomes of the three values at a key does not depend on the grouping. -/
theorem MergesAssociate.mergedAt (associate : MergesAssociate room)
    {old middle new both left later right : Option Json}
    (wellFormed : ∀ value, old = some value → value.WellFormed)
    (middleWellFormed : ∀ value, middle = some value → value.WellFormed)
    (newWellFormed : ∀ value, new = some value → value.WellFormed)
    (united : ∀ before between after, old = some before → middle = some between →
      new = some after → ∀ keys, ¬IsSeparated before between after keys)
    (mergesBoth : MergedAt false room old middle both)
    (mergesLeft : MergedAt false room both new left)
    (mergesLater : MergedAt false room middle new later)
    (mergesRight : MergedAt false room old later right) : left = right := by
  cases new with
  | none =>
      rw [mergesLater.eq_of_none] at mergesRight
      rw [mergesLeft.eq_of_none]
      exact mergesBoth.unique mergesRight
  | some after =>
      cases middle with
      | none =>
          have isLater : later = some after := mergesLater.eq_new nofun
          rw [isLater] at mergesRight
          rw [mergesBoth.eq_of_none] at mergesLeft
          exact mergesLeft.unique mergesRight
      | some between =>
          cases old with
          | none =>
              have isBoth : both = some between := mergesBoth.eq_new nofun
              rw [isBoth] at mergesLeft
              have same : left = later := mergesLeft.unique mergesLater
              subst same
              cases mergesLater with
              | removed _ impossible => cases impossible
              | replaced => exact (mergesRight.eq_new nofun).symm
              | mergedObjects => exact (mergesRight.eq_new nofun).symm
          | some before =>
              exact associate.mergedAt_values (wellFormed before rfl) (middleWellFormed between rfl)
                (newWellFormed after rfl) (united before between after rfl rfl rfl) mergesBoth
                mergesLeft mergesLater mergesRight

theorem mergesAssociate (room : Nat) : MergesAssociate room := by
  induction room with
  | zero =>
      intro before between after both left later right _ _ _ _ impossible
      cases impossible
  | succ room inductionHypothesis =>
      intro before between after both left later right wellFormed middleWellFormed afterWellFormed
        united mergesBoth mergesLeft mergesLater mergesRight
      have distinct := wellFormed.nodup_keys
      have middleDistinct := middleWellFormed.nodup_keys
      have afterDistinct := afterWellFormed.nodup_keys
      have bothAt := mergedAt_mergeWithin distinct middleDistinct mergesBoth
      have laterAt := mergedAt_mergeWithin middleDistinct afterDistinct mergesLater
      have leftAt := mergedAt_mergeWithin bothAt.2 afterDistinct mergesLeft
      have rightAt := mergedAt_mergeWithin distinct laterAt.2 mergesRight
      apply mergeWithin_assoc_of_forall distinct middleDistinct afterDistinct mergesBoth mergesLeft
        mergesLater mergesRight
      intro key
      refine inductionHypothesis.mergedAt (fun _ => wellFormed.get?)
        (fun _ => middleWellFormed.get?) (fun _ => afterWellFormed.get?) ?_ (bothAt.1 key)
        (leftAt.1 key) (laterAt.1 key) (rightAt.1 key)
      intro old middle new isOld isMiddle isNew keys separated
      exact united (key :: keys) (isSeparated_cons isOld isMiddle isNew separated)

theorem exists_merge_combined {both left : Json} (wellFormed : first.WellFormed)
    (secondWellFormed : second.WellFormed) (thirdWellFormed : third.WellFormed)
    (united : ∀ keys, ¬IsSeparated first second third keys)
    (mergesBoth : first.merge second false = .ok both)
    (mergesLeft : both.merge third false = .ok left) :
    ∃ later right, second.merge third false = .ok later ∧ first.merge later false = .ok right := by
  have bothWellFormed := wellFormed.merge secondWellFormed mergesBoth
  have bothShallow := (exists_merge_eq_ok_iff wellFormed secondWellFormed).mp ⟨both, mergesBoth⟩
  have leftShallow := (exists_merge_eq_ok_iff bothWellFormed thirdWellFormed).mp ⟨left, mergesLeft⟩
  have holdsBoth (keys : List String) : both.HoldsObject keys ↔
      second.HoldsObject keys ∨ second.SparesObject keys ∧ first.HoldsObject keys :=
    holdsObject_merge_iff wellFormed secondWellFormed mergesBoth
  obtain ⟨later, mergesLater⟩ : ∃ later, second.merge third false = .ok later := by
    apply (exists_merge_eq_ok_iff secondWellFormed thirdWellFormed).mpr
    intro keys length holds
    exact leftShallow keys length ((holdsBoth keys).mpr (.inl holds))
  have laterWellFormed := secondWellFormed.merge thirdWellFormed mergesLater
  obtain ⟨right, mergesRight⟩ : ∃ right, first.merge later false = .ok right := by
    apply (exists_merge_eq_ok_iff wellFormed laterWellFormed).mpr
    intro keys length holds laterHolds
    rcases (holdsObject_merge_iff secondWellFormed thirdWellFormed mergesLater).mp laterHolds with
      thirdHolds | ⟨-, secondHolds⟩
    · apply leftShallow keys length _ thirdHolds
      refine (holdsBoth keys).mpr (.inr ⟨⟨?_, ?_⟩, holds⟩)
      · intro leaf holdsLeaf
        exact united keys ⟨holds, ⟨leaf, holdsLeaf⟩, thirdHolds⟩
      · rintro ⟨above, leaf, isAbove, holdsLeaf⟩
        exact united above
          ⟨holds.of_begins isAbove.1, ⟨leaf, holdsLeaf⟩, thirdHolds.of_begins isAbove.1⟩
    · exact bothShallow keys length holds secondHolds
  exact ⟨later, right, mergesLater, mergesRight⟩

/-- Merging a second and then a third document into a first one gives what merging the third into
the second and the result into the first gives, with the order of the members, if no leaf of the
second separates an object of the first from an object of the third. The second way succeeds if the
first does. -/
theorem merge_assoc (wellFormed : first.WellFormed) (secondWellFormed : second.WellFormed)
    (thirdWellFormed : third.WellFormed) (united : ∀ keys, ¬IsSeparated first second third keys)
    (success : (first.merge second false).bind (·.merge third false) = .ok merged) :
    (second.merge third false).bind (first.merge · false) = .ok merged := by
  obtain ⟨both, mergesBoth, mergesLeft⟩ := bind_eq_ok_iff.mp success
  obtain ⟨later, right, mergesLater, mergesRight⟩ :=
    exists_merge_combined wellFormed secondWellFormed thirdWellFormed united mergesBoth mergesLeft
  have same : some merged = some right :=
    (mergesAssociate (maxMergeDepth + 1)).mergedAt_values wellFormed secondWellFormed
      thirdWellFormed united (mergedAt_merge mergesBoth) (mergedAt_merge mergesLeft)
      (mergedAt_merge mergesLater) (mergedAt_merge mergesRight)
  cases same
  exact bind_eq_ok_iff.mpr ⟨later, mergesLater, mergesRight⟩

/-- A leaf over a leaf, objects that are copied or replaced, and keys that are new in either
overlay. -/
theorem merge_assoc_mixed :
    let first := obj [("a", obj [("x", bool true)]), ("b", null)]
    let second := obj [("c", obj [("n", null)]), ("b", bool false), ("a", obj [("y", null)])]
    let third := obj [("d", null), ("a", obj [("x", arr [])]), ("b", obj []), ("c", obj [("m", null)])]
    let merged := obj [("a", obj [("x", arr []), ("y", null)]), ("b", obj []),
      ("c", obj [("n", null), ("m", null)]), ("d", null)]
    (∀ keys, ¬IsSeparated first second third keys) ∧
    (first.merge second false).bind (·.merge third false) = .ok merged ∧
    (second.merge third false).bind (first.merge · false) = .ok merged := by
  intro first second third merged
  have wellFormed : first.WellFormed := by
    simp [first, WellFormed, MembersWellFormed, Members.keys]
  have secondWellFormed : second.WellFormed := by
    simp [second, WellFormed, MembersWellFormed, Members.keys]
  have thirdWellFormed : third.WellFormed := by
    simp [third, WellFormed, MembersWellFormed, AllWellFormed, Members.keys]
  have united : ∀ keys, ¬IsSeparated first second third keys := by
    rintro (_ | ⟨key, _ | ⟨next, keys⟩⟩) ⟨holds, ⟨leaf, holdsLeaf⟩, -⟩
    · exact holdsLeaf.not_holdsObject ⟨second, rfl, rfl⟩
    · simp only [holdsObject_cons, holdsLeaf_cons] at holds holdsLeaf
      grind [member?, Members.get?, HoldsObject, HoldsLeaf, getAt?_nil, isObject]
    · simp only [holdsObject_cons] at holds
      grind [member?, Members.get?, HoldsObject.exists_obj]
  have success : (first.merge second false).bind (·.merge third false) = .ok merged := rfl
  exact ⟨united, success,
    merge_assoc wellFormed secondWellFormed thirdWellFormed united success⟩

/-- With a leaf between two objects the groupings differ. -/
example :
    let first := obj [("a", obj [("x", null)])]
    let second := obj [("a", null)]
    let third := obj [("a", obj [("y", null)])]
    (first.merge second false).bind (·.merge third false) = .ok third ∧
      (second.merge third false).bind (first.merge · false) =
        .ok (obj [("a", obj [("x", null), ("y", null)])]) :=
  ⟨rfl, rfl⟩

end Json

end ChartParams
