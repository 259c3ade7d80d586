import ChartParams.Proofs.Json.Merging

/-!
# How deep a merge goes

A merge goes down where both documents hold objects, and fails if that leads below the allowed
depth. Whether it does can be read off the documents as they were: the members of the overlay that
were merged before have changed the document at other keys only, and a merge with deletions goes
down at the same places as one without.
-/

namespace ChartParams

namespace Json

open ChartParams.Path Members

variable {doc overlay : Json} {deleteNull : Bool} {room : Nat} {keys : List String}

theorem mergeWithin_ne_ok_of_holdsObject {members changes merged : Members}
    (wellFormed : (obj members).WellFormed) (overlayWellFormed : (obj changes).WellFormed)
    (length : keys.length = room) (holds : (obj members).HoldsObject keys)
    (overlayHolds : (obj changes).HoldsObject keys) :
    mergeWithin deleteNull room members changes ≠ .ok merged := by
  induction keys generalizing room members changes merged with
  | nil =>
      subst length
      exact nofun
  | cons key rest inductionHypothesis =>
      subst length
      intro success
      obtain ⟨old, present, holdsBelow⟩ := holdsObject_cons.mp holds
      obtain ⟨new, given, overlayHoldsBelow⟩ := holdsObject_cons.mp overlayHolds
      obtain ⟨oldMembers, rfl⟩ := holdsBelow.exists_obj
      obtain ⟨newMembers, rfl⟩ := overlayHoldsBelow.exists_obj
      have atKey := (mergedAt_mergeWithin wellFormed.nodup_keys overlayWellFormed.nodup_keys
        success).1 key
      change members.get? key = _ at present
      change changes.get? key = _ at given
      rw [present, given] at atKey
      generalize merged.get? key = result at atKey
      cases atKey with
      | replaced _ notBoth => cases notBoth _ rfl rfl
      | mergedObjects below =>
          exact inductionHypothesis (wellFormed.get? present) (overlayWellFormed.get? given) rfl
            holdsBelow overlayHoldsBelow below

theorem merge_objects_eq_ok_iff {members changes : Members} {result : Json} :
    (obj members).merge (obj changes) deleteNull = .ok result ↔
      ∃ merged, mergeWithin deleteNull (maxMergeDepth + 1) members changes = .ok merged ∧
        result = obj merged := by
  rw [merge]
  cases below : mergeWithin deleteNull (maxMergeDepth + 1) members changes with
  | ok merged => simp [eq_comm]
  | error reached => simp

theorem exists_merge_eq_ok_iff (wellFormed : doc.WellFormed)
    (overlayWellFormed : overlay.WellFormed) :
    (∃ merged, doc.merge overlay deleteNull = .ok merged) ↔
      ∀ keys, keys.length = maxMergeDepth + 1 → doc.HoldsObject keys →
        ¬overlay.HoldsObject keys := by
  refine ⟨?_, exists_merge_eq_ok wellFormed overlayWellFormed⟩
  rintro ⟨merged, success⟩ keys length holds overlayHolds
  obtain ⟨members, rfl⟩ := holds.exists_obj
  obtain ⟨changes, rfl⟩ := overlayHolds.exists_obj
  obtain ⟨mergedMembers, below, -⟩ := merge_objects_eq_ok_iff.mp success
  exact mergeWithin_ne_ok_of_holdsObject wellFormed overlayWellFormed length holds overlayHolds below

/-- A merge fails exactly if both documents hold an object at some list of 65 keys, which then is
one at every beginning of that list. It succeeds on all other documents, however deep one of the two
is. -/
theorem merge_tooDeep_iff (wellFormed : doc.WellFormed) (overlayWellFormed : overlay.WellFormed)
    (deleteNull : Bool) :
    ((∃ failure : MergeTooDeep, doc.merge overlay deleteNull = .error failure) ↔
      ∃ keys, keys.length = 65 ∧ doc.HoldsObject keys ∧ overlay.HoldsObject keys) ∧
    ((∃ merged, doc.merge overlay deleteNull = .ok merged) ↔
      ¬∃ keys, keys.length = 65 ∧ doc.HoldsObject keys ∧ overlay.HoldsObject keys) ∧
    ∀ keys above, doc.HoldsObject keys ∧ overlay.HoldsObject keys → above <+: keys →
      doc.HoldsObject above ∧ overlay.HoldsObject above := by
  have fails : (∃ failure, doc.merge overlay deleteNull = .error failure) ↔
      ¬∃ merged, doc.merge overlay deleteNull = .ok merged := by
    cases doc.merge overlay deleteNull <;> simp
  have succeeds : (∃ merged, doc.merge overlay deleteNull = .ok merged) ↔
      ¬∃ keys, keys.length = 65 ∧ doc.HoldsObject keys ∧ overlay.HoldsObject keys := by
    simp only [not_exists, not_and]
    exact exists_merge_eq_ok_iff wellFormed overlayWellFormed
  refine ⟨?_, succeeds, ?_⟩
  · rw [fails, succeeds, Classical.not_not]
  · intro keys above both begins
    exact ⟨both.1.of_begins begins, both.2.of_begins begins⟩

/-- Objects one in the other, each the only member of the one around it. -/
def nested : (depth : Nat) → Json
  | 0 => obj []
  | depth + 1 => obj [("n", nested depth)]

theorem nested_wellFormed (depth : Nat) : (nested depth).WellFormed := by
  induction depth with
  | zero => exact wellFormed_obj_iff.mpr ⟨List.nodup_nil, nofun⟩
  | succ depth inductionHypothesis =>
      simpa [nested, WellFormed, MembersWellFormed, Members.keys] using inductionHypothesis

theorem nested_holdsObject_iff {depth : Nat} :
    (nested depth).HoldsObject keys ↔ keys.length ≤ depth ∧ ∀ key ∈ keys, key = "n" := by
  induction depth generalizing keys with
  | zero =>
      cases keys with
      | nil => exact iff_of_true ⟨_, rfl, rfl⟩ ⟨Nat.le_refl 0, nofun⟩
      | cons key rest =>
          apply iff_of_false
          · rintro ⟨value, found, -⟩
            cases found
          · rintro ⟨short, -⟩
            exact Nat.not_succ_le_zero _ short
  | succ depth inductionHypothesis =>
      cases keys with
      | nil => exact iff_of_true ⟨_, rfl, rfl⟩ ⟨Nat.zero_le _, nofun⟩
      | cons key rest =>
          rw [holdsObject_cons, List.length_cons, Nat.succ_le_succ_iff, List.forall_mem_cons,
            and_left_comm, ← inductionHypothesis]
          by_cases same : key = "n"
          · simp [nested, member?, Members.get?, same]
          · simp [nested, member?, Members.get?, same, Ne.symm same]

/-- One object too many at a common place, and any number of them in one document only. -/
theorem merge_tooDeep_iff_nested :
    (∃ failure, (nested 65).merge (nested 65) true = .error failure) ∧
      ∃ merged, (nested 64).merge (nested 1000) false = .ok merged := by
  constructor
  · have holds : (nested 65).HoldsObject (List.replicate 65 "n") :=
      nested_holdsObject_iff.mpr
        ⟨Nat.le_of_eq List.length_replicate, fun key => List.eq_of_mem_replicate⟩
    exact (merge_tooDeep_iff (nested_wellFormed 65) (nested_wellFormed 65) true).1.mpr
      ⟨_, List.length_replicate, holds, holds⟩
  · refine (merge_tooDeep_iff (nested_wellFormed 64) (nested_wellFormed 1000) false).2.1.mpr ?_
    rintro ⟨keys, length, holds, -⟩
    have short := (nested_holdsObject_iff.mp holds).1
    omega

end Json

end ChartParams
