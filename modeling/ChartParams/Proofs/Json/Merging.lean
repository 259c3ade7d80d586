import ChartParams.Attempt
import ChartParams.Json.Merge
import ChartParams.Proofs.Json.Places

/-!
# Merging at places

`Members.MergedAt` lists what a merge can do at one key of an object, and `Json.OverlaidAt` what a
plain merge does at a place: a value of the overlay wins, a leaf of the overlay above the place
leaves nothing, and everything else stays. A merge fails only where both documents hold an object
below the allowed depth. From one merge it follows for many, by induction on the documents, that the
last writer of a place decides what is there.
-/

namespace ChartParams

namespace Members

variable {deleteNull : Bool} {room : Nat} {members overlay merged : Members}

/-- What a merge makes of the value at a key and of the overlay's value at that key. -/
inductive MergedAt (deleteNull : Bool) (room : Nat) :
    Option Json → Option Json → Option Json → Prop
  | kept (old : Option Json) : MergedAt deleteNull room old none old
  | removed (old : Option Json) (deletes : deleteNull = true) :
      MergedAt deleteNull room old (some .null) none
  | replaced {old : Option Json} {new : Json} (keeps : (deleteNull && new.isNull) = false)
      (notBoth : ∀ value, old = some value → value.isObject = true → new.isObject = false) :
      MergedAt deleteNull room old (some new) (some new)
  | mergedObjects {old new merged : Members}
      (success : mergeWithin deleteNull room old new = .ok merged) :
      MergedAt deleteNull room (some (.obj old)) (some (.obj new)) (some (.obj merged))

theorem MergedAt.eq_of_none {old result : Option Json}
    (mergedAt : MergedAt deleteNull room old none result) : result = old := by
  cases mergedAt
  rfl

section mergeMember

variable {key : String} {value : Json} {mergeObjects : Members → Members → Except Members Members}

theorem mergeMember_remove (deletes : deleteNull = true) :
    mergeMember deleteNull mergeObjects members (key, .null) = .ok (members.remove key) := by
  simp [mergeMember, Json.isNull, deletes]

theorem mergeMember_objects {old new : Members} (present : members.get? key = some (.obj old)) :
    mergeMember deleteNull mergeObjects members (key, .obj new) =
      match mergeObjects old new with
      | .ok merged => .ok (members.put key (.obj merged))
      | .error reached => .error (members.put key (.obj reached)) := by
  cases result : mergeObjects old new <;> simp [mergeMember, Json.isNull, present, result]

theorem mergeMember_replace (keeps : (deleteNull && value.isNull) = false)
    (notBoth : ∀ old, members.get? key = some old → old.isObject = true → value.isObject = false) :
    mergeMember deleteNull mergeObjects members (key, value) = .ok (members.put key value) := by
  simp only [mergeMember, keeps]
  split
  case isTrue impossible => cases impossible
  case isFalse =>
    split
    next old new _ present =>
      have contradiction := notBoth _ present rfl
      cases contradiction
    next => rfl

/-- What merging a member can do: delete its key, merge two objects, or replace the value. -/
theorem mergeMember_cases (deleteNull : Bool) (members : Members) (key : String) (value : Json) :
    (deleteNull = true ∧ value = .null) ∨
      (∃ old new, members.get? key = some (.obj old) ∧ value = .obj new) ∨
      ((deleteNull && value.isNull) = false ∧
        ∀ old, members.get? key = some old → old.isObject = true → value.isObject = false) := by
  cases value with
  | obj new =>
      apply Or.inr
      by_cases both : ∃ old, members.get? key = some (.obj old)
      · obtain ⟨old, present⟩ := both
        exact .inl ⟨old, new, present, rfl⟩
      · refine .inr ⟨Bool.and_false _, fun old present isObject => ?_⟩
        cases old with
        | obj oldMembers => exact absurd ⟨oldMembers, present⟩ both
        | _ => cases isObject
  | null =>
      cases deleteNull with
      | true => exact .inl ⟨rfl, rfl⟩
      | false => exact .inr (.inr ⟨rfl, fun _ _ _ => rfl⟩)
  | _ => exact .inr (.inr ⟨Bool.and_false _, fun _ _ _ => rfl⟩)

end mergeMember

theorem mergedAt_mergeMember {key : String} {value : Json} (distinct : members.keys.Nodup)
    (success :
      mergeMember deleteNull (mergeWithin deleteNull room) members (key, value) = .ok merged) :
    MergedAt deleteNull room (members.get? key) (some value) (merged.get? key) ∧
      (∀ other, other ≠ key → merged.get? other = members.get? other) ∧ merged.keys.Nodup := by
  have putElsewhere (value : Json) (other : String) (different : other ≠ key) :
      (members.put key value).get? other = members.get? other :=
    get?_put_of_ne different value members
  rcases mergeMember_cases deleteNull members key value with
    ⟨deletes, rfl⟩ | ⟨old, new, present, rfl⟩ | ⟨keeps, notBoth⟩
  · rw [mergeMember_remove deletes] at success
    cases success
    refine ⟨?_, fun other different => ?_, nodup_keys_remove distinct⟩
    · rw [get?_remove distinct, if_pos rfl]
      exact .removed _ deletes
    · rw [get?_remove distinct, if_neg different]
  · rw [mergeMember_objects present] at success
    cases below : mergeWithin deleteNull room old new with
    | error reached => simp [below] at success
    | ok child =>
        simp only [below, Except.ok.injEq] at success
        subst success
        refine ⟨?_, putElsewhere _, nodup_keys_put distinct⟩
        rw [present, get?_put_self]
        exact .mergedObjects below
  · rw [mergeMember_replace keeps notBoth] at success
    cases success
    refine ⟨?_, putElsewhere _, nodup_keys_put distinct⟩
    rw [get?_put_self]
    exact .replaced keeps notBoth

/-- Merging members one after another does at every key what merging that key alone does. -/
theorem mergedAt_mergeWithin (distinct : members.keys.Nodup) (overlayDistinct : overlay.keys.Nodup)
    (success : mergeWithin deleteNull (room + 1) members overlay = .ok merged) :
    (∀ key, MergedAt deleteNull room (members.get? key) (overlay.get? key) (merged.get? key)) ∧
      merged.keys.Nodup := by
  rw [mergeWithin] at success
  induction overlay generalizing members with
  | nil =>
      cases success
      exact ⟨fun key => .kept _, distinct⟩
  | cons member rest inductionHypothesis =>
      obtain ⟨first, value⟩ := member
      obtain ⟨fresh, restDistinct⟩ := List.nodup_cons.mp overlayDistinct
      rw [List.foldlM_cons] at success
      obtain ⟨next, head, success⟩ := bind_eq_ok_iff.mp success
      obtain ⟨atFirst, elsewhere, nextDistinct⟩ := mergedAt_mergeMember distinct head
      obtain ⟨afterwards, mergedDistinct⟩ := inductionHypothesis nextDistinct restDistinct success
      refine ⟨fun key => ?_, mergedDistinct⟩
      have atKey := afterwards key
      by_cases same : first = key
      · subst same
        rw [get?_eq_none_iff.mpr fresh] at atKey
        rw [atKey.eq_of_none, get?, if_pos rfl]
        exact atFirst
      · rw [elsewhere key (Ne.symm same)] at atKey
        rw [get?, if_neg same]
        exact atKey

theorem mergeMember_eq_error {key : String} {value : Json} {reached : Members}
    (failure :
      mergeMember deleteNull (mergeWithin deleteNull room) members (key, value) = .error reached) :
    ∃ old new below, members.get? key = some (.obj old) ∧ value = .obj new ∧
      mergeWithin deleteNull room old new = .error below := by
  rcases mergeMember_cases deleteNull members key value with
    ⟨deletes, rfl⟩ | ⟨old, new, present, rfl⟩ | ⟨keeps, notBoth⟩
  · rw [mergeMember_remove deletes] at failure
    cases failure
  · rw [mergeMember_objects present] at failure
    cases result : mergeWithin deleteNull room old new with
    | ok child => simp [result] at failure
    | error below => exact ⟨old, new, below, present, rfl, result⟩
  · rw [mergeMember_replace keeps notBoth] at failure
    cases failure

theorem mergeWithin_succ_eq_error {reached : Members} (distinct : members.keys.Nodup)
    (overlayDistinct : overlay.keys.Nodup)
    (failure : mergeWithin deleteNull (room + 1) members overlay = .error reached) :
    ∃ key old new below, members.get? key = some (.obj old) ∧ overlay.get? key = some (.obj new) ∧
      mergeWithin deleteNull room old new = .error below := by
  rw [mergeWithin] at failure
  induction overlay generalizing members with
  | nil => cases failure
  | cons member rest inductionHypothesis =>
      obtain ⟨first, value⟩ := member
      obtain ⟨fresh, restDistinct⟩ := List.nodup_cons.mp overlayDistinct
      rw [List.foldlM_cons] at failure
      cases head : mergeMember deleteNull (mergeWithin deleteNull room) members (first, value) with
      | error reachedFirst =>
          obtain ⟨old, new, below, present, rfl, failed⟩ := mergeMember_eq_error head
          exact ⟨first, old, new, below, present, by rw [get?, if_pos rfl], failed⟩
      | ok next =>
          rw [head] at failure
          obtain ⟨_, elsewhere, nextDistinct⟩ := mergedAt_mergeMember distinct head
          obtain ⟨key, old, new, below, present, given, failed⟩ :=
            inductionHypothesis nextDistinct restDistinct failure
          have different : key ≠ first := by
            rintro rfl
            rw [get?_eq_none_iff.mpr fresh] at given
            cases given
          refine ⟨key, old, new, below, ?_, ?_, failed⟩
          · rw [← elsewhere key different]
            exact present
          · rw [get?, if_neg different.symm]
            exact given

end Members

namespace Json

open ChartParams.Path Members

variable {doc overlay merged : Json} {deleteNull : Bool} {room : Nat} {keys : List String}

/-- A merge that fails met objects at one place of both documents, as deep as it had room. -/
theorem holdsObject_of_mergeWithin_eq_error {members changes reached : Members}
    (wellFormed : (obj members).WellFormed) (overlayWellFormed : (obj changes).WellFormed)
    (failure : mergeWithin deleteNull room members changes = .error reached) :
    ∃ keys, keys.length = room ∧ (obj members).HoldsObject keys ∧
      (obj changes).HoldsObject keys := by
  induction room generalizing members changes reached with
  | zero => exact ⟨[], rfl, ⟨_, rfl, rfl⟩, ⟨_, rfl, rfl⟩⟩
  | succ room inductionHypothesis =>
      obtain ⟨key, old, new, below, present, given, failed⟩ :=
        mergeWithin_succ_eq_error wellFormed.nodup_keys overlayWellFormed.nodup_keys failure
      obtain ⟨rest, length, holds, overlayHolds⟩ :=
        inductionHypothesis (wellFormed.get? present)
          (overlayWellFormed.get? given) failed
      exact ⟨key :: rest, by rw [List.length_cons, length],
        holdsObject_cons.mpr ⟨_, present, holds⟩,
        holdsObject_cons.mpr ⟨_, given, overlayHolds⟩⟩

theorem exists_merge_eq_ok (wellFormed : doc.WellFormed) (overlayWellFormed : overlay.WellFormed)
    (shallow : ∀ keys, keys.length = maxMergeDepth + 1 → doc.HoldsObject keys →
      ¬overlay.HoldsObject keys) :
    ∃ merged, doc.merge overlay deleteNull = .ok merged := by
  unfold merge
  split
  case h_1 members changes =>
    cases result : mergeWithin deleteNull (maxMergeDepth + 1) members changes with
    | ok child => exact ⟨obj child, rfl⟩
    | error reached =>
        obtain ⟨keys, length, holds, overlayHolds⟩ :=
          holdsObject_of_mergeWithin_eq_error wellFormed overlayWellFormed result
        exact absurd overlayHolds (shallow keys length holds)
  case h_2 => exact ⟨overlay, rfl⟩

theorem mergedAt_merge (success : doc.merge overlay false = .ok merged) :
    MergedAt false (maxMergeDepth + 1) (some doc) (some overlay) (some merged) := by
  unfold merge at success
  split at success
  case h_1 members changes =>
    cases result : mergeWithin false (maxMergeDepth + 1) members changes with
    | error reached => simp [result] at success
    | ok child =>
        simp only [result, Except.ok.injEq] at success
        subst success
        exact .mergedObjects result
  case h_2 notBoth =>
    cases success
    refine .replaced rfl fun value isDoc isObject => ?_
    cases isDoc
    cases doc with
    | obj members =>
        cases overlay with
        | obj changes => exact absurd rfl (notBoth members changes rfl)
        | _ => rfl
    | _ => simp [Json.isObject] at isObject

theorem WellFormed.mergeWithin {members changes merged : Members}
    (wellFormed : (obj members).WellFormed) (overlayWellFormed : (obj changes).WellFormed)
    (success : mergeWithin deleteNull room members changes = .ok merged) :
    (obj merged).WellFormed := by
  induction room generalizing members changes merged with
  | zero => cases success
  | succ room inductionHypothesis =>
      obtain ⟨atKey, distinct⟩ :=
        mergedAt_mergeWithin wellFormed.nodup_keys overlayWellFormed.nodup_keys success
      refine wellFormed_obj_iff.mpr ⟨distinct, fun key value found => ?_⟩
      have here := atKey key
      have old (value : Json) (present : members.get? key = some value) : value.WellFormed :=
        wellFormed.get? present
      have new (value : Json) (given : changes.get? key = some value) : value.WellFormed :=
        overlayWellFormed.get? given
      rw [found] at here
      generalize members.get? key = before at here old
      generalize changes.get? key = given at here new
      cases here with
      | kept => exact old value rfl
      | replaced => exact new value rfl
      | mergedObjects below => exact inductionHypothesis (old _ rfl) (new _ rfl) below

theorem WellFormed.merge (wellFormed : doc.WellFormed) (overlayWellFormed : overlay.WellFormed)
    (success : doc.merge overlay false = .ok merged) : merged.WellFormed := by
  cases mergedAt_merge success with
  | replaced => exact overlayWellFormed
  | mergedObjects below => exact wellFormed.mergeWithin overlayWellFormed below

/-- What a plain merge leaves at a place where there was `old`. -/
inductive OverlaidAt (old : Option Json) (overlay : Json) (keys : List String) : Option Json → Prop
  | leaf {value : Json} (holds : overlay.HoldsLeaf keys value) :
      OverlaidAt old overlay keys (some value)
  /-- An object of the overlay is merged into an object and copied over everything else. -/
  | object {value : Json} (holds : overlay.HoldsObject keys) (isObject : value.isObject = true)
      (copied : (∀ before, old = some before → before.isObject = false) →
        overlay.getAt? keys = some value) :
      OverlaidAt old overlay keys (some value)
  | blocked (blocked : overlay.IsBlocked keys) : OverlaidAt old overlay keys none
  | kept (nothing : overlay.getAt? keys = none) (free : ¬overlay.IsBlocked keys) :
      OverlaidAt old overlay keys old

theorem OverlaidAt.below {old result : Option Json} {child : Json} {key : String}
    {rest : List String} (overlaid : OverlaidAt old child rest result)
    (present : overlay.member? key = some child) (isObject : overlay.isObject = true) :
    OverlaidAt old overlay (key :: rest) result := by
  have same : overlay.getAt? (key :: rest) = child.getAt? rest := by
    rw [getAt?_cons, present, Option.bind_some]
  cases overlaid with
  | leaf holds => exact .leaf (holdsLeaf_cons.mpr ⟨child, present, holds⟩)
  | object holds shape copied =>
      exact .object (holdsObject_cons.mpr ⟨child, present, holds⟩) shape
        fun fresh => same.trans (copied fresh)
  | blocked blocked => exact .blocked (isBlocked_cons.mpr (.inr ⟨child, present, blocked⟩))
  | kept nothing free =>
      refine .kept (same.trans nothing) fun blocked => ?_
      rcases isBlocked_cons.mp blocked with notObject | ⟨other, found, blockedBelow⟩
      · rw [isObject] at notObject
        cases notObject
      · cases present.symm.trans found
        exact free blockedBelow

theorem overlaidAt_copy {old : Option Json}
    (notBoth : ∀ value, old = some value → value.isObject = true → overlay.isObject = false) :
    OverlaidAt (old.bind (·.getAt? keys)) overlay keys (overlay.getAt? keys) := by
  cases found : overlay.getAt? keys with
  | some value =>
      rcases holds_of_getAt? found with holdsLeaf | holdsObject
      · exact .leaf holdsLeaf
      · obtain ⟨object, here, isObject⟩ := holdsObject
        cases found.symm.trans here
        exact .object ⟨value, found, isObject⟩ isObject fun _ => found
  | none =>
      by_cases blocked : overlay.IsBlocked keys
      · exact .blocked blocked
      · cases keys with
        | nil => cases found
        | cons key rest =>
            have nothing : (old.bind fun value => value.getAt? (key :: rest)) = none := by
              rw [Option.bind_eq_none_iff]
              intro value isOld
              cases shape : value.isObject with
              | true => exact absurd (isBlocked_cons.mpr (.inl (notBoth value isOld shape))) blocked
              | false => rw [getAt?_cons, member?_of_not_isObject shape, Option.bind_none]
            rw [nothing]
            exact .kept found blocked

theorem overlaidAt_of_mergedAt {old result : Option Json}
    (oldWellFormed : ∀ value ∈ old, value.WellFormed)
    (overlayWellFormed : overlay.WellFormed)
    (mergedAt : MergedAt false room old (some overlay) result) :
    OverlaidAt (old.bind (·.getAt? keys)) overlay keys (result.bind (·.getAt? keys)) := by
  induction keys generalizing room old overlay result with
  | nil =>
      cases mergedAt with
      | removed _ deletes => cases deletes
      | replaced _ notBoth => exact overlaidAt_copy notBoth
      | mergedObjects =>
          exact .object ⟨_, rfl, rfl⟩ rfl fun fresh => nomatch fresh _ rfl
  | cons key rest inductionHypothesis =>
      cases mergedAt with
      | removed _ deletes => cases deletes
      | replaced _ notBoth => exact overlaidAt_copy notBoth
      | @mergedObjects members changes merged success =>
          cases room with
          | zero => cases success
          | succ room =>
              have wellFormed := oldWellFormed _ rfl
              have atKey := (mergedAt_mergeWithin wellFormed.nodup_keys
                overlayWellFormed.nodup_keys success).1 key
              simp only [Option.bind_some, getAt?_cons, member?]
              cases given : changes.get? key with
              | none =>
                  rw [given] at atKey
                  rw [atKey.eq_of_none]
                  have nothing : (obj changes).getAt? (key :: rest) = none := by
                    rw [getAt?_cons, member?, given, Option.bind_none]
                  refine .kept nothing fun blocked => ?_
                  rcases isBlocked_cons.mp blocked with notObject | ⟨child, found, -⟩
                  · cases notObject
                  · cases given.symm.trans found
              | some child =>
                  rw [given] at atKey
                  have overlaid := inductionHypothesis
                    (fun value present => wellFormed.get? present)
                    (overlayWellFormed.get? given) atKey
                  exact overlaid.below given rfl

/-- What a plain merge leaves at a place. -/
theorem overlaidAt_merge (wellFormed : doc.WellFormed) (overlayWellFormed : overlay.WellFormed)
    (success : doc.merge overlay false = .ok merged) (keys : List String) :
    OverlaidAt (doc.getAt? keys) overlay keys (merged.getAt? keys) :=
  overlaidAt_of_mergedAt (fun _ isDoc => Option.some.inj isDoc ▸ wellFormed) overlayWellFormed
    (mergedAt_merge success)

/-- A merge keeps what is at a place of which the overlay holds nothing, not even a leaf above. -/
theorem getAt?_merge_of_spared (wellFormed : doc.WellFormed)
    (overlayWellFormed : overlay.WellFormed)
    (success : doc.merge overlay false = .ok merged) (nothing : overlay.getAt? keys = none)
    (free : ¬overlay.IsBlocked keys) : merged.getAt? keys = doc.getAt? keys := by
  have overlaid := overlaidAt_merge wellFormed overlayWellFormed success keys
  generalize merged.getAt? keys = result at overlaid
  cases overlaid with
  | leaf holds => cases nothing.symm.trans holds.1
  | object holds =>
      obtain ⟨value, found, -⟩ := holds
      cases nothing.symm.trans found
  | blocked blocked => exact absurd blocked free
  | kept => rfl

/-- A merge copies a leaf of the overlay, and an object of the overlay to where nothing was. -/
theorem getAt?_merge_of_overlay {value : Json} (wellFormed : doc.WellFormed)
    (overlayWellFormed : overlay.WellFormed) (success : doc.merge overlay false = .ok merged)
    (found : overlay.getAt? keys = some value)
    (copied : value.isObject = false ∨ doc.getAt? keys = none) :
    merged.getAt? keys = some value := by
  have overlaid := overlaidAt_merge wellFormed overlayWellFormed success keys
  generalize merged.getAt? keys = result at overlaid
  cases overlaid with
  | leaf holds => exact holds.1.symm.trans found
  | object holds isObject fresh =>
      refine (fresh fun before present => ?_).symm.trans found
      rcases copied with notObject | nothing
      · obtain ⟨object, here, objectIsObject⟩ := holds
        cases found.symm.trans here
        cases objectIsObject.symm.trans notObject
      · cases nothing.symm.trans present
  | blocked blocked => cases blocked.getAt?_eq_none.symm.trans found
  | kept nothing => cases nothing.symm.trans found

end Json

end ChartParams
