import ChartParams.Proofs.Json.LastWriter
import ChartParams.Proofs.Json.MergeDepth

/-!
# The order of members after a merge

A plain merge leaves the keys of the document in their places and puts the keys that only the
overlay has behind them, in the order of the overlay. With that, a merge is determined by what it
does at each single key: `Members.mergeWithin_eq_ok_iff`.

A document covers an overlay if everything that the overlay says already holds in it. Every result
of a merge covers the overlay, and a document that covers an overlay is not changed by it, not even
in the order of its members.
-/

namespace ChartParams

theorem eq_of_foldlM_fixed {ε α β : Type} {step : α → β → Except ε α} {start result : α}
    {items : List β} (fixed : ∀ item ∈ items, ∀ next, step start item = .ok next → next = start)
    (success : items.foldlM step start = .ok result) : result = start := by
  induction items with
  | nil =>
      cases success
      rfl
  | cons item rest inductionHypothesis =>
      rw [List.forall_mem_cons] at fixed
      rw [List.foldlM_cons] at success
      obtain ⟨next, first, success⟩ := bind_eq_ok_iff.mp success
      rw [fixed.1 next first] at success
      exact inductionHypothesis fixed.2 success

namespace Members

variable {deleteNull : Bool} {room : Nat} {members others overlay merged : Members} {key : String}
  {value : Json}

theorem eq_of_keys_eq (distinct : members.keys.Nodup) (sameKeys : members.keys = others.keys)
    (sameValues : ∀ key, members.get? key = others.get? key) : members = others := by
  induction members generalizing others with
  | nil =>
      cases others with
      | nil => rfl
      | cons other others => cases sameKeys
  | cons member rest inductionHypothesis =>
      cases others with
      | nil => cases sameKeys
      | cons other others =>
          obtain ⟨key, value⟩ := member
          obtain ⟨otherKey, otherValue⟩ := other
          rw [keys_cons, keys_cons, List.cons.injEq] at sameKeys
          obtain ⟨rfl, sameRest⟩ := sameKeys
          obtain ⟨fresh, restDistinct⟩ := List.nodup_cons.mp distinct
          have sameValue : value = otherValue := by simpa [get?] using sameValues key
          rw [sameValue]
          congr 1
          apply inductionHypothesis restDistinct sameRest
          intro later
          by_cases same : key = later
          · subst same
            rw [get?_eq_none_iff.mpr fresh, get?_eq_none_iff.mpr (sameRest ▸ fresh)]
          · simpa [get?, same] using sameValues later

theorem keys_put (key : String) (value : Json) (members : Members) :
    (members.put key value).keys =
      if key ∈ members.keys then members.keys else members.keys ++ [key] := by
  fun_induction put key value members with
  | case1 => simp
  | case2 v rest => simp
  | case3 k v rest different inductionHypothesis =>
      rw [keys_cons, inductionHypothesis]
      by_cases isThere : key ∈ keys rest <;> simp [isThere, Ne.symm different]

theorem exists_put_of_mergeMember
    {mergeObjects : Members → Members → Except Members Members}
    (success : mergeMember false mergeObjects members (key, value) = .ok merged) :
    ∃ result, merged = members.put key result := by
  rcases mergeMember_cases false members key value with
    ⟨impossible, -⟩ | ⟨old, new, present, rfl⟩ | ⟨keeps, notBoth⟩
  · cases impossible
  · rw [mergeMember_objects present] at success
    cases below : mergeObjects old new with
    | error reached => simp [below] at success
    | ok child =>
        simp only [below, Except.ok.injEq] at success
        exact ⟨_, success.symm⟩
  · rw [mergeMember_replace keeps notBoth] at success
    cases success
    exact ⟨value, rfl⟩

/-- The keys of a document come first, and those that only the overlay has follow them. -/
theorem keys_mergeWithin (overlayDistinct : overlay.keys.Nodup)
    (success : mergeWithin false (room + 1) members overlay = .ok merged) :
    merged.keys = members.keys ++ overlay.keys.filter (· ∉ members.keys) := by
  rw [mergeWithin] at success
  induction overlay generalizing members with
  | nil =>
      cases success
      simp
  | cons member rest inductionHypothesis =>
      obtain ⟨first, value⟩ := member
      obtain ⟨fresh, restDistinct⟩ := List.nodup_cons.mp overlayDistinct
      rw [List.foldlM_cons] at success
      obtain ⟨next, head, success⟩ := bind_eq_ok_iff.mp success
      obtain ⟨result, rfl⟩ := exists_put_of_mergeMember head
      rw [inductionHypothesis restDistinct success, keys_put, keys_cons]
      by_cases isThere : first ∈ members.keys
      · simp [isThere]
      · have others : (keys rest).filter (· ∉ members.keys ++ [first]) =
            (keys rest).filter (· ∉ members.keys) := by
          apply List.filter_congr
          intro key isKey
          have different : key ≠ first := by
            rintro rfl
            exact fresh isKey
          simp [different]
        rw [if_neg isThere, others]
        simp [isThere]

theorem MergedAt.unique {old new result other : Option Json}
    (first : MergedAt deleteNull room old new result)
    (second : MergedAt deleteNull room old new other) : result = other := by
  cases first with
  | kept => exact second.eq_of_none.symm
  | removed _ deletes =>
      cases second with
      | removed => rfl
      | replaced keeps => simp [deletes, Json.isNull] at keeps
  | replaced keeps notBoth =>
      cases second with
      | removed _ deletes => simp [deletes, Json.isNull] at keeps
      | replaced => rfl
      | mergedObjects => cases notBoth _ rfl rfl
  | mergedObjects success =>
      cases second with
      | replaced _ notBoth => cases notBoth _ rfl rfl
      | mergedObjects again =>
          cases success.symm.trans again
          rfl

/-- Where the two are not both objects, the overlay's value replaces the old one. -/
theorem MergedAt.eq_new {old result : Option Json} {new : Json}
    (mergedAt : MergedAt false room old (some new) result)
    (notBoth : ∀ value, old = some value → value.isObject = true → new.isObject = false) :
    result = some new := by
  cases mergedAt with
  | removed _ impossible => cases impossible
  | replaced => rfl
  | mergedObjects => cases notBoth _ rfl rfl

theorem MergedAt.exists_merged {old new : Members} {result : Option Json}
    (mergedAt : MergedAt deleteNull room (some (.obj old)) (some (.obj new)) result) :
    ∃ merged, mergeWithin deleteNull room old new = .ok merged ∧ result = some (.obj merged) := by
  cases mergedAt with
  | replaced _ notBoth => cases notBoth _ rfl rfl
  | mergedObjects success => exact ⟨_, success, rfl⟩

/-- A plain merge of objects is what it does at each key, with the keys in their order. -/
theorem mergeWithin_eq_ok_iff (distinct : members.keys.Nodup)
    (overlayDistinct : overlay.keys.Nodup) :
    mergeWithin false (room + 1) members overlay = .ok merged ↔
      merged.keys = members.keys ++ overlay.keys.filter (· ∉ members.keys) ∧
        ∀ key, MergedAt false room (members.get? key) (overlay.get? key) (merged.get? key) := by
  constructor
  · intro success
    exact ⟨keys_mergeWithin overlayDistinct success,
      (mergedAt_mergeWithin distinct overlayDistinct success).1⟩
  · rintro ⟨keysMerged, mergedAt⟩
    cases result : mergeWithin false (room + 1) members overlay with
    | error reached =>
        obtain ⟨key, old, new, below, present, given, failed⟩ :=
          mergeWithin_succ_eq_error distinct overlayDistinct result
        have atKey := mergedAt key
        rw [present, given] at atKey
        obtain ⟨child, success, -⟩ := atKey.exists_merged
        cases failed.symm.trans success
    | ok found =>
        obtain ⟨foundAt, foundDistinct⟩ := mergedAt_mergeWithin distinct overlayDistinct result
        have sameKeys := (keys_mergeWithin overlayDistinct result).trans keysMerged.symm
        rw [eq_of_keys_eq foundDistinct sameKeys fun key => (foundAt key).unique (mergedAt key)]

end Members

namespace Json

open ChartParams.Path Members

variable {doc overlay merged : Json} {room : Nat} {key : String} {keys : List String}

/-- Everything that an overlay says holds in a document. -/
def Covers (doc overlay : Json) : Prop :=
  ∀ keys, (∀ leaf, overlay.HoldsLeaf keys leaf → doc.HoldsLeaf keys leaf) ∧
    (overlay.HoldsObject keys → doc.HoldsObject keys)

theorem covers_merge (wellFormed : doc.WellFormed) (overlayWellFormed : overlay.WellFormed)
    (success : doc.merge overlay false = .ok merged) : merged.Covers overlay := by
  intro keys
  constructor
  · intro leaf holds
    exact (holdsLeaf_merge_iff wellFormed overlayWellFormed success).mpr (.inl holds)
  · intro holds
    exact (holdsObject_merge_iff wellFormed overlayWellFormed success).mpr (.inl holds)

theorem Covers.eq_of_leaf (covers : doc.Covers overlay) (notObject : overlay.isObject = false) :
    doc = overlay :=
  Option.some.inj ((covers []).1 overlay ⟨rfl, notObject⟩).1

theorem Covers.exists_member {members changes : Members} {new : Json}
    (covers : (obj members).Covers (obj changes)) (given : changes.get? key = some new) :
    ∃ old, members.get? key = some old ∧ old.Covers new := by
  have isThere : ∃ old, members.get? key = some old := by
    have here : new.getAt? [] = some new := rfl
    rcases holds_of_getAt? here with holdsLeaf | holdsObject
    · have holds := (covers [key]).1 new (holdsLeaf_cons.mpr ⟨new, given, holdsLeaf⟩)
      obtain ⟨old, present, -⟩ := holdsLeaf_cons.mp holds
      exact ⟨old, present⟩
    · have holds := (covers [key]).2 (holdsObject_cons.mpr ⟨new, given, holdsObject⟩)
      obtain ⟨old, present, -⟩ := holdsObject_cons.mp holds
      exact ⟨old, present⟩
  obtain ⟨old, present⟩ := isThere
  refine ⟨old, present, ?_⟩
  intro rest
  have below := covers (key :: rest)
  simpa only [HoldsLeaf, HoldsObject, getAt?_cons, member?, present, given, Option.bind_some]
    using below

/-- What covers the overlay is not changed by it. -/
theorem mergeWithin_eq_of_covers {members changes again : Members}
    (overlayWellFormed : (obj changes).WellFormed) (covers : (obj members).Covers (obj changes))
    (success : mergeWithin false room members changes = .ok again) : again = members := by
  induction room generalizing members changes again with
  | zero => cases success
  | succ room inductionHypothesis =>
      rw [mergeWithin] at success
      apply eq_of_foldlM_fixed _ success
      rintro ⟨key, value⟩ isMember next merges
      have given := (get?_eq_some_iff overlayWellFormed.nodup_keys).mpr isMember
      obtain ⟨old, present, coversBelow⟩ := covers.exists_member given
      rcases mergeMember_cases false members key value with
        ⟨impossible, -⟩ | ⟨oldMembers, new, isObject, rfl⟩ | ⟨keeps, notBoth⟩
      · cases impossible
      · cases present.symm.trans isObject
        rw [mergeMember_objects isObject] at merges
        cases below : mergeWithin false room oldMembers new with
        | error reached => simp [below] at merges
        | ok child =>
            simp only [below, Except.ok.injEq] at merges
            rw [← merges, inductionHypothesis (overlayWellFormed.get? given) coversBelow below]
            exact put_eq_self present
      · rw [mergeMember_replace keeps notBoth] at merges
        cases merges
        have notObject : value.isObject = false := by
          cases shape : value.isObject with
          | false => rfl
          | true =>
              obtain ⟨root, isOld, oldIsObject⟩ := (coversBelow []).2 ⟨value, rfl, shape⟩
              cases isOld
              exact shape.symm.trans (notBoth old present oldIsObject)
        rw [coversBelow.eq_of_leaf notObject] at present
        exact put_eq_self present

theorem merge_eq_of_covers {again : Json} (overlayWellFormed : overlay.WellFormed)
    (covers : doc.Covers overlay) (success : doc.merge overlay false = .ok again) :
    again = doc := by
  cases shape : overlay.isObject with
  | false =>
      rw [covers.eq_of_leaf shape] at success ⊢
      cases overlay with
      | obj changes => cases shape
      | _ =>
          cases success
          rfl
  | true =>
      obtain ⟨changes, rfl⟩ := exists_obj_of_isObject shape
      obtain ⟨members, rfl⟩ := ((covers []).2 ⟨_, rfl, rfl⟩).exists_obj
      obtain ⟨result, below, rfl⟩ := merge_objects_eq_ok_iff.mp success
      rw [mergeWithin_eq_of_covers overlayWellFormed covers below]

/-- Where both documents hold an object, the merge leaves one with the keys of both in order. -/
theorem exists_keys_of_mergeWithin {members changes result old new : Members}
    (wellFormed : (obj members).WellFormed) (overlayWellFormed : (obj changes).WellFormed)
    (success : mergeWithin false room members changes = .ok result)
    (present : (obj members).getAt? keys = some (obj old))
    (given : (obj changes).getAt? keys = some (obj new)) :
    ∃ children : Members, (obj result).getAt? keys = some (obj children) ∧
      children.keys = old.keys ++ new.keys.filter (· ∉ old.keys) := by
  induction keys generalizing room members changes result with
  | nil =>
      cases present
      cases given
      cases room with
      | zero => cases success
      | succ room => exact ⟨result, rfl, keys_mergeWithin overlayWellFormed.nodup_keys success⟩
  | cons key rest inductionHypothesis =>
      obtain ⟨oldChild, oldHere, present⟩ := getAt?_cons_eq_some.mp present
      obtain ⟨newChild, newHere, given⟩ := getAt?_cons_eq_some.mp given
      obtain ⟨oldMembers, rfl⟩ := HoldsObject.exists_obj ⟨_, present, rfl⟩
      obtain ⟨newMembers, rfl⟩ := HoldsObject.exists_obj ⟨_, given, rfl⟩
      change members.get? key = _ at oldHere
      change changes.get? key = _ at newHere
      cases room with
      | zero => cases success
      | succ room =>
          have atKey := (mergedAt_mergeWithin wellFormed.nodup_keys overlayWellFormed.nodup_keys
            success).1 key
          rw [oldHere, newHere] at atKey
          obtain ⟨child, below, isResult⟩ := atKey.exists_merged
          obtain ⟨children, isThere, keysMerged⟩ := inductionHypothesis
            (wellFormed.get? oldHere) (overlayWellFormed.get? newHere) below present given
          exact ⟨children, getAt?_cons_eq_some.mpr ⟨_, isResult, isThere⟩, keysMerged⟩

/-- Where both documents hold an object, a merge leaves the keys of the document in their order and
behind them those that only the overlay has, in its order. Merging the overlay into the result again
changes nothing, and succeeds in particular if the overlay holds no object at 65 keys. -/
theorem merge_again (wellFormed : doc.WellFormed) (overlayWellFormed : overlay.WellFormed)
    (success : doc.merge overlay false = .ok merged) :
    (∀ keys (old new : Members), doc.getAt? keys = some (obj old) →
      overlay.getAt? keys = some (obj new) →
        ∃ children : Members, merged.getAt? keys = some (obj children) ∧
          children.keys = old.keys ++ new.keys.filter (· ∉ old.keys)) ∧
    (∀ again, merged.merge overlay false = .ok again → again = merged) ∧
    ((∀ keys, keys.length = 65 → ¬overlay.HoldsObject keys) →
      merged.merge overlay false = .ok merged) := by
  have unchanged (again : Json) (merges : merged.merge overlay false = .ok again) :
      again = merged :=
    merge_eq_of_covers overlayWellFormed (covers_merge wellFormed overlayWellFormed success) merges
  refine ⟨?_, unchanged, ?_⟩
  · intro keys old new present given
    obtain ⟨members, rfl⟩ := HoldsObject.exists_obj ⟨_, present, rfl⟩
    obtain ⟨changes, rfl⟩ := HoldsObject.exists_obj ⟨_, given, rfl⟩
    obtain ⟨result, below, rfl⟩ := merge_objects_eq_ok_iff.mp success
    exact exists_keys_of_mergeWithin wellFormed overlayWellFormed below present given
  · intro shallow
    obtain ⟨again, merges⟩ := exists_merge_eq_ok (wellFormed.merge overlayWellFormed success)
      overlayWellFormed fun keys length _ => shallow keys length
    rwa [unchanged again merges] at merges

/-- Keys in another order, a key that is new below the root and an object that is copied whole. -/
theorem merge_again_reordered :
    let copied := obj [("n", null)]
    let doc := obj [("b", bool true), ("a", obj [("y", null), ("x", bool true)])]
    let overlay := obj [("c", copied), ("a", obj [("z", null), ("x", arr [])]), ("b", null)]
    let merged := obj [("b", null), ("a", obj [("y", null), ("x", arr []), ("z", null)]), ("c", copied)]
    doc.merge overlay false = .ok merged ∧
    (∃ children : Members, merged.getAt? ["a"] = some (obj children) ∧
      children.keys = ["y", "x", "z"]) ∧
    merged.merge overlay false = .ok merged := by
  intro copied doc overlay merged
  have wellFormed : doc.WellFormed := by
    simp [doc, WellFormed, MembersWellFormed, Members.keys]
  have overlayWellFormed : overlay.WellFormed := by
    simp [overlay, copied, WellFormed, MembersWellFormed, AllWellFormed, Members.keys]
  have success : doc.merge overlay false = .ok merged := rfl
  have shallow : ∀ keys, keys.length = 65 → ¬overlay.HoldsObject keys := by
    rintro (_ | ⟨first, _ | ⟨second, _ | ⟨third, keys⟩⟩⟩) length
    · cases length
    · cases length
    · cases length
    · simp only [holdsObject_cons]
      grind [member?, Members.get?]
  obtain ⟨inOrder, -, again⟩ := merge_again wellFormed overlayWellFormed success
  exact ⟨success, inOrder ["a"] _ _ rfl rfl, again shallow⟩

end Json

end ChartParams
