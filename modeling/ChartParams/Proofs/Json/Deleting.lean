import ChartParams.Proofs.Json.MergeDepth
import ChartParams.Proofs.Json.Sameness

/-!
# Merging with deletions

A merge with deletions leaves what a plain merge leaves, except at the places that it erases: there
the overlay holds null and the document an object at every place above, so that the merge gets
there. A null that the overlay brings to a place without an object above it is copied with what is
around it.
-/

namespace ChartParams

namespace Json

open ChartParams.Path Members

variable {doc overlay plain cleared : Json} {room : Nat} {key : String} {keys rest : List String}

/-- The overlay holds null at a place that a merge with the document gets to. -/
def IsErased (doc overlay : Json) (keys : List String) : Prop :=
  overlay.getAt? keys = some null ∧ ∀ above, Above above keys → doc.HoldsObject above

/-- The same for what is at one key of the document and of the overlay. -/
def IsErasedBelow (old new : Option Json) (keys : List String) : Prop :=
  (∃ value, new = some value ∧ value.getAt? keys = some null) ∧
    ∀ above, Above above keys → ∃ before, old = some before ∧ before.HoldsObject above

theorem isErased_cons_iff {members changes : Members} :
    (obj members).IsErased (obj changes) (key :: rest) ↔
      IsErasedBelow (members.get? key) (changes.get? key) rest := by
  rw [IsErased, getAt?_cons_eq_some]
  apply and_congr_right
  intro _
  constructor
  · intro objects above isAbove
    exact holdsObject_cons.mp (objects (key :: above) (above_cons_iff.mpr ⟨rfl, isAbove⟩))
  · intro objects above isAbove
    cases above with
    | nil => exact ⟨obj members, rfl, rfl⟩
    | cons other above =>
        obtain ⟨rfl, aboveRest⟩ := above_cons_iff.mp isAbove
        exact holdsObject_cons.mpr (objects above aboveRest)

theorem isErasedBelow_some_iff :
    IsErasedBelow (some doc) (some overlay) keys ↔ doc.IsErased overlay keys := by
  simp only [IsErasedBelow, IsErased, Option.some.injEq, exists_eq_left']

theorem isErasedBelow_nil_iff {old new : Option Json} :
    IsErasedBelow old new [] ↔ new = some null := by
  constructor
  · rintro ⟨⟨value, rfl, isNull⟩, -⟩
    exact isNull
  · rintro rfl
    exact ⟨⟨null, rfl, rfl⟩, fun above isAbove => absurd isAbove not_above_nil⟩

theorem IsErasedBelow.isObject {old new : Option Json} (erased : IsErasedBelow old new (key :: rest)) :
    (∃ before, old = some before ∧ before.isObject = true) ∧
      ∃ after, new = some after ∧ after.isObject = true := by
  obtain ⟨⟨after, isNew, found⟩, objects⟩ := erased
  obtain ⟨before, isOld, value, same, isObject⟩ := objects [] (nil_above_cons key rest)
  cases same
  obtain ⟨other, same, overlayIsObject⟩ := holdsObject_above found (nil_above_cons key rest)
  cases same
  exact ⟨⟨before, isOld, isObject⟩, after, isNew, overlayIsObject⟩

/-- What a plain merge and one with deletions make of the same value at a key and of the overlay's
value there. -/
inductive MergedBothWays (room : Nat) : (old new plain cleared : Option Json) → Prop
  | erased (old : Option Json) : MergedBothWays room old (some null) (some null) none
  | objects {old new plain cleared : Members} (success : mergeWithin false room old new = .ok plain)
      (deleting : mergeWithin true room old new = .ok cleared) :
      MergedBothWays room (some (obj old)) (some (obj new)) (some (obj plain)) (some (obj cleared))
  | same {old new result : Option Json} (notNull : new ≠ some null)
      (notBoth : ∀ before after, old = some before → new = some after → before.isObject = true →
        after.isObject = false) :
      MergedBothWays room old new result result

theorem mergedBothWays_of_mergedAt {old new plain cleared : Option Json}
    (plainly : MergedAt false room old new plain) (deleting : MergedAt true room old new cleared) :
    MergedBothWays room old new plain cleared := by
  cases deleting with
  | kept =>
      rw [plainly.eq_of_none]
      exact .same nofun nofun
  | removed =>
      cases plainly with
      | removed _ impossible => cases impossible
      | replaced => exact .erased old
  | @replaced _ value keeps notBoth =>
      have notNull : some value ≠ some null := by
        rintro isNull
        cases isNull
        cases keeps
      cases plainly with
      | removed => exact absurd rfl notNull
      | replaced =>
          apply MergedBothWays.same notNull
          intro before after isOld isNew
          cases isNew
          exact notBoth before isOld
      | mergedObjects => cases notBoth _ rfl rfl
  | mergedObjects below =>
      cases plainly with
      | replaced _ notBoth => cases notBoth _ rfl rfl
      | mergedObjects plainBelow => exact .objects plainBelow below

theorem mergedBothWays_mergeWithin {members changes plain cleared : Members}
    (wellFormed : (obj members).WellFormed) (overlayWellFormed : (obj changes).WellFormed)
    (success : mergeWithin false (room + 1) members changes = .ok plain)
    (deleting : mergeWithin true (room + 1) members changes = .ok cleared) (key : String) :
    MergedBothWays room (members.get? key) (changes.get? key) (plain.get? key)
      (cleared.get? key) := by
  have distinct := wellFormed.nodup_keys
  have overlayDistinct := overlayWellFormed.nodup_keys
  exact mergedBothWays_of_mergedAt ((mergedAt_mergeWithin distinct overlayDistinct success).1 key)
    ((mergedAt_mergeWithin distinct overlayDistinct deleting).1 key)

/-- What a merge with deletions leaves at a place, beside what a plain merge leaves there. -/
inductive ClearedAt (erased : Prop) : (plain cleared : Option Json) → Prop
  | erased (erases : erased) : ClearedAt erased (some .null) none
  | objects {plain cleared : Members} (spares : ¬erased) :
      ClearedAt erased (some (.obj plain)) (some (.obj cleared))
  | same {result : Option Json} (spares : ¬erased) : ClearedAt erased result result

theorem clearedAt_of_mergedBothWays {old new plain cleared : Option Json}
    (oldWellFormed : ∀ value, old = some value → value.WellFormed)
    (newWellFormed : ∀ value, new = some value → value.WellFormed)
    (merged : MergedBothWays room old new plain cleared) :
    ClearedAt (IsErasedBelow old new keys) (plain.bind (·.getAt? keys))
      (cleared.bind (·.getAt? keys)) := by
  induction keys generalizing room old new plain cleared with
  | nil =>
      rw [isErasedBelow_nil_iff]
      cases merged with
      | erased => exact .erased rfl
      | objects => exact .objects nofun
      | same notNull => exact .same notNull
  | cons key rest inductionHypothesis =>
      cases merged with
      | erased =>
          apply ClearedAt.same
          intro erased
          obtain ⟨-, after, isNull, isObject⟩ := erased.isObject
          cases isNull
          cases isObject
      | objects success deleting =>
          cases room with
          | zero => cases success
          | succ room =>
              have wellFormed := oldWellFormed _ rfl
              have overlayWellFormed := newWellFormed _ rfl
              rw [isErasedBelow_some_iff, isErased_cons_iff]
              exact inductionHypothesis (fun _ present => wellFormed.get? present)
                (fun _ given => overlayWellFormed.get? given)
                (mergedBothWays_mergeWithin wellFormed overlayWellFormed success deleting key)
      | same _ notBoth =>
          apply ClearedAt.same
          intro erased
          obtain ⟨⟨before, isOld, isObject⟩, after, isNew, overlayIsObject⟩ := erased.isObject
          cases overlayIsObject.symm.trans (notBoth before after isOld isNew isObject)

theorem merge_of_not_objects {deleteNull : Bool}
    (notBoth : ¬(doc.isObject = true ∧ overlay.isObject = true)) :
    doc.merge overlay deleteNull = .ok overlay := by
  unfold merge
  split
  · exact absurd ⟨rfl, rfl⟩ notBoth
  · rfl

theorem clearedAt_merge (wellFormed : doc.WellFormed) (overlayWellFormed : overlay.WellFormed)
    (success : doc.merge overlay false = .ok plain) (deleting : doc.merge overlay true = .ok cleared)
    (belowRoot : keys ≠ []) :
    ClearedAt (doc.IsErased overlay keys) (plain.getAt? keys) (cleared.getAt? keys) := by
  rw [← isErasedBelow_some_iff]
  by_cases both : doc.isObject = true ∧ overlay.isObject = true
  · obtain ⟨isObject, overlayIsObject⟩ := both
    obtain ⟨members, rfl⟩ := exists_obj_of_isObject isObject
    obtain ⟨changes, rfl⟩ := exists_obj_of_isObject overlayIsObject
    obtain ⟨plainMembers, below, rfl⟩ := merge_objects_eq_ok_iff.mp success
    obtain ⟨clearedMembers, deletingBelow, rfl⟩ := merge_objects_eq_ok_iff.mp deleting
    exact clearedAt_of_mergedBothWays (fun _ isDoc => Option.some.inj isDoc ▸ wellFormed)
      (fun _ isOverlay => Option.some.inj isOverlay ▸ overlayWellFormed)
      (.objects below deletingBelow)
  · rw [merge_of_not_objects both, Except.ok.injEq] at success deleting
    subst success deleting
    apply ClearedAt.same
    intro erased
    cases keys with
    | nil => exact absurd rfl belowRoot
    | cons key rest =>
        obtain ⟨⟨before, isDoc, isObject⟩, after, isOverlay, overlayIsObject⟩ := erased.isObject
        cases isDoc
        cases isOverlay
        exact both ⟨isObject, overlayIsObject⟩

/-- Where nothing is erased, both merges leave the same leaf, or an object each, or nothing. -/
theorem ClearedAt.agreeAt {erased : Prop}
    (clearedAt : ClearedAt erased (plain.getAt? keys) (cleared.getAt? keys)) (spares : ¬erased) :
    AgreeAt cleared plain keys := by
  generalize isPlain : plain.getAt? keys = plainly at clearedAt
  generalize isCleared : cleared.getAt? keys = deleting at clearedAt
  cases clearedAt with
  | erased erases => exact absurd erases spares
  | objects => exact agreeAt_of_holdsObject ⟨_, isCleared, rfl⟩ ⟨_, isPlain, rfl⟩
  | same => exact agreeAt_of_getAt?_eq (isCleared.trans isPlain.symm)

theorem ClearedAt.eq_none {erased : Prop} {plain cleared : Option Json}
    (clearedAt : ClearedAt erased plain cleared) (erases : erased) : cleared = none := by
  cases clearedAt with
  | erased => rfl
  | objects spares => exact absurd erases spares
  | same spares => exact absurd erases spares

/-- A merge with deletions succeeds where a plain one does. It leaves nothing at a place where the
overlay holds null and the document an object at every place above. At every other place below the
root it leaves what a plain merge leaves: the same leaf, or an object as well. So a null survives
below a place where the document held no object, and what the overlay says nothing about is not
lost. -/
theorem merge_deleteNull (wellFormed : doc.WellFormed) (overlayWellFormed : overlay.WellFormed) :
    ((∃ cleared, doc.merge overlay true = .ok cleared) ↔
      ∃ plain, doc.merge overlay false = .ok plain) ∧
    ∀ plain cleared, doc.merge overlay false = .ok plain → doc.merge overlay true = .ok cleared →
      ∀ keys, keys ≠ [] →
        (doc.IsErased overlay keys → cleared.getAt? keys = none) ∧
        (¬doc.IsErased overlay keys →
          (∀ leaf, cleared.HoldsLeaf keys leaf ↔ plain.HoldsLeaf keys leaf) ∧
            (cleared.HoldsObject keys ↔ plain.HoldsObject keys)) ∧
        (∀ above, Above above keys → ¬doc.HoldsObject above → overlay.getAt? keys = some null →
          cleared.getAt? keys = some null) ∧
        (overlay.getAt? keys = none → ¬overlay.IsBlocked keys →
          (∀ leaf, cleared.HoldsLeaf keys leaf ↔ doc.HoldsLeaf keys leaf) ∧
            (cleared.HoldsObject keys ↔ doc.HoldsObject keys)) := by
  have succeeds : (∃ cleared, doc.merge overlay true = .ok cleared) ↔
      ∃ plain, doc.merge overlay false = .ok plain := by
    rw [exists_merge_eq_ok_iff wellFormed overlayWellFormed,
      exists_merge_eq_ok_iff wellFormed overlayWellFormed]
  refine ⟨succeeds, ?_⟩
  intro plain cleared success deleting keys belowRoot
  have clearedAt := clearedAt_merge wellFormed overlayWellFormed success deleting belowRoot
  refine ⟨clearedAt.eq_none, clearedAt.agreeAt, ?_, ?_⟩
  · intro above isAbove noObject isNull
    have spares : ¬doc.IsErased overlay keys := fun erases => noObject (erases.2 above isAbove)
    have kept := getAt?_merge_of_overlay wellFormed overlayWellFormed success isNull (.inl rfl)
    exact (((clearedAt.agreeAt spares).1 null).mpr ⟨kept, rfl⟩).1
  · intro nothing free
    have spares : ¬doc.IsErased overlay keys := by
      rintro ⟨isNull, -⟩
      cases nothing.symm.trans isNull
    have kept := getAt?_merge_of_spared wellFormed overlayWellFormed success nothing free
    have agree := clearedAt.agreeAt spares
    simpa only [AgreeAt, HoldsLeaf, HoldsObject, kept] using agree

/-- Keys erased at the root and below it, the last member moving into the first place; a null for a
key that is not there; and a null that is copied with the object around it. -/
theorem merge_deleteNull_copied :
    let doc := obj [("a", bool true), ("b", obj [("x", bool true)]), ("c", str "c"), ("d", str "d")]
    let overlay := obj [("a", null), ("b", obj [("x", null), ("y", null)]), ("e", obj [("n", null)])]
    let cleared :=
      obj [("d", str "d"), ("b", obj []), ("c", str "c"), ("e", obj [("n", null)])]
    doc.merge overlay true = .ok cleared ∧ cleared.getAt? ["a"] = none ∧
      cleared.getAt? ["b", "x"] = none ∧ cleared.getAt? ["e", "n"] = some null ∧
      cleared.HoldsLeaf ["d"] (str "d") := by
  intro doc overlay cleared
  have wellFormed : doc.WellFormed := by
    simp [doc, WellFormed, MembersWellFormed, Members.keys]
  have overlayWellFormed : overlay.WellFormed := by
    simp [overlay, WellFormed, MembersWellFormed, Members.keys]
  have deleting : doc.merge overlay true = .ok cleared := rfl
  obtain ⟨⟨succeeds, -⟩, each⟩ := merge_deleteNull wellFormed overlayWellFormed
  obtain ⟨plain, success⟩ := succeeds ⟨cleared, deleting⟩
  have left := each plain cleared success deleting
  have erasedA : doc.IsErased overlay ["a"] :=
    isErased_cons_iff.mpr (isErasedBelow_nil_iff.mpr rfl)
  have erasedX : doc.IsErased overlay ["b", "x"] :=
    isErased_cons_iff.mpr (isErasedBelow_some_iff.mpr
      (isErased_cons_iff.mpr (isErasedBelow_nil_iff.mpr rfl)))
  have noObject : ¬doc.HoldsObject ["e"] := by
    rintro ⟨value, found, -⟩
    cases found
  have free : ¬overlay.IsBlocked ["d"] := by
    simp [isBlocked_cons, overlay, isObject, member?, Members.get?]
  have isAbove : Above ["e"] ["e", "n"] := above_cons_iff.mpr ⟨rfl, nil_above_cons "n" []⟩
  refine ⟨deleting, (left ["a"] (by decide)).1 erasedA, (left ["b", "x"] (by decide)).1 erasedX,
    ?_, ?_⟩
  · exact (left ["e", "n"] (by decide)).2.2.1 ["e"] isAbove noObject rfl
  · exact (((left ["d"] (by decide)).2.2.2 rfl free).1 (str "d")).mpr ⟨rfl, rfl⟩

end Json

end ChartParams
