import ChartParams.Attempt
import ChartParams.Proofs.Json.Merging

/-!
# The last writer of a place

After merging documents in order, a place holds what the last document that has a say about it put
there. A leaf lasts if no later document holds anything at its place or a leaf above it; an object
lasts if no later document holds a leaf at its place or above it.
-/

namespace ChartParams

namespace Json

open ChartParams.Path

variable {doc overlay merged leaf : Json} {keys : List String}

/-- A document leaves a leaf at a place as it is. -/
def SparesLeaf (keys : List String) (later : Json) : Prop :=
  later.getAt? keys = none ∧ ¬later.IsBlocked keys

/-- A document leaves an object at a place an object. -/
def SparesObject (keys : List String) (later : Json) : Prop :=
  (∀ leaf, ¬later.HoldsLeaf keys leaf) ∧ ¬later.IsBlocked keys

theorem holdsLeaf_merge_iff (wellFormed : doc.WellFormed) (overlayWellFormed : overlay.WellFormed)
    (success : doc.merge overlay false = .ok merged) :
    merged.HoldsLeaf keys leaf ↔
      overlay.HoldsLeaf keys leaf ∨ overlay.SparesLeaf keys ∧ doc.HoldsLeaf keys leaf := by
  have overlaid := overlaidAt_merge wellFormed overlayWellFormed success keys
  unfold HoldsLeaf SparesLeaf
  generalize merged.getAt? keys = result at overlaid ⊢
  cases overlaid with
  | leaf holds => simp [holds.1]
  | @object value holds isObject copied =>
      obtain ⟨object, found, overlayIsObject⟩ := holds
      constructor
      · rintro ⟨equality, notObject⟩
        cases equality
        exact absurd (isObject.symm.trans notObject) (by decide)
      · rintro (⟨equality, notObject⟩ | ⟨⟨nothing, -⟩, -⟩)
        · cases found.symm.trans equality
          exact absurd (overlayIsObject.symm.trans notObject) (by decide)
        · cases found.symm.trans nothing
  | blocked blocked => simp [blocked.getAt?_eq_none, blocked]
  | kept nothing free => simp [nothing, free]

theorem holdsObject_merge_iff (wellFormed : doc.WellFormed) (overlayWellFormed : overlay.WellFormed)
    (success : doc.merge overlay false = .ok merged) :
    merged.HoldsObject keys ↔
      overlay.HoldsObject keys ∨ overlay.SparesObject keys ∧ doc.HoldsObject keys := by
  have overlaid := overlaidAt_merge wellFormed overlayWellFormed success keys
  have blockedHoldsNothing (blocked : overlay.IsBlocked keys) : ¬overlay.HoldsObject keys := by
    rintro ⟨value, found, -⟩
    cases blocked.getAt?_eq_none.symm.trans found
  change (∃ value, merged.getAt? keys = some value ∧ value.isObject = true) ↔ _
  generalize merged.getAt? keys = result at overlaid ⊢
  cases overlaid with
  | @leaf value holds =>
      refine ⟨?_, ?_⟩
      · rintro ⟨other, equality, isObject⟩
        cases equality
        exact absurd (isObject.symm.trans holds.2) (by decide)
      · rintro (object | ⟨⟨noLeaf, -⟩, -⟩)
        · exact absurd object holds.not_holdsObject
        · exact absurd holds (noLeaf value)
  | object holds isObject copied =>
      exact ⟨fun _ => .inl holds, fun _ => ⟨_, rfl, isObject⟩⟩
  | blocked blocked =>
      refine ⟨?_, ?_⟩
      · rintro ⟨value, impossible, -⟩
        cases impossible
      · rintro (object | ⟨⟨-, free⟩, -⟩)
        · exact absurd object (blockedHoldsNothing blocked)
        · exact absurd blocked free
  | kept nothing free =>
      have noObject : ¬overlay.HoldsObject keys := by
        rintro ⟨value, found, -⟩
        cases nothing.symm.trans found
      have noLeaf (leaf : Json) : ¬overlay.HoldsLeaf keys leaf := fun holds => by
        cases nothing.symm.trans holds.1
      exact ⟨fun holds => .inr ⟨⟨noLeaf, free⟩, holds⟩,
        fun either => (either.resolve_left noObject).2⟩

/-- Some document of a list writes, and every later one spares what it wrote. -/
def LastWrites (writes spares : Json → Prop) (docs : List Json) : Prop :=
  ∃ before doc after, docs = before ++ doc :: after ∧ writes doc ∧ ∀ later ∈ after, spares later

theorem lastWrites_cons {writes spares : Json → Prop} {first : Json} {rest : List Json} :
    LastWrites writes spares (first :: rest) ↔
      LastWrites writes spares rest ∨ writes first ∧ ∀ later ∈ rest, spares later := by
  constructor
  · rintro ⟨before, doc, after, split, written, spared⟩
    rcases List.cons_eq_append_iff.mp split with ⟨rfl, here⟩ | ⟨before, rfl, below⟩
    · cases here
      exact .inr ⟨written, spared⟩
    · exact .inl ⟨before, doc, after, below, written, spared⟩
  · rintro (⟨before, doc, after, rfl, written, spared⟩ | ⟨written, spared⟩)
    · exact ⟨first :: before, doc, after, rfl, written, spared⟩
    · exact ⟨[], first, rest, rfl, written, spared⟩

/-- What one merge does to a property of documents, a run of merges does by its last writer. -/
theorem foldlM_merge_iff (writes spares : Json → Prop)
    (step : ∀ {doc overlay merged : Json}, doc.WellFormed → overlay.WellFormed →
      doc.merge overlay false = .ok merged →
        (writes merged ↔ writes overlay ∨ spares overlay ∧ writes doc))
    {start : Json} {docs : List Json} (startWellFormed : start.WellFormed)
    (wellFormed : ∀ doc ∈ docs, doc.WellFormed)
    (success : docs.foldlM (fun doc overlay => doc.merge overlay false) start = .ok merged) :
    writes merged ↔
      LastWrites writes spares docs ∨ (∀ later ∈ docs, spares later) ∧ writes start := by
  induction docs generalizing start with
  | nil =>
      cases success
      simp [LastWrites]
  | cons first rest inductionHypothesis =>
      rw [List.foldlM_cons] at success
      obtain ⟨next, result, success⟩ := bind_eq_ok_iff.mp success
      have firstWellFormed := wellFormed first List.mem_cons_self
      have nextWellFormed := startWellFormed.merge firstWellFormed result
      have restWellFormed (doc : Json) (later : doc ∈ rest) : doc.WellFormed :=
        wellFormed doc (List.mem_cons_of_mem _ later)
      rw [inductionHypothesis nextWellFormed restWellFormed success,
        step startWellFormed firstWellFormed result, lastWrites_cons, List.forall_mem_cons]
      constructor
      · rintro (last | ⟨spared, written | ⟨sparesFirst, started⟩⟩)
        · exact .inl (.inl last)
        · exact .inl (.inr ⟨written, spared⟩)
        · exact .inr ⟨⟨sparesFirst, spared⟩, started⟩
      · rintro ((last | ⟨written, spared⟩) | ⟨⟨sparesFirst, spared⟩, started⟩)
        · exact .inl last
        · exact .inr ⟨spared, .inl written⟩
        · exact .inr ⟨spared, .inr ⟨sparesFirst, started⟩⟩

/-- After a merge of many documents, a place below the root holds a leaf exactly if some document
holds that leaf there and every later one spares it, and an object exactly if some document holds an
object there and every later one spares that. -/
theorem mergeAll_lastWriter {docs : List Json} (wellFormed : ∀ doc ∈ docs, doc.WellFormed)
    (success : mergeAll docs = .ok merged) (belowRoot : keys ≠ []) :
    (∀ leaf, merged.HoldsLeaf keys leaf ↔
      ∃ before doc after, docs = before ++ doc :: after ∧ doc.HoldsLeaf keys leaf ∧
        ∀ later ∈ after, later.getAt? keys = none ∧ ¬later.IsBlocked keys) ∧
    (merged.HoldsObject keys ↔
      ∃ before doc after, docs = before ++ doc :: after ∧ doc.HoldsObject keys ∧
        ∀ later ∈ after, (∀ leaf, ¬later.HoldsLeaf keys leaf) ∧ ¬later.IsBlocked keys) := by
  have emptyWellFormed : (obj []).WellFormed := wellFormed_obj_iff.mpr ⟨List.nodup_nil, by simp⟩
  have emptyHoldsNothing : (obj []).getAt? keys = none := by
    cases keys with
    | nil => exact absurd rfl belowRoot
    | cons key rest => rfl
  constructor
  · intro leaf
    have run := foldlM_merge_iff (·.HoldsLeaf keys leaf) (SparesLeaf keys) holdsLeaf_merge_iff
      emptyWellFormed wellFormed success
    refine run.trans (or_iff_left ?_)
    rintro ⟨-, found, -⟩
    cases emptyHoldsNothing.symm.trans found
  · have run := foldlM_merge_iff (·.HoldsObject keys) (SparesObject keys) holdsObject_merge_iff
      emptyWellFormed wellFormed success
    refine run.trans (or_iff_left ?_)
    rintro ⟨-, value, found, -⟩
    cases emptyHoldsNothing.symm.trans found

/-- A leaf between two objects: the last document starts a new object, so what the first one held
beside it is gone. -/
theorem mergeAll_lastWriter_sandwich :
    let first := obj [("a", obj [("b", bool true), ("c", bool true)])]
    let second := obj [("a", bool false)]
    let third := obj [("a", obj [("c", null)])]
    (∀ doc ∈ [first, second, third], doc.WellFormed) ∧
      mergeAll [first, second, third] = .ok third ∧
      third.HoldsLeaf ["a", "c"] null ∧ third.HoldsObject ["a"] ∧
      ¬third.HoldsLeaf ["a", "b"] (bool true) := by
  intro first second third
  have wellFormed : ∀ doc ∈ [first, second, third], doc.WellFormed := by
    simp [first, second, third, WellFormed, MembersWellFormed, Members.keys]
  have success : mergeAll [first, second, third] = .ok third := rfl
  have atC := mergeAll_lastWriter wellFormed success (show ["a", "c"] ≠ [] by decide)
  have atA := mergeAll_lastWriter wellFormed success (show ["a"] ≠ [] by decide)
  have atB := mergeAll_lastWriter wellFormed success (show ["a", "b"] ≠ [] by decide)
  refine ⟨wellFormed, success, ?_, ?_, fun holds => ?_⟩
  · exact (atC.1 null).mpr ⟨[first, second], third, [], rfl, ⟨rfl, rfl⟩, by simp⟩
  · exact atA.2.mpr ⟨[first, second], third, [], rfl, ⟨_, rfl, rfl⟩, by simp⟩
  · obtain ⟨before, doc, after, split, written, spared⟩ := (atB.1 _).mp holds
    have blocked : second.IsBlocked ["a", "b"] :=
      ⟨["a"], bool false, ⟨⟨["b"], rfl⟩, by decide⟩, rfl, rfl⟩
    rcases before with _ | ⟨_, _ | ⟨_, _ | ⟨_, before⟩⟩⟩ <;>
      simp only [List.nil_append, List.cons_append, List.cons.injEq] at split
    · obtain ⟨-, rfl⟩ := split
      exact (spared second (by simp)).2 blocked
    · obtain ⟨-, rfl, -⟩ := split
      cases written.1
    · obtain ⟨-, -, rfl, -⟩ := split
      cases written.1
    · simp at split

end Json

end ChartParams
