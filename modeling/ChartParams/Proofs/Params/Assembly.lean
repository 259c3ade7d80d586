import ChartParams.Proofs.Json.Merging
import ChartParams.Proofs.Json.Writing

/-!
# Assembled documents

A document is assembled if it comes from the empty object by writing values and by merging assembled
documents. `Assembled writes doc` keeps the writes in their order, those of an overlay after those
of the document below it. Such a document holds nothing but what its writes put there, and a write
lasts if all later ones are apart from it.
-/

namespace ChartParams

open ChartParams.Path

/-- A value and the path at which it is written. -/
structure Write where
  path : String
  value : Json

def Write.keys (write : Write) : List String := split write.path

/-- The document is built by the writes, which are in order. -/
inductive Assembled : List Write → Json → Prop
  | empty : Assembled [] (.obj [])
  | write (write : Write) {writes : List Write} {doc written : Json}
      (below : Assembled writes doc) (wellFormed : write.value.WellFormed)
      (success : doc.set write.path write.value = .ok written) :
      Assembled (writes ++ [write]) written
  | merge {writes later : List Write} {doc overlay merged : Json} (below : Assembled writes doc)
      (above : Assembled later overlay) (success : doc.merge overlay false = .ok merged) :
      Assembled (writes ++ later) merged

theorem append_eq_append_cons {α : Type} {first second before after : List α} {item : α}
    (split : first ++ second = before ++ item :: after) :
    (∃ rest, first = before ++ item :: rest ∧ after = rest ++ second) ∨
      ∃ rest, before = first ++ rest ∧ second = rest ++ item :: after := by
  rcases List.append_eq_append_iff.mp split with
    ⟨rest, isBefore, isSecond⟩ | ⟨rest, isFirst, isRest⟩
  · exact .inr ⟨rest, isBefore, isSecond⟩
  · rcases List.cons_eq_append_iff.mp isRest with ⟨rfl, isSecond⟩ | ⟨rest, rfl, isAfter⟩
    · exact .inr ⟨[], by simpa using isFirst.symm, isSecond⟩
    · exact .inl ⟨rest, isFirst, isAfter⟩

namespace Assembled

variable {writes later : List Write} {doc overlay : Json} {place : List String}

theorem wellFormed (assembled : Assembled writes doc) : doc.WellFormed := by
  induction assembled with
  | empty => exact Json.wellFormed_obj_iff.mpr ⟨List.nodup_nil, by simp⟩
  | write _ _ valueWellFormed success inductionHypothesis =>
      exact inductionHypothesis.setAtFrom valueWellFormed (Json.set_eq_ok_iff.mp success).2
  | merge _ _ success docHypothesis overlayHypothesis =>
      exact docHypothesis.merge overlayHypothesis success

theorem holdsObject_root (assembled : Assembled writes doc) : doc.HoldsObject [] := by
  induction assembled with
  | empty => exact ⟨_, rfl, rfl⟩
  | write write _ _ success =>
      have written := (Json.set_eq_ok_iff.mp success).2
      cases keys : split write.path with
      | nil => exact absurd keys (split_ne_nil _)
      | cons key rest =>
          rw [keys] at written
          obtain ⟨members, child, -, -, rfl⟩ := Json.setAtFrom_cons_eq_ok.mp written
          exact ⟨_, rfl, rfl⟩
  | merge _ above success _ overlayHypothesis =>
      obtain ⟨value, found, isObject⟩ := overlayHypothesis
      cases found
      cases Json.mergedAt_merge success with
      | replaced => exact ⟨_, rfl, isObject⟩
      | mergedObjects => exact ⟨_, rfl, rfl⟩

theorem valid (assembled : Assembled writes doc) :
    ∀ write ∈ writes, ∀ key ∈ write.keys, key ≠ "" := by
  induction assembled with
  | empty => simp
  | write write _ _ success inductionHypothesis =>
      rw [List.forall_mem_append, List.forall_mem_singleton]
      exact ⟨inductionHypothesis, (Json.set_eq_ok_iff.mp success).1⟩
  | merge _ _ _ docHypothesis overlayHypothesis =>
      exact List.forall_mem_append.mpr ⟨docHypothesis, overlayHypothesis⟩

/-- A write makes every place above its own into an object. -/
theorem holdsObject_above_write {write : Write} {written : Json}
    (success : doc.set write.path write.value = .ok written) (above : Above place write.keys) :
    written.HoldsObject place :=
  Json.holdsObject_above (Json.getAt?_setAtFrom_self (Json.set_eq_ok_iff.mp success).2) above

theorem getAt?_write_apart {write : Write} {written : Json}
    (success : doc.set write.path write.value = .ok written) (apart : Apart write.keys place) :
    written.getAt? place = doc.getAt? place :=
  Json.getAt?_setAtFrom_apart (Json.set_eq_ok_iff.mp success).2 apart

/-- Every place of an assembled document is on the way to a write or belongs to its value. -/
theorem exists_write_of_getAt? (assembled : Assembled writes doc) {value : Json}
    (found : doc.getAt? place = some value) (belowRoot : place ≠ []) :
    ∃ write ∈ writes, write.keys <+: place ∨ place <+: write.keys := by
  induction assembled generalizing value with
  | empty =>
      cases place with
      | nil => exact absurd rfl belowRoot
      | cons key rest => cases found
  | write write _ _ success inductionHypothesis =>
      by_cases apart : Apart write.keys place
      · rw [getAt?_write_apart success apart] at found
        obtain ⟨earlier, membership, onWay⟩ := inductionHypothesis found
        exact ⟨earlier, List.mem_append_left _ membership, onWay⟩
      · refine ⟨write, List.mem_append_right _ List.mem_cons_self, ?_⟩
        exact Decidable.or_iff_not_not_and_not.mpr apart
  | @merge writes later doc overlay merged below above success docHypothesis overlayHypothesis =>
      have overlaid := Json.overlaidAt_merge below.wellFormed above.wellFormed success place
      have fromOverlay (value : Json) (present : overlay.getAt? place = some value) :
          ∃ write ∈ writes ++ later, write.keys <+: place ∨ place <+: write.keys := by
        obtain ⟨write, membership, onWay⟩ := overlayHypothesis present
        exact ⟨write, List.mem_append_right _ membership, onWay⟩
      rw [found] at overlaid
      generalize atPlace : doc.getAt? place = old at overlaid
      cases overlaid with
      | leaf holds => exact fromOverlay _ holds.1
      | object holds =>
          obtain ⟨value, present, -⟩ := holds
          exact fromOverlay _ present
      | kept =>
          obtain ⟨write, membership, onWay⟩ := docHypothesis atPlace
          exact ⟨write, List.mem_append_left _ membership, onWay⟩

theorem exists_write_of_holdsLeaf (assembled : Assembled writes doc) {leaf : Json}
    (holds : doc.HoldsLeaf place leaf) : ∃ write ∈ writes, write.keys <+: place := by
  induction assembled generalizing leaf with
  | empty =>
      cases place with
      | nil => exact absurd Assembled.empty.holdsObject_root holds.not_holdsObject
      | cons key rest => cases holds.1
  | write write _ _ success inductionHypothesis =>
      by_cases apart : Apart write.keys place
      · rw [Json.HoldsLeaf, getAt?_write_apart success apart] at holds
        obtain ⟨earlier, membership, begins⟩ := inductionHypothesis holds
        exact ⟨earlier, List.mem_append_left _ membership, begins⟩
      · refine ⟨write, List.mem_append_right _ List.mem_cons_self, ?_⟩
        rcases Decidable.or_iff_not_not_and_not.mpr apart with begins | inside
        · exact begins
        · by_cases same : place = write.keys
          · exact same ▸ List.prefix_rfl
          · exact absurd (holdsObject_above_write success ⟨inside, same⟩) holds.not_holdsObject
  | @merge writes later doc overlay merged below above success docHypothesis overlayHypothesis =>
      have overlaid := Json.overlaidAt_merge below.wellFormed above.wellFormed success place
      rw [holds.1] at overlaid
      generalize atPlace : doc.getAt? place = old at overlaid
      cases overlaid with
      | leaf overlayHolds =>
          obtain ⟨write, membership, begins⟩ := overlayHypothesis overlayHolds
          exact ⟨write, List.mem_append_right _ membership, begins⟩
      | object _ isObject => cases isObject.symm.trans holds.2
      | kept =>
          obtain ⟨write, membership, begins⟩ := docHypothesis ⟨atPlace, holds.2⟩
          exact ⟨write, List.mem_append_left _ membership, begins⟩

/-- Nothing is at a place from which every write is apart. -/
theorem getAt?_eq_none_of_apart (assembled : Assembled writes doc) (belowRoot : place ≠ [])
    (apart : ∀ write ∈ writes, Apart write.keys place) : doc.getAt? place = none := by
  rw [Option.eq_none_iff_forall_not_mem]
  intro value found
  obtain ⟨write, membership, onWay⟩ := assembled.exists_write_of_getAt? found belowRoot
  have separate := apart write membership
  exact onWay.elim separate.1 separate.2

/-- No leaf is above a place from which every write is apart. -/
theorem not_isBlocked_of_apart (assembled : Assembled writes doc)
    (apart : ∀ write ∈ writes, Apart write.keys place) : ¬doc.IsBlocked place := by
  rintro ⟨above, leaf, isAbove, holds⟩
  obtain ⟨write, membership, begins⟩ := assembled.exists_write_of_holdsLeaf holds
  exact (apart write membership).1 (begins.trans isAbove.1)

/-- A write lasts if every later one is apart from it and nothing is merged into its value. -/
theorem getAt?_of_lastWrite (assembled : Assembled writes doc) {before after : List Write}
    {write : Write} (split : writes = before ++ write :: after)
    (last : ∀ later ∈ after, Apart write.keys later.keys)
    (unmerged : write.value.isObject = false ∨ ∀ earlier ∈ before, Apart write.keys earlier.keys) :
    doc.getAt? write.keys = some write.value := by
  induction assembled generalizing before after with
  | empty => simp at split
  | write next _ _ success inductionHypothesis =>
      rcases append_eq_append_cons split with ⟨rest, isWrites, rfl⟩ | ⟨rest, rfl, isLast⟩
      · have apart := last next (List.mem_append_right _ List.mem_cons_self)
        rw [getAt?_write_apart success apart.symm]
        exact inductionHypothesis isWrites
          (fun later membership => last later (List.mem_append_left _ membership)) unmerged
      · have isNext : write ∈ [next] := isLast ▸ List.mem_append_right _ List.mem_cons_self
        cases List.mem_singleton.mp isNext
        exact Json.getAt?_setAtFrom_self (Json.set_eq_ok_iff.mp success).2
  | @merge writes later doc overlay merged below above success docHypothesis overlayHypothesis =>
      have place : write.keys ≠ [] := split_ne_nil _
      rcases append_eq_append_cons split with ⟨rest, isWrites, rfl⟩ | ⟨rest, rfl, isLater⟩
      · have apart (next : Write) (membership : next ∈ later) : Apart next.keys write.keys :=
          (last next (List.mem_append_right _ membership)).symm
        rw [Json.getAt?_merge_of_spared below.wellFormed above.wellFormed success
          (above.getAt?_eq_none_of_apart place apart) (above.not_isBlocked_of_apart apart)]
        exact docHypothesis isWrites
          (fun next membership => last next (List.mem_append_left _ membership)) unmerged
      · have found := overlayHypothesis isLater last
          (unmerged.imp_right fun apart next membership =>
            apart next (List.mem_append_right _ membership))
        refine Json.getAt?_merge_of_overlay below.wellFormed above.wellFormed success found ?_
        refine unmerged.imp_right fun apart => below.getAt?_eq_none_of_apart place ?_
        exact fun next membership => (apart next (List.mem_append_left _ membership)).symm

theorem getAt?_of_mem (assembled : Assembled writes doc)
    (apart : writes.Pairwise fun first second => Apart first.keys second.keys) {write : Write}
    (membership : write ∈ writes) : doc.getAt? write.keys = some write.value := by
  obtain ⟨before, after, rfl⟩ := List.append_of_mem membership
  rw [List.pairwise_append, List.pairwise_cons] at apart
  refine assembled.getAt?_of_lastWrite rfl apart.2.1.1 (.inr fun earlier inBefore => ?_)
  exact (apart.2.2 earlier inBefore write List.mem_cons_self).symm

theorem path_isEmpty (assembled : Assembled writes doc) {write : Write}
    (membership : write ∈ writes) : write.path.isEmpty = false :=
  Json.isEmpty_of_valid (assembled.valid write membership)

theorem get?_path (assembled : Assembled writes doc) {write : Write} (membership : write ∈ writes) :
    doc.get? write.path = doc.getAt? write.keys :=
  Json.get?_eq_getAt? (assembled.path_isEmpty membership)

/-- A write succeeds if every earlier one is apart from it and it names no empty key. -/
theorem exists_set_eq_ok (assembled : Assembled writes doc) (write : Write)
    (valid : ∀ key ∈ write.keys, key ≠ "")
    (apart : ∀ earlier ∈ writes, Apart earlier.keys write.keys) :
    ∃ written, doc.set write.path write.value = .ok written := by
  have free (above : List String) : ¬doc.IsConflict write.keys above := by
    rintro ⟨isAbove, leaf, holds, -⟩
    exact assembled.not_isBlocked_of_apart apart ⟨above, leaf, isAbove, holds⟩
  rw [Json.set_of_valid valid]
  exact Json.exists_setAtFrom_iff.mpr free

/-- Documents whose writes are apart and not too deep can be merged: a common object is on the way
to a write of each, and so not as deep as either. -/
theorem exists_merge_eq_ok (below : Assembled writes doc) (above : Assembled later overlay)
    (apart : ∀ first ∈ writes, ∀ second ∈ later, Apart first.keys second.keys)
    (short : ∀ write ∈ writes ++ later, write.keys.length ≤ maxMergeDepth) :
    ∃ merged, doc.merge overlay false = .ok merged := by
  apply Json.exists_merge_eq_ok below.wellFormed above.wellFormed
  intro place length holds overlayHolds
  obtain ⟨value, found, -⟩ := holds
  obtain ⟨overlayValue, overlayFound, -⟩ := overlayHolds
  have belowRoot : place ≠ [] := by
    rintro rfl
    cases length
  have begins (write : Write) (membership : write ∈ writes ++ later)
      (onWay : write.keys <+: place ∨ place <+: write.keys) : write.keys <+: place := by
    apply onWay.resolve_right
    intro inside
    have bound := short write membership
    have longer := inside.length_le
    omega
  obtain ⟨first, firstIn, firstOnWay⟩ := below.exists_write_of_getAt? found belowRoot
  obtain ⟨second, secondIn, secondOnWay⟩ := above.exists_write_of_getAt? overlayFound belowRoot
  exact not_apart_of_prefix (begins first (List.mem_append_left _ firstIn) firstOnWay)
    (begins second (List.mem_append_right _ secondIn) secondOnWay)
    (apart first firstIn second secondIn)

end Assembled

end ChartParams
