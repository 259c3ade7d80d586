import ChartParams.Overrides
import ChartParams.Proofs.Json.Deleting
import ChartParams.Proofs.Json.MergeOrder
import ChartParams.Proofs.Json.Reading
import ChartParams.Proofs.Params.Assembly

/-!
# Overrides as writes

Overrides are written into a document of their own, which is then merged. That comes to the same as
writing them into the document itself, if no two of their keys lead one below the other and their
values are no objects. One write is compared at all places of a merge at once
(`Json.exists_setAtFrom_mergedAt`): what it does to the overlay, the merge does to the document. The
run over all arguments needs to know of the overlay only that it has no leaf above a key that is
still to be written, which holds because the document of the overrides is assembled from writes
apart.
-/

namespace ChartParams

namespace Members

variable {room : Nat} {members changes merged : Members} {key : String} {new result : Json}

/-- An overlay with another value at one key merges to what is there at the other keys, and to what
that value merges to at its own. -/
theorem mergeWithin_put (distinct : members.keys.Nodup) (overlayDistinct : changes.keys.Nodup)
    (success : mergeWithin false (room + 1) members changes = .ok merged)
    (atKey : MergedAt false room (members.get? key) (some new) (some result)) :
    mergeWithin false (room + 1) members (changes.put key new) = .ok (merged.put key result) := by
  obtain ⟨keysMerged, mergedAt⟩ := (mergeWithin_eq_ok_iff distinct overlayDistinct).mp success
  apply (mergeWithin_eq_ok_iff distinct (nodup_keys_put overlayDistinct)).mpr
  constructor
  · have isMerged : key ∈ merged.keys ↔ key ∈ members.keys ∨ key ∈ changes.keys := by
      rw [keysMerged]
      by_cases isOld : key ∈ members.keys <;> simp [isOld]
    rw [keys_put, keys_put]
    by_cases given : key ∈ changes.keys
    · rw [if_pos given, if_pos (isMerged.mpr (.inr given)), keysMerged]
    · by_cases isOld : key ∈ members.keys
      · rw [if_neg given, if_pos (isMerged.mpr (.inl isOld)), keysMerged]
        simp [isOld]
      · have isFresh : key ∉ merged.keys := fun present =>
          (isMerged.mp present).elim isOld given
        rw [if_neg given, if_neg isFresh, keysMerged]
        simp [isOld]
  · intro other
    rw [get?_put, get?_put]
    split
    case isTrue same => exact same ▸ atKey
    case isFalse different => exact mergedAt other

end Members

namespace Json

open ChartParams.Path Members

variable {room : Nat} {doc value written : Json} {old new merged : Option Json} {name : String}
  {keys : List String}

/-- The members that an overlay has for an object, if a write is not blocked there: none if the
overlay has nothing. -/
theorem exists_changes_of_mergedAt {members : Members} {key : String}
    (mergedAt : MergedAt false (room + 1) (some (obj members)) new merged)
    (overlayWellFormed : ∀ overlay, new = some overlay → overlay.WellFormed)
    (free : ∀ overlay, new = some overlay → ¬overlay.IsBlocked (key :: keys)) :
    ∃ changes mergedMembers, (new.getD null).writableMembers? = some changes ∧
      merged = some (obj mergedMembers) ∧
      mergeWithin false (room + 1) members changes = .ok mergedMembers ∧
      (obj changes).WellFormed ∧
      ∀ overlay, changes.get? key = some overlay → ¬overlay.IsBlocked keys := by
  cases new with
  | none =>
      have noneWellFormed : (obj []).WellFormed := wellFormed_obj_iff.mpr ⟨List.nodup_nil, nofun⟩
      exact ⟨[], members, rfl, mergedAt.eq_of_none, rfl, noneWellFormed, nofun⟩
  | some overlay =>
      have isObject : overlay.isObject = true := by
        cases shape : overlay.isObject with
        | true => rfl
        | false => exact absurd (isBlocked_cons.mpr (.inl shape)) (free overlay rfl)
      obtain ⟨changes, rfl⟩ := exists_obj_of_isObject isObject
      obtain ⟨mergedMembers, success, isMerged⟩ := mergedAt.exists_merged
      refine ⟨changes, mergedMembers, rfl, isMerged, success, overlayWellFormed _ rfl, ?_⟩
      intro child given blocked
      exact free _ rfl (isBlocked_cons.mpr (.inr ⟨child, given, blocked⟩))

theorem getD_eq_of_mergedAt (mergedAt : MergedAt false room old new merged)
    (notObject : ∀ value, old = some value → value.isObject = false)
    (writable : (merged.getD null).writableMembers? ≠ none) :
    merged.getD null = new.getD null := by
  cases new with
  | none =>
      rw [mergedAt.eq_of_none] at writable ⊢
      cases old with
      | none => rfl
      | some value =>
          have isLeaf := notObject value rfl
          cases value with
          | null => rfl
          | obj members => cases isLeaf
          | _ => exact absurd rfl writable
  | some overlay =>
      rw [mergedAt.eq_new]
      intro value isOld isObject
      cases (notObject value isOld).symm.trans isObject

/-- A write into what a value and an overlay merge to is a write into the overlay, if the value that
is written is a leaf and no leaf of the overlay is above it. -/
theorem exists_setAtFrom_mergedAt (wellFormed : ∀ value, old = some value → value.WellFormed)
    (overlayWellFormed : ∀ value, new = some value → value.WellFormed)
    (notObject : value.isObject = false) (short : keys.length ≤ room)
    (mergedAt : MergedAt false room old new merged)
    (free : ∀ overlay, new = some overlay → ¬overlay.IsBlocked keys)
    (writes : setAtFrom value name keys (merged.getD null) = .ok written) :
    ∃ changed, setAtFrom value name keys (new.getD null) = .ok changed ∧
      MergedAt false room old (some changed) (some written) := by
  induction keys generalizing room old new merged written name with
  | nil =>
      cases writes
      exact ⟨value, rfl, .replaced rfl fun _ _ _ => notObject⟩
  | cons key rest inductionHypothesis =>
      have deeper : ∃ below, room = below + 1 :=
        Nat.exists_eq_succ_of_ne_zero (Nat.ne_of_gt (Nat.lt_of_lt_of_le (Nat.succ_pos _) short))
      obtain ⟨room, rfl⟩ := deeper
      obtain ⟨intoMembers, child, writable, below, rfl⟩ := setAtFrom_cons_eq_ok.mp writes
      by_cases onObject : ∃ members, old = some (obj members)
      · obtain ⟨members, rfl⟩ := onObject
        obtain ⟨changes, mergedMembers, overlayWritable, rfl, success, changesWellFormed,
          freeBelow⟩ := exists_changes_of_mergedAt mergedAt overlayWellFormed free
        have membersWellFormed : (obj members).WellFormed := wellFormed _ rfl
        have distinct := membersWellFormed.nodup_keys
        have overlayDistinct := changesWellFormed.nodup_keys
        have atKey := (mergedAt_mergeWithin distinct overlayDistinct success).1 key
        obtain ⟨changed, writesBelow, changedAt⟩ := inductionHypothesis
          (fun _ => membersWellFormed.get?) (fun _ => changesWellFormed.get?)
          (Nat.le_of_succ_le_succ short) atKey freeBelow below
        cases writable
        refine ⟨obj (changes.put key changed), ?_, ?_⟩
        · refine setAtFrom_cons_eq_ok.mpr ⟨changes, changed, overlayWritable, ?_, rfl⟩
          rwa [← get?_writableMembers overlayWritable]
        · exact .mergedObjects (mergeWithin_put distinct overlayDistinct success changedAt)
      · have noObject (value : Json) (isOld : old = some value) : value.isObject = false := by
          cases shape : value.isObject with
          | false => rfl
          | true =>
              obtain ⟨members, rfl⟩ := exists_obj_of_isObject shape
              exact absurd ⟨members, isOld⟩ onObject
        have same := getD_eq_of_mergedAt mergedAt noObject (writable ▸ nofun)
        refine ⟨_, same ▸ writes, .replaced rfl ?_⟩
        intro value isOld isObject
        cases (noObject value isOld).symm.trans isObject

theorem merge_of_mergedAt {overlay result : Json}
    (mergedAt : MergedAt false (maxMergeDepth + 1) (some doc) (some overlay) (some result)) :
    doc.merge overlay false = .ok result := by
  cases mergedAt with
  | replaced _ notBoth =>
      apply merge_of_not_objects
      rintro ⟨isObject, overlayIsObject⟩
      cases overlayIsObject.symm.trans (notBoth doc rfl isObject)
  | mergedObjects success => exact merge_objects_eq_ok_iff.mpr ⟨_, success, rfl⟩

def setAll (doc : Json) (writes : List Write) : Except Path.Fault Json :=
  writes.foldlM (fun doc write => doc.set write.path write.value) doc

theorem setAll_cons_eq_ok_iff {doc result : Json} {write : Write} {writes : List Write} :
    doc.setAll (write :: writes) = .ok result ↔
      ∃ next, doc.set write.path write.value = .ok next ∧ next.setAll writes = .ok result := by
  rw [setAll, List.foldlM_cons]
  exact bind_eq_ok_iff

/-- Writing leaves apart from each other into what a document and assembled overrides merge to is
writing them into the overrides. -/
theorem exists_merge_of_writes {before later : List Write} {overrides current : Json}
    (wellFormed : doc.WellFormed) (assembled : Assembled before overrides)
    (merges : doc.merge overrides false = .ok current)
    (valid : ∀ write ∈ later, (∀ key ∈ write.keys, key ≠ "") ∧ write.keys.length ≤ maxMergeDepth)
    (leaves : ∀ write ∈ later, write.value.WellFormed ∧ write.value.isObject = false)
    (apart : (before ++ later).Pairwise fun first second => Apart first.keys second.keys)
    (success : current.setAll later = .ok written) :
    ∃ result, overrides.setAll later = .ok result ∧ doc.merge result false = .ok written := by
  induction later generalizing before overrides current with
  | nil =>
      cases success
      exact ⟨overrides, rfl, merges⟩
  | cons write rest inductionHypothesis =>
      obtain ⟨next, writes, success⟩ := setAll_cons_eq_ok_iff.mp success
      rw [List.forall_mem_cons] at valid leaves
      have free : ¬overrides.IsBlocked write.keys := by
        apply assembled.not_isBlocked_of_apart
        intro earlier inBefore
        exact (List.pairwise_append.mp apart).2.2 earlier inBefore write List.mem_cons_self
      rw [set_of_valid valid.1.1] at writes
      obtain ⟨changed, changes, mergedAt⟩ := exists_setAtFrom_mergedAt
        (fun _ isDoc => Option.some.inj isDoc ▸ wellFormed)
        (fun _ isOverlay => Option.some.inj isOverlay ▸ assembled.wellFormed)
        leaves.1.2 (Nat.le_succ_of_le valid.1.2) (mergedAt_merge merges)
        (fun _ isOverlay => Option.some.inj isOverlay ▸ free) writes
      have sets : overrides.set write.path write.value = .ok changed := by
        rw [set_of_valid valid.1.1]
        exact changes
      obtain ⟨result, others, mergesAll⟩ := inductionHypothesis
        (assembled.write write leaves.1.1 sets) (merge_of_mergedAt mergedAt) valid.2 leaves.2
        (by simpa using apart) success
      exact ⟨result, setAll_cons_eq_ok_iff.mpr ⟨changed, sets, others⟩, mergesAll⟩

end Json

namespace Overrides

open ChartParams.Path

/-- What an argument `key=value` sets: a path, which has no equals sign, and the text of a value. -/
structure Setting where
  path : String
  text : String
  noEquals : '=' ∉ path.toList

def Setting.argument (setting : Setting) : String := setting.path ++ "=" ++ setting.text

def Setting.write (setting : Setting) : Write := ⟨setting.path, infer setting.text⟩

theorem splitAtEquals?_append {key value : List Char} (noEquals : '=' ∉ key) :
    splitAtEquals? (key ++ '=' :: value) = some (key, value) := by
  induction key with
  | nil => rfl
  | cons c rest inductionHypothesis =>
      rw [List.mem_cons, not_or] at noEquals
      rw [List.cons_append, splitAtEquals?, inductionHypothesis noEquals.2]
      · rfl
      · exact Ne.symm noEquals.1

theorem apply_argument (doc : Json) (setting : Setting) :
    apply doc setting.argument = doc.write setting.write.path setting.write.value := by
  have isText : setting.argument.toList = setting.path.toList ++ '=' :: setting.text.toList := by
    simp [Setting.argument]
  rw [apply, isText, splitAtEquals?_append setting.noEquals]
  simp [Setting.write]

theorem infer_wellFormed (text : String) : (infer text).WellFormed := by
  have parsed : ((Json.parse? text).getD (.str text)).WellFormed := by
    cases read : Json.parse? text with
    | none => trivial
    | some doc => exact Json.WellFormed.of_parse? read
  unfold infer
  split
  · trivial
  split
  · trivial
  split
  · trivial
  cases number? text with
  | some n => trivial
  | none =>
      dsimp only
      split
      · exact parsed
      · exact parsed
      · trivial

theorem foldlM_apply_eq_ok_iff {start result : Json} {settings : List Setting} :
    (settings.map Setting.argument).foldlM apply start = .ok result ↔
      start.setAll (settings.map Setting.write) = .ok result := by
  induction settings generalizing start with
  | nil =>
      constructor
      · intro same
        cases same
        rfl
      · intro same
        cases same
        rfl
  | cons setting rest inductionHypothesis =>
      rw [List.map_cons, List.map_cons, List.foldlM_cons, apply_argument, Json.write,
        Json.setAll_cons_eq_ok_iff]
      refine bind_eq_ok_iff.trans ?_
      simp only [mapError_eq_ok_iff, inductionHypothesis]

variable {doc written : Json}

/-- If the values of settings can be written one after another into a document, their arguments
describe overrides, and these merge into the document to the same result, with the order of members.
No path may lead to or below another one or have more than 64 keys, and no value may be an
object. -/
theorem merge_parse (wellFormed : doc.WellFormed) (isObject : doc.isObject = true)
    {settings : List Setting}
    (valid : ∀ setting ∈ settings, (∀ key ∈ split setting.path, key ≠ "") ∧
      (split setting.path).length ≤ 64)
    (apart : settings.Pairwise fun first second => Apart (split first.path) (split second.path))
    (leaves : ∀ setting ∈ settings, (infer setting.text).isObject = false)
    (success : doc.setAll (settings.map Setting.write) = .ok written) :
    ∃ overrides, parse (settings.map Setting.argument) = .ok overrides ∧
      doc.merge overrides false = .ok written := by
  obtain ⟨members, rfl⟩ := Json.exists_obj_of_isObject isObject
  have unchanged : (Json.obj members).merge (.obj []) false = .ok (.obj members) := rfl
  have leavesWritten (setting : Setting) (isSetting : setting ∈ settings) :
      setting.write.value.WellFormed ∧ setting.write.value.isObject = false :=
    ⟨infer_wellFormed setting.text, leaves setting isSetting⟩
  obtain ⟨overrides, written, merges⟩ := Json.exists_merge_of_writes wellFormed .empty unchanged
    (List.forall_mem_map.mpr valid) (List.forall_mem_map.mpr leavesWritten)
    (List.pairwise_map.mpr apart) success
  exact ⟨overrides, foldlM_apply_eq_ok_iff.mpr written, merges⟩

/-- A key below null, an equals sign in a text, and a key that goes behind one that is set later. -/
theorem merge_parse_through_null :
    let settings : List Setting :=
      [⟨"web.off.deep", "null", by decide⟩, ⟨"web.note", "a=b", by decide⟩, ⟨"tag", "7", by decide⟩]
    let doc := Json.obj [("tag", .obj []), ("web", .obj [("off", .null), ("on", .bool true)])]
    let written := Json.obj [("tag", .num (.int 7 (by decide))),
      ("web", .obj [("off", .obj [("deep", .null)]), ("on", .bool true), ("note", .str "a=b")])]
    settings.map Setting.argument = ["web.off.deep=null", "web.note=a=b", "tag=7"] ∧
    doc.setAll (settings.map Setting.write) = .ok written ∧
    ∃ overrides, parse (settings.map Setting.argument) = .ok overrides ∧
      doc.merge overrides false = .ok written := by
  intro settings doc written
  have wellFormed : doc.WellFormed := by
    simp [doc, Json.WellFormed, Json.MembersWellFormed, Members.keys]
  have valid : ∀ setting ∈ settings, (∀ key ∈ split setting.path, key ≠ "") ∧
      (split setting.path).length ≤ 64 := by decide +kernel
  have apart : settings.Pairwise fun first second =>
      Apart (split first.path) (split second.path) := by decide +kernel
  have leaves : ∀ setting ∈ settings, (infer setting.text).isObject = false := by decide +kernel
  have success : doc.setAll (settings.map Setting.write) = .ok written := rfl
  exact ⟨rfl, success, merge_parse wellFormed rfl valid apart leaves success⟩

end Overrides

end ChartParams
