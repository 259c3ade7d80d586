import ChartParams.Knob.Value
import ChartParams.Proofs.Json.Members

/-!
# Records that are read back

A structure is read back from the object that is written for it if the keys of its fields differ,
every field that is written is read back, and every field that is not written has the value that a
missing key stands for.
-/

namespace ChartParams

/-- A field can read the member at its key, or need not be there. -/
def Field.Fit {σ β : Type} (object : Members) (field : Field σ β) : Prop :=
  match object.get? field.key with
  | some item => ∃ content, field.format.decode item = .ok content
  | none => field.absent.isSome

namespace Fields

variable {σ α : Type} {value : σ} {key : String} {item : Json}

/-- A field that is written is read back, and a missing key stands for one that is not. -/
def Survive (value : σ) {α : Type} : Fields σ α → Prop
  | done => True
  | field first rest =>
      first.format.decode (first.format.encode (first.get value)) = .ok (first.get value) ∧
        (first.isWritten (first.get value) = false → first.absent = some (first.get value)) ∧
        rest.Survive value

section Survive

variable {β : Type} {format : Format β} {rest : Fields σ α}

theorem Survive.plain {get : σ → β} {absent : β} (readBack : format.LawfulAt (get value))
    (restSurvive : rest.Survive value) :
    (Fields.field (.plain key format get absent) rest).Survive value :=
  ⟨readBack, nofun, restSurvive⟩

theorem Survive.required {get : σ → β} (readBack : format.LawfulAt (get value))
    (restSurvive : rest.Survive value) :
    (Fields.field (.required key format get) rest).Survive value :=
  ⟨readBack, nofun, restSurvive⟩

theorem Survive.nullable {get : σ → Option β} (readBack : format.optional.LawfulAt (get value))
    (restSurvive : rest.Survive value) :
    (Fields.field (.nullable key format get) rest).Survive value :=
  ⟨readBack, nofun, restSurvive⟩

theorem Survive.omittable {get : σ → Option β} (readBack : format.optional.LawfulAt (get value))
    (restSurvive : rest.Survive value) :
    (Fields.field (.omittable key format get) rest).Survive value := by
  refine ⟨readBack, fun unwritten => ?_, restSurvive⟩
  change (get value).isSome = false at unwritten
  have missing : get value = none := by simpa using unwritten
  exact congrArg some missing.symm

end Survive

theorem key_mem_of_mem_members {fields : Fields σ α}
    (membership : (key, item) ∈ fields.members value) : key ∈ fields.keys := by
  induction fields with
  | done => cases membership
  | field first rest inductionHypothesis =>
      simp only [members] at membership
      split at membership
      · rcases List.mem_cons.mp membership with equality | later
        · cases equality
          exact List.mem_cons_self
        · exact List.mem_cons_of_mem _ (inductionHypothesis later)
      · exact List.mem_cons_of_mem _ (inductionHypothesis membership)

theorem get?_members_of_not_mem {fields : Fields σ α} (unknown : key ∉ fields.keys) :
    Members.get? key (fields.members value) = none := by
  rw [Members.get?_eq_none_iff]
  intro membership
  obtain ⟨⟨_, item⟩, present, rfl⟩ := List.mem_map.mp membership
  exact unknown (key_mem_of_mem_members present)

theorem faultAt?_of_mem_members {fields : Fields σ α} (distinct : fields.keys.Nodup)
    (survive : fields.Survive value) (membership : (key, item) ∈ fields.members value) :
    fields.faultAt? key item = none := by
  induction fields with
  | done => rfl
  | field first rest inductionHypothesis =>
      obtain ⟨readBack, -, restSurvive⟩ := survive
      obtain ⟨fresh, restDistinct⟩ := List.nodup_cons.mp distinct
      have later (inRest : (key, item) ∈ rest.members value) :
          (field first rest).faultAt? key item = none := by
        have different : first.key ≠ key := fun same =>
          fresh (same ▸ key_mem_of_mem_members inRest)
        rw [faultAt?, if_neg different]
        exact inductionHypothesis restDistinct restSurvive inRest
      simp only [members] at membership
      split at membership
      · rcases List.mem_cons.mp membership with equality | inRest
        · cases equality
          rw [faultAt?, if_pos rfl, readBack]
        · exact later inRest
      · exact later membership

theorem ofMembers_members {fields : Fields σ α} {object : Members} (distinct : fields.keys.Nodup)
    (survive : fields.Survive value)
    (agree : ∀ key ∈ fields.keys, object.get? key = Members.get? key (fields.members value))
    (make : α) : fields.ofMembers object make = .ok (fields.rebuild value make) := by
  induction fields with
  | done => rfl
  | field first rest inductionHypothesis =>
      obtain ⟨readBack, missing, restSurvive⟩ := survive
      obtain ⟨fresh, restDistinct⟩ := List.nodup_cons.mp distinct
      have here := agree first.key List.mem_cons_self
      have restAgree (key : String) (membership : key ∈ rest.keys) :
          object.get? key = Members.get? key (rest.members value) := by
        have different : first.key ≠ key := fun same => fresh (same ▸ membership)
        rw [agree key (List.mem_cons_of_mem _ membership), members]
        split
        · rw [Members.get?, if_neg different]
        · rfl
      have others := inductionHypothesis restDistinct restSurvive restAgree
        (make (first.get value))
      simp only [members] at here
      rw [ofMembers, rebuild, ← others]
      split at here
      · rw [Members.get?, if_pos rfl] at here
        rw [here]
        dsimp only
        rw [readBack]
        rfl
      · rename_i unwritten
        rw [get?_members_of_not_mem fresh] at here
        rw [here, missing (Bool.eq_false_iff.mpr unwritten)]
        rfl

def Fit (object : Members) {α : Type} : Fields σ α → Prop
  | done => True
  | field first rest => first.Fit object ∧ rest.Fit object

theorem exists_ofMembers_iff {fields : Fields σ α} {object : Members} {make : α} :
    (∃ value, fields.ofMembers object make = .ok value) ↔ fields.Fit object := by
  induction fields with
  | done => simp [ofMembers, Fit]
  | field first rest inductionHypothesis =>
      rw [ofMembers, Fit, Field.Fit]
      cases object.get? first.key with
      | some item =>
          cases read : first.format.decode item with
          | ok content => simpa [read, bind, Except.bind] using inductionHypothesis
          | error fault => simp [read, bind, Except.bind]
      | none =>
          cases missing : first.absent with
          | some content => simpa [missing, bind, Except.bind] using inductionHypothesis
          | none => simp [bind, Except.bind]

theorem faultAt?_of_fit {fields : Fields σ α} {object : Members} (distinct : object.keys.Nodup)
    (fit : fields.Fit object) (membership : (key, item) ∈ object) :
    fields.faultAt? key item = none := by
  induction fields with
  | done => rfl
  | field first rest inductionHypothesis =>
      rw [faultAt?]
      split
      · rename_i same
        have present := (Members.get?_eq_some_iff distinct).mpr (same ▸ membership)
        obtain ⟨readable, -⟩ := fit
        rw [Field.Fit, present] at readable
        obtain ⟨content, read⟩ := readable
        rw [read]
      · exact inductionHypothesis fit.2

end Fields

namespace Record

variable {σ : Type} {record : Record σ} {value : σ}

theorem decode_encode (distinct : record.keys.Nodup) (survive : record.fields.Survive value)
    (whole : record.fields.rebuild value record.make = value) :
    record.format.decode (record.format.encode value) = .ok value := by
  have noFault : (record.fields.members value).findSome? record.memberFault? = none := by
    rw [List.findSome?_eq_none_iff]
    rintro ⟨key, item⟩ membership
    have known : key ∈ record.keys := Fields.key_mem_of_mem_members membership
    rw [memberFault?, if_neg (fun unknown => unknown.2 known)]
    exact Fields.faultAt?_of_mem_members distinct survive membership
  change record.decode (.obj (record.fields.members value)) = .ok value
  rw [decode, noFault]
  dsimp only
  rw [Fields.ofMembers_members distinct survive (fun _ _ => rfl), whole]

/-- An object whose keys differ is a record that allows other keys exactly if it fits its fields. -/
theorem exists_decode_iff {object : Members} (lenient : record.isStrict = false)
    (distinct : object.keys.Nodup) :
    (∃ value, record.decode (.obj object) = .ok value) ↔ record.fields.Fit object := by
  rw [decode, ← Fields.exists_ofMembers_iff]
  constructor
  · rintro ⟨value, success⟩
    split at success
    · cases success
    · exact ⟨value, success⟩
  · intro readable
    have noFault : object.findSome? record.memberFault? = none := by
      rw [List.findSome?_eq_none_iff]
      rintro ⟨key, item⟩ membership
      rw [memberFault?, lenient, if_neg (fun unknown => Bool.false_ne_true unknown.1)]
      exact Fields.faultAt?_of_fit distinct (Fields.exists_ofMembers_iff.mp readable) membership
    rw [noFault]
    exact readable

end Record

end ChartParams
