import ChartParams.Proofs.Json.Writing

/-!
# Writing in place

A write as a walk that changes the document on its way down: null becomes an object, and a key that
is missing gets null before the walk goes on below it. Such a walk could leave a document changed in
part when it fails. This one never does, because nothing stops it any more once it has changed
something: it goes on in null, and every write into null succeeds.

`Json.edit_eq` compares the walk with `Json.set`.
-/

namespace ChartParams

open ChartParams.Path

/-- A document that was changed in place, and whether the change came to its end. -/
structure Edit where
  left : Json
  outcome : Except Path.Fault Unit

def Members.reserve (key : String) (members : Members) : Members :=
  match members.get? key with
  | some _ => members
  | none => members.put key .null

namespace Json

/-- Walk down a list of keys and put a value at its end. `name` is the last key on the way to the
document. -/
def editFrom (value : Json) (name : String) : List String → Json → Edit
  | [], _ => ⟨value, .ok ()⟩
  | key :: rest, doc =>
      match doc.writableMembers? with
      | none => ⟨doc, .error (.notObject name)⟩
      | some members =>
          let reserved := members.reserve key
          let below := editFrom value key rest ((reserved.get? key).getD null)
          ⟨obj (reserved.put key below.left), below.outcome⟩

/-- Write a value at a path of a document in place. -/
def edit (doc : Json) (path : String) (value : Json) : Edit :=
  let keys := split path
  if keys.any String.isEmpty then
    ⟨doc, .error .emptyKey⟩
  else
    editFrom value rootName keys doc

theorem put_reserve (key : String) (value : Json) (members : Members) :
    (members.reserve key).put key value = members.put key value := by
  unfold Members.reserve
  split
  · rfl
  · exact Members.put_put key null value members

theorem get?_reserve (key : String) (members : Members) :
    (members.reserve key).get? key = some ((members.get? key).getD null) := by
  unfold Members.reserve
  split
  · rename_i found
    rw [found, Option.getD_some]
  · rename_i missing
    rw [missing, Members.get?_put_self, Option.getD_none]

/-- A walk ends like a write, and one that fails leaves the document alone. -/
theorem editFrom_eq (value : Json) (name : String) (keys : List String) (doc : Json) :
    editFrom value name keys doc =
      match setAtFrom value name keys doc with
      | .ok written => ⟨written, .ok ()⟩
      | .error fault => ⟨doc, .error fault⟩ := by
  induction keys generalizing doc name with
  | nil => rfl
  | cons key rest inductionHypothesis =>
      rw [editFrom, setAtFrom]
      cases writable : doc.writableMembers? with
      | none => rfl
      | some members =>
          simp only [get?_reserve, Option.getD_some, inductionHypothesis, put_reserve]
          cases below : setAtFrom value key rest ((members.get? key).getD null) with
          | ok child => rfl
          | error fault =>
              cases present : members.get? key with
              | none =>
                  obtain ⟨written, success⟩ := exists_setAtFrom_null value key rest
                  rw [present, Option.getD_none, success] at below
                  cases below
              | some child =>
                  have whole : doc = obj members := by
                    cases doc with
                    | null =>
                        cases writable
                        cases present
                    | obj own =>
                        cases writable
                        rfl
                    | _ => cases writable
                  rw [Option.getD_some, Members.put_eq_self present, whole]
                  rfl

theorem edit_eq (doc : Json) (path : String) (value : Json) :
    doc.edit path value =
      match doc.set path value with
      | .ok written => ⟨written, .ok ()⟩
      | .error fault => ⟨doc, .error fault⟩ := by
  rw [edit, set]
  split
  · rfl
  · exact editFrom_eq value rootName (split path) doc

/-- A write in place ends like a write. It is refused for an empty key and otherwise fails exactly
at a value on its way that is neither an object nor null; the fault names the last key on the way to
the first such value. Whenever it fails, the document is left as it was. -/
theorem edit_atomic (doc : Json) (path : String) (value : Json) :
    let edited := doc.edit path value
    let keys := split path
    doc.set path value = edited.outcome.map (fun _ => edited.left) ∧
    (edited.outcome = .error .emptyKey ↔ ∃ key ∈ keys, key = "") ∧
    ((∀ key ∈ keys, key ≠ "") →
      ((∃ name, edited.outcome = .error (.notObject name)) ↔ ∃ above, doc.IsConflict keys above) ∧
      ∀ name, edited.outcome = .error (.notObject name) ↔
        ∃ above, doc.IsConflict keys above ∧
          (∀ other, doc.IsConflict keys other → above.length ≤ other.length) ∧
          name = above.getLast?.getD "(root)") ∧
    ∀ fault, edited.outcome = .error fault → edited.left = doc := by
  intro edited keys
  have compared : edited = _ := edit_eq doc path value
  have failed (fault : Fault) :
      edited.outcome = .error fault ↔ doc.set path value = .error fault := by
    rw [compared]
    cases doc.set path value <;> simp
  refine ⟨?_, ?_, fun valid => ⟨?_, fun name => ?_⟩, fun fault failure => ?_⟩
  · rw [compared]
    cases doc.set path value <;> rfl
  · rw [failed, set_eq_emptyKey_iff]
  · simp only [failed, set_eq_notObject_iff valid]
    constructor
    · rintro ⟨name, above, conflict, -⟩
      exact ⟨above, conflict⟩
    · rintro ⟨above, conflict⟩
      exact ⟨_, above, conflict, rfl⟩
  · rw [failed, set_eq_notObject_iff valid]
    constructor
    · rintro ⟨above, conflict, named⟩
      exact ⟨above, conflict, fun other => conflict.length_le, named⟩
    · rintro ⟨above, conflict, -, named⟩
      exact ⟨above, conflict, named⟩
  · rw [compared, (failed fault).mp failure]

/-- An array on the way, behind a null that is left alone. -/
theorem edit_atomic_array :
    let doc := Json.obj [("a", .null), ("b", .obj [("c", .arr []), ("d", .null)])]
    let edited := doc.edit "b.c.d.e" (.bool true)
    (∀ key ∈ split "b.c.d.e", key ≠ "") ∧ doc.IsConflict (split "b.c.d.e") ["b", "c"] ∧
      edited.outcome = .error (.notObject "c") ∧ edited.left = doc := by
  intro doc edited
  obtain ⟨-, -, conflicts, unchanged⟩ := edit_atomic doc "b.c.d.e" (.bool true)
  have valid : ∀ key ∈ split "b.c.d.e", key ≠ "" := by decide +kernel
  have conflict : doc.IsConflict (split "b.c.d.e") ["b", "c"] :=
    ⟨⟨by decide +kernel, by decide +kernel⟩, .arr [], ⟨rfl, rfl⟩, nofun⟩
  have failure : edited.outcome = .error (.notObject "c") :=
    ((conflicts valid).2 "c").mpr ⟨["b", "c"], conflict, fun other => conflict.length_le, rfl⟩
  exact ⟨valid, conflict, failure, unchanged _ failure⟩

end Json

end ChartParams
