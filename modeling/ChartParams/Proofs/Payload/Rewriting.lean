import ChartParams.Proofs.Json.Equality
import ChartParams.Proofs.Numeric.Finite
import ChartParams.Proofs.Payload.Agreement

/-!
# Payloads that are written anew

A value that was read from a payload has a payload of its own, which the same kind reads as the same
value. The two payloads need not be equal: the empty payload becomes null, a whole number of a float
kind gets a point, and of a key that an object repeats only the last value is left.
-/

namespace ChartParams

theorem Number.isFinite_toBinary64 (n : Number) : n.toBinary64.isFinite = true := by
  cases n with
  | int value range => exact Binary64.isFinite_ofInt range
  | float x finite => exact finite

theorem Writing.float_eq_ok {x : Binary64} (finite : x.isFinite = true) :
    float x = .ok (.num (.float x finite)) := by
  rw [float, Number.ofBinary64?, dif_pos finite]

namespace Kind

variable {kind : Kind} {raw : String} {doc : Json} {value : Payload}

/-- The text of a document only matters to the fault of one that is of another kind. -/
theorem ofDocument_of_ofDocument (read : kind.ofDocument raw doc = .ok value) (other : String) :
    kind.ofDocument other doc = .ok value := by
  cases doc with
  | null => exact read
  | num n =>
      cases kind with
      | int =>
          rw [ofDocument] at read ⊢
          split at read
          · exact read
          · cases read
      | string | boolean | text => cases read
      | float | yaml | json | keyValue | unknown => exact read
  | bool | str | arr | obj => cases kind <;> first | exact read | cases read

theorem exists_toJson_of_ofDocument (read : kind.ofDocument raw doc = .ok value)
    (wellFormed : doc.WellFormed) (shallow : doc.nesting ≤ Json.maxNesting) :
    ∃ written, value.toJson = .ok written ∧ written.WellFormed ∧
      written.nesting ≤ Json.maxNesting ∧ ∀ text, kind.ofDocument text written = .ok value := by
  by_cases isFloat : kind = .float
  · subst isFloat
    cases doc with
    | null =>
        cases read
        exact ⟨.null, rfl, trivial, Nat.zero_le _, fun _ => rfl⟩
    | num n =>
        cases read
        exact ⟨_, Writing.float_eq_ok n.isFinite_toBinary64, trivial, Nat.zero_le _, fun _ => rfl⟩
    | _ => cases read
  · exact ⟨doc, toJson_of_ofDocument isFloat read, wellFormed, shallow,
      ofDocument_of_ofDocument read⟩

/-- A value that was read has a payload, and the same kind reads it as the same value if its floats
are what their texts spell. -/
theorem exists_raw_of_decode (decoded : kind.decode raw = .ok value) :
    ∃ text, value.raw = .ok text ∧
      ((∀ doc, value.toJson = .ok doc → doc.FloatsReparse) → kind.decode text = .ok value) := by
  obtain ⟨doc, read, wellFormed, shallow⟩ : ∃ doc, kind.ofDocument raw doc = .ok value ∧
      doc.WellFormed ∧ doc.nesting ≤ Json.maxNesting := by
    rcases decode_eq_ok_iff.mp decoded with ⟨-, rfl⟩ | ⟨doc, parsed, read⟩
    · exact ⟨.null, rfl, trivial, Nat.zero_le _⟩
    · exact ⟨doc, read, .of_parse? (Json.parse_eq_ok_iff.mp parsed),
        Json.nesting_le_of_parse parsed⟩
  obtain ⟨written, isDocument, writtenWellFormed, writtenShallow, again⟩ :=
    exists_toJson_of_ofDocument read wellFormed shallow
  refine ⟨written.compact, map_eq_ok_iff.mpr ⟨written, isDocument, rfl⟩, fun reparse => ?_⟩
  have parsed : Json.parse written.compact = .ok written :=
    Json.parse_compact writtenWellFormed writtenShallow (reparse written isDocument)
  exact (decode_of_parse parsed).trans (again _)

end Kind

namespace Params.Parameter

/-- A value that was read can always be made a parameter again. The kind reads the payload of that
parameter as the same value, so that it has the value of the parameter before, provided that the
floats are what their texts spell. -/
theorem value_of_ofPayload {kind : Kind} {raw : String} {value : Payload}
    (decoded : kind.decode raw = .ok value) :
    ∃ text, value.raw = .ok text ∧
      (∀ name, ofPayload name kind value = .ok ⟨name, some kind, text⟩) ∧
      ((∀ doc, value.toJson = .ok doc → doc.FloatsReparse) →
        kind.decode text = .ok value ∧
        ∀ before : Parameter, before.kind.getD .unknown = kind → before.payload = raw →
          before.value = .ok value ∧
          (⟨before.name, some kind, text⟩ : Parameter).value = .ok value) := by
  obtain ⟨text, isRaw, again⟩ := Kind.exists_raw_of_decode decoded
  refine ⟨text, isRaw, fun name => bind_eq_ok_iff.mpr ⟨text, isRaw, rfl⟩, fun reparse => ?_⟩
  refine ⟨again reparse, ?_⟩
  rintro before rfl rfl
  exact ⟨mapError_eq_ok_iff.mpr decoded, mapError_eq_ok_iff.mpr (again reparse)⟩

/-- A whole number of a float kind is written with a point, and is the same float again. -/
theorem value_of_ofPayload_whole :
    Kind.float.decode " 2" = .ok (.float (.ofInt 2)) ∧
    ∃ text, ofPayload "ratio" .float (.float (.ofInt 2)) = .ok ⟨"ratio", some .float, text⟩ ∧
      (⟨"ratio", some .float, text⟩ : Parameter).value = .ok (.float (.ofInt 2)) := by
  have decoded : Kind.float.decode " 2" = .ok (.float (.ofInt 2)) := rfl
  obtain ⟨text, -, made, again⟩ := value_of_ofPayload decoded
  have parsed : Json.parse? (Json.num (.float (.ofInt 2) (by decide +kernel))).compact =
      some (.num (.float (.ofInt 2) (by decide +kernel))) := by decide +kernel
  have reparse : ∀ doc, (Payload.float (.ofInt 2)).toJson = .ok doc → doc.FloatsReparse := by
    intro doc isDoc
    rw [Payload.toJson, Writing.float_eq_ok (by decide +kernel)] at isDoc
    cases isDoc
    rintro x finite ⟨⟩
    exact Json.parse_eq_ok_iff.mpr parsed
  exact ⟨decoded, text, made "ratio", ((again reparse).2 ⟨"ratio", some .float, _⟩ rfl rfl).2⟩

end Params.Parameter

end ChartParams
