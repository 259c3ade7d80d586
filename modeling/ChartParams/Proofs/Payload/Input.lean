import ChartParams.Proofs.Json.Equality
import ChartParams.Proofs.Numeric.Integers
import ChartParams.Proofs.Payload.Agreement
import ChartParams.Proofs.Yaml.WellFormed

/-!
# What a user meant

The payload that is made for a text that a user typed is read as the value that the text means for
the kind of the parameter. Text of most kinds is written anew, so that its document has to be what
its text spells; this holds of all documents but those nested too deep or with floats that are not
read back.
-/

namespace ChartParams

/-- What a text means that a user typed for a parameter of some kind. -/
inductive Kind.Means (input : String) : Kind → Payload → Prop
  | string : Means input .string (.string input)
  | text : Means input .text (.string input)
  | unknown : Means input .unknown (.structured (.str input))
  | int {n : Int64} : IsInteger (trimBlanks input.toList) n.toInt → Means input .int (.int n)
  | float {x : Binary64} : Numeral.readBinary64 (trim input) = .ok x → Means input .float (.float x)
  | boolean {b : Bool} : Reading.flag? input = some b → Means input .boolean (.flag b)
  | json {doc : Json} : Json.parse input = .ok doc → Means input .json (.ofDocument doc)
  | keyValue {doc : Json} : Json.parse input = .ok doc → Means input .keyValue (.ofDocument doc)
  | yaml {doc : Json} : Yaml.parse input = .ok doc → Means input .yaml (.ofDocument doc)

theorem Yaml.wellFormed_of_parse {text : String} {doc : Json} (parsed : parse text = .ok doc) :
    doc.WellFormed := by
  unfold parse at parsed
  split at parsed
  · rename_i read
    cases parsed
    exact wellFormed_of_parse? read
  · cases parsed

theorem Writing.exists_finite_of_float {x : Binary64} {doc : Json} (written : float x = .ok doc) :
    ∃ finite, doc = .num (.float x finite) := by
  rw [float, Number.ofBinary64?] at written
  split_ifs at written with finite
  cases written
  exact ⟨finite, rfl⟩

namespace Kind

variable {kind : Kind} {input raw : String}

theorem exists_decode_of_encodeInput (encoded : kind.encodeInput input = .ok raw)
    (shallow : kind = .yaml → ∀ doc, Yaml.parse input = .ok doc → doc.nesting ≤ Json.maxNesting)
    (reparse : kind = .float ∨ kind = .yaml → ∀ meant doc, kind.Means input meant →
      meant.toJson = .ok doc → doc.FloatsReparse) :
    ∃ value, kind.decode raw = .ok value ∧ kind.Means input value := by
  cases kind with
  | string =>
      cases encoded
      exact ⟨.string input, decode_of_parse (Json.parse_quote input), .string⟩
  | text =>
      cases encoded
      exact ⟨.string input, decode_of_parse (Json.parse_quote input), .text⟩
  | unknown =>
      cases encoded
      exact ⟨.structured (.str input), decode_of_parse (Json.parse_quote input), .unknown⟩
  | int =>
      rw [encodeInput] at encoded
      split at encoded
      · rename_i n read
        cases encoded
        rw [Numeral.readInt64_eq_ok_iff, trim, String.toList_ofList] at read
        refine ⟨.int n, (decode_of_parse (Json.parse_int _)).trans ?_, .int read⟩
        rw [ofDocument, Number.int64?, int64?_toInt]
      · cases encoded
  | float =>
      rw [encodeInput] at encoded
      split at encoded
      · rename_i x read
        obtain ⟨doc, isDoc, rfl⟩ := map_eq_ok_iff.mp encoded
        have means : Means input .float (.float x) := .float read
        obtain ⟨finite, rfl⟩ := Writing.exists_finite_of_float isDoc
        have reparsed := reparse (.inl rfl) _ _ means isDoc x finite .self
        exact ⟨.float x, decode_of_parse reparsed, means⟩
      · cases encoded
  | boolean =>
      rw [encodeInput] at encoded
      split at encoded
      · rename_i b read
        refine ⟨.flag b, ?_, .boolean read⟩
        cases b <;> cases encoded <;> rfl
      · cases encoded
  | json =>
      obtain ⟨doc, parsed, rfl⟩ := map_eq_ok_iff.mp encoded
      exact ⟨.ofDocument doc, (decode_of_parse parsed).trans (ofDocument_of_not_scalar rfl _ _),
        .json parsed⟩
  | keyValue =>
      obtain ⟨doc, parsed, rfl⟩ := map_eq_ok_iff.mp encoded
      exact ⟨.ofDocument doc, (decode_of_parse parsed).trans (ofDocument_of_not_scalar rfl _ _),
        .keyValue parsed⟩
  | yaml =>
      obtain ⟨doc, parsed, encoded⟩ := bind_eq_ok_iff.mp encoded
      cases encoded
      have means : Means input .yaml (.ofDocument doc) := .yaml parsed
      have reparsed : Json.parse doc.compact = .ok doc :=
        Json.parse_compact (Yaml.wellFormed_of_parse parsed) (shallow rfl doc parsed)
          (reparse (.inr rfl) _ doc means (Payload.toJson_ofDocument doc))
      exact ⟨_, (decode_of_parse reparsed).trans (ofDocument_of_not_scalar rfl _ _), means⟩

end Kind

def Number.half : Number := .float ⟨0x3FE0000000000000⟩ (by decide)

theorem Json.compact_half : (num .half).compact = "0.5" := by decide +kernel

theorem Json.parse_half : parse (num .half).compact = .ok (num .half) := by
  have read : parse? "0.5" = some (num .half) := by decide +kernel
  rw [compact_half, parse, read]

theorem Yaml.parse_ratio : parse "ratio: 0.5" = .ok (.obj [("ratio", .num .half)]) := by
  have read : parse? "ratio: 0.5" = some (.obj [("ratio", .num .half)]) := by decide +kernel
  rw [parse, read]

namespace Params.Parameter

/-- A parameter that is made for what a user typed has the value that is meant. The document of a
YAML text must not be nested too deep, and floats that are written anew have to be what their texts
spell. -/
theorem exists_value_of_ofInput {name input : String} {kind : Kind} {made : Parameter}
    (isMade : ofInput name kind input = .ok made)
    (shallow : kind = .yaml → ∀ doc, Yaml.parse input = .ok doc → doc.nesting ≤ Json.maxNesting)
    (reparse : kind = .float ∨ kind = .yaml → ∀ meant doc, kind.Means input meant →
      meant.toJson = .ok doc → doc.FloatsReparse) :
    ∃ value, made.value = .ok value ∧ kind.Means input value := by
  obtain ⟨raw, encoded, ⟨⟩⟩ := bind_eq_ok_iff.mp isMade
  obtain ⟨value, decoded, means⟩ :=
    Kind.exists_decode_of_encodeInput (mapError_eq_ok_iff.mp encoded) shallow reparse
  exact ⟨value, mapError_eq_ok_iff.mpr decoded, means⟩

theorem exists_value_of_ofInput_ratio :
    (⟨"limits", some .yaml, "\x7b\"ratio\":0.5\x7d"⟩ : Parameter).value =
      .ok (.structured (.obj [("ratio", .num .half)])) := by
  have isText : (Json.obj [("ratio", .num .half)]).compact = "\x7b\"ratio\":0.5\x7d" := by
    decide +kernel
  have isMade : ofInput "limits" .yaml "ratio: 0.5" =
      .ok ⟨"limits", some .yaml, "\x7b\"ratio\":0.5\x7d"⟩ := by
    rw [ofInput, Kind.encodeInput, Yaml.parse_ratio, ← isText]
    rfl
  have reparse : (Json.obj [("ratio", .num .half)]).FloatsReparse := by
    rintro x finite (_ | _ | ⟨present, isPart⟩)
    rw [List.mem_singleton] at present
    subst present
    cases isPart
    exact Json.parse_half
  obtain ⟨value, isValue, means⟩ := exists_value_of_ofInput isMade
    (fun _ doc parsed => by
      cases Yaml.parse_ratio.symm.trans parsed
      decide)
    (fun _ meant doc means isDoc => by
      cases means with
      | yaml parsed =>
        cases Yaml.parse_ratio.symm.trans parsed
        cases isDoc
        exact reparse)
  cases means with
  | yaml parsed =>
    cases Yaml.parse_ratio.symm.trans parsed
    exact isValue

end Params.Parameter

end ChartParams
