import ChartParams.Proofs.Json.RoundTrip
import ChartParams.Proofs.Lint.Construction

/-!
# Two readings of a payload

A payload is read by the kind of its parameter, for a user to see, and without the kind, when
documents are built. Where the first reading gives a value, the second one gives the document of
this value. Only a payload of nothing but blanks is null in the first reading and no document in the
second; the empty payload is null in both.
-/

namespace ChartParams

/-! ## Blank texts -/

theorem isEmpty_trimBlanks_iff {text : List Char} :
    (trimBlanks text).isEmpty = true ↔ ∀ c ∈ text, isBlank c = true := by
  simp only [trimBlanks, List.isEmpty_iff, List.reverse_eq_nil_iff, List.dropWhile_eq_nil_iff,
    List.mem_reverse]
  constructor
  · intro remaining c present
    rw [← List.takeWhile_append_dropWhile (p := isBlank) (l := text), List.mem_append] at present
    rcases present with taken | dropped
    · exact List.mem_takeWhile_imp taken
    · exact remaining c dropped
  · intro blank c dropped
    exact blank c ((List.dropWhile_sublist _).mem dropped)

namespace Json

theorem value_of_blank {c : Char} (blank : isBlank c = true) (depth : Nat) (rest : List Char) :
    value depth (c :: rest) = none := by
  have different {others : List Char} (visible : others.any isBlank = false) : c ∉ others :=
    fun isOther => List.any_eq_false.mp visible c isOther blank
  have notDigit : c.isDigit = false := by
    rw [Bool.eq_false_iff]
    intro isDigit
    rw [isBlank_of_isDigit isDigit] at blank
    cases blank
  have noSign : c ∉ ['-', '0'] := different (by decide)
  simp only [List.mem_cons, List.not_mem_nil, or_false, not_or] at noSign
  rw [value_eq_number (different (by decide))]
  simp [number, literal, digits, Numeral.spanDigits, notDigit, noSign]

theorem parse_of_blank {text : String} (blank : ∀ c ∈ text.toList, isBlank c = true) :
    parse text = .error .jsonSyntax := by
  have nothing : value maxNesting (skipSpace text.toList) = none := by
    cases isText : skipSpace text.toList with
    | nil => rfl
    | cons c rest =>
        have present : c ∈ skipSpace text.toList := isText ▸ List.mem_cons_self
        exact value_of_blank (blank c ((List.dropWhile_sublist _).mem present)) _ _
  rw [parse, parse?, parseWithin?, nothing]
  rfl

end Json

/-! ## Reading by kind -/

/-- The value that a document is to the kinds that take every document. -/
def Payload.ofDocument : Json → Payload
  | .null => .null
  | doc => .structured doc

theorem Payload.toJson_ofDocument (doc : Json) : (ofDocument doc).toJson = .ok doc := by
  cases doc <;> rfl

theorem Number.ofInt64_of_int64? {n : Number} {w : Int64} (isWord : n.int64? = some w) :
    Number.ofInt64 w = n := by
  cases n with
  | int value range =>
      obtain rfl := int64?_eq_some_iff.mp isWord
      rfl
  | float x finite => cases isWord

namespace Kind

variable {kind : Kind} {raw : String} {doc : Json} {value : Payload}

theorem decode_of_parse (parsed : Json.parse raw = .ok doc) :
    kind.decode raw = kind.ofDocument raw doc := by
  have visible : ¬(trimBlanks raw.toList).isEmpty = true := by
    rw [isEmpty_trimBlanks_iff]
    intro blank
    rw [Json.parse_of_blank blank] at parsed
    cases parsed
  rw [decode, if_neg visible, parsed]
  rfl

theorem decode_eq_ok_iff :
    kind.decode raw = .ok value ↔
      ((∀ c ∈ raw.toList, isBlank c = true) ∧ value = .null) ∨
        ∃ doc, Json.parse raw = .ok doc ∧ kind.ofDocument raw doc = .ok value := by
  by_cases blank : ∀ c ∈ raw.toList, isBlank c = true
  · have decoded : kind.decode raw = .ok .null := if_pos (isEmpty_trimBlanks_iff.mpr blank)
    rw [decoded, Json.parse_of_blank blank]
    constructor
    · rintro ⟨⟩
      exact .inl ⟨blank, rfl⟩
    · rintro (⟨-, rfl⟩ | ⟨doc, ⟨⟩, -⟩)
      rfl
  · rw [decode, if_neg (isEmpty_trimBlanks_iff.not.mpr blank)]
    simp only [blank, false_and, false_or]
    exact bind_eq_ok_iff

theorem toJson_of_ofDocument (notFloat : kind ≠ .float)
    (read : kind.ofDocument raw doc = .ok value) : value.toJson = .ok doc := by
  unfold ofDocument at read
  split at read
  · cases read
    rfl
  · split at read
    case h_3 n _ =>
      split at read
      · rename_i w isWord
        cases read
        rw [Payload.toJson, Json.ofInt64, Number.ofInt64_of_int64? isWord]
      · cases read
    case h_4 => exact absurd rfl notFloat
    case h_10 => cases read
    all_goals
      cases read
      rfl

theorem ofDocument_of_not_scalar (notScalar : kind.isScalar = false) (raw : String) (doc : Json) :
    kind.ofDocument raw doc = .ok (.ofDocument doc) := by
  cases doc <;> cases kind <;> first | rfl | cases notScalar

end Kind

namespace Params.Parameter

/-- A payload of nothing but blanks, which is not the empty one. -/
def IsBlank (parameter : Parameter) : Prop :=
  parameter.payload.isEmpty = false ∧ ∀ c ∈ parameter.payload.toList, isBlank c = true

/-- The two readings of a payload that is empty, of one of blanks, and of any other. -/
theorem readings (parameter : Parameter) :
    (¬parameter.IsBlank ∧ parameter.value = .ok .null ∧
      Writing.payload parameter.payload = .ok .null) ∨
    (parameter.IsBlank ∧ parameter.value = .ok .null ∧
      Writing.payload parameter.payload = .error .jsonSyntax) ∨
    (¬parameter.IsBlank ∧ Writing.payload parameter.payload = Json.parse parameter.payload ∧
      ∀ value, parameter.value = .ok value ↔
        ∃ doc, Json.parse parameter.payload = .ok doc ∧
          (parameter.kind.getD .unknown).ofDocument parameter.payload doc = .ok value) := by
  have decoded (value : Payload) : parameter.value = .ok value ↔ _ :=
    mapError_eq_ok_iff.trans Kind.decode_eq_ok_iff
  by_cases blank : ∀ c ∈ parameter.payload.toList, isBlank c = true
  · have isNull : parameter.value = .ok .null := (decoded .null).mpr (.inl ⟨blank, rfl⟩)
    cases isEmpty : parameter.payload.isEmpty with
    | true =>
        refine .inl ⟨?_, isNull, if_pos isEmpty⟩
        rintro ⟨nonempty, -⟩
        rw [isEmpty] at nonempty
        cases nonempty
    | false =>
        refine .inr (.inl ⟨⟨isEmpty, blank⟩, isNull, ?_⟩)
        rw [Writing.payload, isEmpty, if_neg Bool.false_ne_true, Json.parse_of_blank blank]
  · have nonempty : ¬parameter.payload.isEmpty = true := by
      intro isEmpty
      simp [String.isEmpty_iff.mp isEmpty] at blank
    refine .inr (.inr ⟨fun isBlank => blank isBlank.2, if_neg nonempty, fun value => ?_⟩)
    simpa only [blank, false_and, false_or] using decoded value

/-- A value that is read by the kind stands for the document that is read without it, and every
document is a value of the kinds that are not scalar. Payloads of nothing but blanks are the
exception: their value is null, and they are no document. -/
theorem value_agrees {parameter : Parameter} (notFloat : parameter.kind ≠ some .float) :
    (∀ value, parameter.value = .ok value →
      (¬parameter.IsBlank ∧ ∃ doc, Writing.payload parameter.payload = .ok doc ∧
        value.toJson = .ok doc) ∨
      (parameter.IsBlank ∧ value = .null ∧
        Writing.payload parameter.payload = .error .jsonSyntax)) ∧
    ((parameter.kind.getD .unknown).isScalar = false →
      ((∃ value, parameter.value = .ok value) ↔
        (∃ doc, Writing.payload parameter.payload = .ok doc) ∨ parameter.IsBlank)) := by
  have notFloat : parameter.kind.getD .unknown ≠ .float := by
    cases isKind : parameter.kind with
    | none => decide
    | some kind => exact fun isFloat => notFloat (isKind.trans (congrArg some isFloat))
  rcases parameter.readings with ⟨notBlank, isNull, document⟩ | ⟨blank, isNull, noDocument⟩ |
    ⟨notBlank, document, values⟩
  · rw [isNull, document]
    constructor
    · rintro value ⟨⟩
      exact .inl ⟨notBlank, .null, rfl, rfl⟩
    · exact fun _ => iff_of_true ⟨.null, rfl⟩ (.inl ⟨.null, rfl⟩)
  · rw [isNull, noDocument]
    constructor
    · rintro value ⟨⟩
      exact .inr ⟨blank, rfl, rfl⟩
    · exact fun _ => iff_of_true ⟨.null, rfl⟩ (.inr blank)
  · rw [document]
    constructor
    · intro value isValue
      obtain ⟨doc, parsed, read⟩ := (values value).mp isValue
      exact .inl ⟨notBlank, doc, parsed, Kind.toJson_of_ofDocument notFloat read⟩
    · intro notScalar
      rw [or_iff_left notBlank]
      constructor
      · rintro ⟨value, isValue⟩
        obtain ⟨doc, parsed, -⟩ := (values value).mp isValue
        exact ⟨doc, parsed⟩
      · rintro ⟨doc, parsed⟩
        have read := Kind.ofDocument_of_not_scalar notScalar parameter.payload doc
        exact ⟨.ofDocument doc, (values _).mpr ⟨doc, parsed, read⟩⟩

theorem value_agrees_list :
    (∃ doc, Writing.payload " [12]" = .ok doc ∧
      (Payload.structured (.arr [Json.ofInt64 12])).toJson = .ok doc) ∧
    ∃ value, (⟨"ports", none, " [12]"⟩ : Parameter).value = .ok value := by
  have agrees := @value_agrees ⟨"ports", none, " [12]"⟩ (by decide)
  have isValue : (⟨"ports", none, " [12]"⟩ : Parameter).value =
      .ok (.structured (.arr [Json.ofInt64 12])) := by rfl
  rcases agrees.1 _ isValue with ⟨-, doc, isDocument, sameDocument⟩ | ⟨-, isNull, -⟩
  · exact ⟨⟨doc, isDocument, sameDocument⟩, (agrees.2 rfl).mpr (.inl ⟨doc, isDocument⟩)⟩
  · cases isNull

/-- The payload of a blank is null in one reading and no document in the other. -/
theorem value_of_blank_payload :
    (⟨"replicas", none, " "⟩ : Parameter).value = .ok .null ∧ Payload.null.toJson = .ok .null ∧
      Writing.payload " " = .error .jsonSyntax :=
  ⟨rfl, rfl, rfl⟩

end Params.Parameter

end ChartParams
