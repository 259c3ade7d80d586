import ChartParams.Proofs.Knob.ReadBack

/-!
# Reading without warnings

When a value is read without a warning: amounts have to be quantities that can be measured, and the
variables of an environment and the parts of a volume request have to be texts.
-/

namespace ChartParams

/-- A value with a log that reports no loss of data. -/
def Logged.Quiet {α : Type} (logged : Logged Notice α) : Prop :=
  ∀ notice ∈ logged.log, notice.isWarning = false

namespace Logged

variable {α β : Type} {f : α → Logged Notice β}

@[simp]
theorem quiet_pure (value : α) : (pure value : Logged Notice α).Quiet := by
  simp [Quiet]

@[simp]
theorem quiet_bind_iff {first : Logged Notice α} :
    (first >>= f).Quiet ↔ first.Quiet ∧ (f first.value).Quiet := by
  rw [Quiet, log_bind, List.forall_mem_append]
  rfl

@[simp]
theorem quiet_mapItems_iff {items : List α} :
    (mapItems f items).Quiet ↔ ∀ item ∈ items, (f item).Quiet := by
  rw [Quiet, log_mapItems, List.forall_mem_flatMap]
  rfl

@[simp]
theorem quiet_mapOption_iff {item : Option α} :
    (mapOption f item).Quiet ↔ ∀ value ∈ item, (f value).Quiet := by
  cases item <;> simp [mapOption]

theorem not_quiet_report {notice : Notice} (warns : notice.isWarning = true) (value : α) :
    ¬(report notice value).Quiet := by
  intro quiet
  have silent := quiet notice List.mem_cons_self
  rw [warns] at silent
  cases silent

end Logged

namespace Quantity

variable {measure : Overflow → Quantity → Except Error Int64} {text : String}

/-- A text is a quantity that has an amount in some measure. -/
def Measurable (measure : Overflow → Quantity → Except Error Int64) (text : String) : Prop :=
  ∃ quantity amount, parse .wraps text = .ok quantity ∧ measure .wraps quantity = .ok amount

theorem exists_measured_iff {α : Type} (convert : Int64 → α) :
    (∃ result, ((parse .wraps text).bind fun quantity =>
      (measure .wraps quantity).bind fun amount => .ok (convert amount)) = .ok result) ↔
        Measurable measure text := by
  simp only [bind_eq_ok_iff]
  constructor
  · rintro ⟨result, quantity, parsed, amount, measured, -⟩
    exact ⟨quantity, amount, parsed, measured⟩
  · rintro ⟨quantity, amount, parsed, measured⟩
    exact ⟨convert amount, quantity, parsed, amount, measured, rfl⟩

end Quantity

namespace Json

def IsText (doc : Json) : Prop := ∃ text, doc = .str text

def IsTexts (doc : Json) : Prop := ∃ items, doc = .arr items ∧ ∀ item ∈ items, item.IsText

/-- The text of a leaf is empty or a quantity that can be measured. -/
def HoldsAmount (measure : Quantity.Overflow → Quantity → Except Quantity.Error Int64)
    (doc : Json) : Prop :=
  doc.leafText = "" ∨ Quantity.Measurable measure doc.leafText

end Json

namespace Format

theorem exists_text_iff {doc : Json} :
    (∃ text, Format.text.decode doc = .ok text) ↔ doc.IsText := by
  cases doc <;> simp [text, Json.IsText]

theorem exists_decodeItems_iff {α : Type} {decode : Json → Except FormatFault α}
    {items : List Json} :
    (∃ values, decodeItems decode items = .ok values) ↔
      ∀ item ∈ items, ∃ value, decode item = .ok value := by
  induction items with
  | nil => simp [decodeItems]
  | cons item rest inductionHypothesis =>
      rw [List.forall_mem_cons, ← inductionHypothesis]
      cases first : decode item with
      | error fault => simp [decodeItems, first, bind, Except.bind]
      | ok value =>
          cases others : decodeItems decode rest <;>
            simp [decodeItems, first, others, bind, Except.bind]

theorem exists_texts_iff {doc : Json} :
    (∃ texts, Format.text.list.decode doc = .ok texts) ↔ doc.IsTexts := by
  cases doc with
  | arr items =>
      refine exists_decodeItems_iff.trans ?_
      simp [exists_text_iff, Json.IsTexts]
  | _ => simp [list, Json.IsTexts]

end Format

theorem BinaryUnit.exists_read_iff {unit : BinaryUnit} {text : String} :
    (∃ count, unit.read .wraps text = .ok count) ↔ Quantity.Measurable Quantity.value text :=
  Quantity.exists_measured_iff fun amount => Int64.ofInt (amount.toInt.tdiv unit.scale)

theorem Cores.exists_read_iff {text : String} :
    (∃ count, Cores.read .wraps text = .ok count) ↔ Quantity.Measurable Quantity.milliValue text :=
  Quantity.exists_measured_iff fun amount => (Binary64.ofInt amount.toInt).div (.ofInt 1000)

namespace Field

variable {σ β : Type} {key : String} {format : Format β} {get : σ → β} {absent : β}
  {object : Members}

theorem fit_plain_iff : (plain key format get absent).Fit object ↔
    ∀ item ∈ Members.get? key object, ∃ content, format.decode item = .ok content := by
  unfold Fit plain
  cases Members.get? key object <;> simp

theorem fit_required_iff : (required key format get).Fit object ↔
    ∃ item, Members.get? key object = some item ∧ ∃ content, format.decode item = .ok content := by
  unfold Fit required
  cases Members.get? key object <;> simp

end Field

namespace Reading

open Logged

variable {doc value : Json} {path : String}

theorem quiet_quantity_iff {α : Type} {read : String → Except Quantity.Error α} {zero : α}
    {measure : Quantity.Overflow → Quantity → Except Quantity.Error Int64}
    (reads : ∀ text, (∃ amount, read text = .ok amount) ↔ Quantity.Measurable measure text)
    (found : doc.get? path = some value) :
    (quantity read zero doc path).Quiet ↔ value.HoldsAmount measure := by
  have text : quantityText? doc path =
      if value.leafText.isEmpty then none else some value.leafText := by
    simp [quantityText?, Json.textAt, found, path_of_get? found]
  rw [quantity, text, Json.HoldsAmount, ← reads]
  by_cases isEmpty : value.leafText.isEmpty
  · rw [if_pos isEmpty]
    simp [String.isEmpty_iff.mp isEmpty]
  · have nonempty : value.leafText ≠ "" := by simpa using isEmpty
    rw [if_neg isEmpty]
    dsimp only
    cases read value.leafText with
    | ok amount => simp
    | error error =>
        have lossy : ¬(report (Notice.badQuantity path error) zero).Quiet :=
          not_quiet_report rfl zero
        simp [nonempty, lossy]

theorem quiet_quantity_of_none {α : Type} {read : String → Except Quantity.Error α} {zero : α}
    (missing : doc.get? path = none) : (quantity read zero doc path).Quiet := by
  rw [quantity, quantityText?_of_none missing]
  exact quiet_pure zero

theorem exists_variable_iff {members : Members} (distinct : members.keys.Nodup) :
    (∃ variable_, EnvVar.record.decode (.obj members) = .ok variable_) ↔
      (∃ name ∈ members.get? "name", name.IsText) ∧
        ∀ value ∈ members.get? "value", value.IsText := by
  rw [Record.exists_decode_iff rfl distinct]
  change (Field.required "name" _ _).Fit members ∧ (Field.plain "value" _ _ _).Fit members ∧
    True ↔ _
  rw [Field.fit_required_iff, Field.fit_plain_iff]
  simp only [Format.exists_text_iff, and_true]
  rfl

theorem quiet_environment {items : List Json}
    (readable : ∀ item ∈ items, ∃ variable_, EnvVar.record.decode item = .ok variable_)
    (found : doc.get? path = some (.arr items)) : (environment doc path).Quiet := by
  obtain ⟨env, decoded⟩ := Format.exists_decodeItems_iff.mpr readable
  have whole : (KnobType.format .environment).decode (.arr items) = .ok env := decoded
  rw [environment, found]
  dsimp only
  rw [whole]
  exact quiet_pure env

theorem quiet_storageSize_iff (members : Members) :
    (storageSize (.obj members) "size").Quiet ↔
      ∀ size ∈ members.get? "size", size.HoldsAmount Quantity.value := by
  have atSize : (Json.obj members).get? "size" = members.get? "size" := by
    change (Members.get? "size" members).bind _ = _
    cases Members.get? "size" members <;> rfl
  rw [storageSize]
  cases present : members.get? "size" with
  | none =>
      rw [present] at atSize
      simpa using quiet_quantity_of_none atSize
  | some size =>
      rw [present] at atSize
      simpa using quiet_quantity_iff (fun text => BinaryUnit.exists_read_iff) atSize

theorem exists_request_iff {members : Members} (distinct : members.keys.Nodup) :
    (∃ request, StorageDocument.record.decode (.obj members) = .ok request) ↔
      (∀ modes ∈ members.get? "accessModes", modes.IsTexts) ∧
        ∀ storageClass ∈ members.get? "storageClass", storageClass.IsText := by
  have anySize : ∀ size ∈ members.get? "size", ∃ content,
      Format.document.decode size = .ok content := fun size _ => ⟨size, rfl⟩
  rw [Record.exists_decode_iff rfl distinct]
  change (Field.plain "accessModes" _ _ _).Fit members ∧
    (Field.plain "storageClass" _ _ _).Fit members ∧ (Field.plain "size" _ _ _).Fit members ∧
    True ↔ _
  rw [Field.fit_plain_iff, Field.fit_plain_iff, Field.fit_plain_iff]
  simp only [Format.exists_text_iff, Format.exists_texts_iff, and_iff_right anySize, and_true]

theorem quiet_storage_iff {members : Members} (distinct : members.keys.Nodup)
    (found : doc.get? path = some (.obj members)) :
    (storage doc path).Quiet ↔
      (∀ modes ∈ members.get? "accessModes", modes.IsTexts) ∧
        (∀ storageClass ∈ members.get? "storageClass", storageClass.IsText) ∧
        ∀ size ∈ members.get? "size", size.HoldsAmount Quantity.value := by
  have readable := exists_request_iff distinct
  rw [storage, found, ← and_assoc, ← readable, ← quiet_storageSize_iff]
  dsimp only
  cases decoded : StorageDocument.record.decode (.obj members) with
  | error fault =>
      have lossy : ¬(report (Notice.badStorage path fault) (none : Option StorageSpec)).Quiet :=
        not_quiet_report rfl none
      simp [lossy]
  | ok request => simp

end Reading

namespace KnobType

variable {type : KnobType} {doc : Json} {path : String}

theorem quiet_read_of_none (missing : doc.get? path = none) : (type.read doc path).Quiet := by
  cases type with
  | text | flag => exact Logged.quiet_pure _
  | integer =>
      change (Reading.integer doc path).Quiet
      rw [Reading.integer, missing]
      exact Logged.quiet_pure _
  | environment =>
      change (Reading.environment doc path).Quiet
      rw [Reading.environment, missing]
      exact Logged.quiet_pure _
  | memory | cores => exact Reading.quiet_quantity_of_none missing

end KnobType

end ChartParams
