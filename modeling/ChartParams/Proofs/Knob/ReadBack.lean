import ChartParams.Knob.Writing
import ChartParams.Proofs.Format.Record
import ChartParams.Proofs.Quantity.Units

/-!
# Knobs that are read back

Reading gives back what was written for a knob, except that an amount of memory or storage that is
no signed word in bytes reads as zero. Amounts that were read are never as large as that. Numbers of
cores are left out, as they go through thousandths.
-/

namespace ChartParams

theorem EnvVar.format_lawful : EnvVar.record.format.Lawful := by
  intro variable_
  refine Record.decode_encode (by decide) ?_ rfl
  refine .required (Format.text_lawful _) ?_
  exact .plain (Format.text_lawful _) trivial

theorem StorageSpec.format_lawful : StorageSpec.record.format.Lawful := by
  intro spec
  refine Record.decode_encode (by decide) ?_ rfl
  refine .plain (Format.list_lawful Format.text_lawful _) ?_
  refine .plain (Format.text_lawful _) ?_
  exact .plain (Format.int64_lawful _) trivial

theorem StorageDocument.format_lawful : StorageDocument.record.format.Lawful := by
  intro request
  refine Record.decode_encode (by decide) ?_ rfl
  refine .plain (Format.list_lawful Format.text_lawful _) ?_
  refine .plain (Format.text_lawful _) ?_
  exact .plain (Format.document_lawful _) trivial

/-- What is read back of a count of units. -/
def BinaryUnit.kept (unit : BinaryUnit) (count : Int64) : Int64 :=
  if IsSignedWord (count.toInt * unit.scale) then count else 0

/-- What is read back of a value. -/
def KnobType.kept : (type : KnobType) → type.Value → type.Value
  | memory, value => BinaryUnit.mebi.kept value
  | text, value | integer, value | flag, value | environment, value | cores, value => value

def StorageSpec.kept (spec : StorageSpec) : StorageSpec :=
  { spec with size := BinaryUnit.gibi.kept spec.size }

namespace Reading

variable {doc : Json} {path : String}

theorem path_of_get? {value : Json} (found : doc.get? path = some value) :
    path.isEmpty = false := by
  cases isEmpty : path.isEmpty with
  | false => rfl
  | true =>
      rw [Json.get?, isEmpty] at found
      cases found

theorem quantityText?_of_none (missing : doc.get? path = none) : quantityText? doc path = none := by
  have noText : doc.textAt path = "" := by rw [Json.textAt, missing]
  rw [quantityText?, noText]
  exact if_pos (.inr rfl)

theorem write_isEmpty (unit : BinaryUnit) (count : Int64) : (unit.write count).isEmpty = false := by
  cases unit <;> simp [BinaryUnit.write, BinaryUnit.suffix]

/-- A count of units is read where it was written, and as zero with a notice if the amount that it
stands for is no signed word. -/
theorem quantity_of_get? {unit : BinaryUnit} {count : Int64}
    (found : doc.get? path = some (.str (unit.write count))) :
    quantity (unit.read .wraps) 0 doc path =
      if IsSignedWord (count.toInt * unit.scale) then
        pure count
      else
        .report (.badQuantity path
          ⟨(⟨count.toInt, 0, unit.power⟩ : Quantity).display, .valueOutOfRange⟩) 0 := by
  have text : doc.textAt path = unit.write count := by
    rw [Json.textAt, found]
    rfl
  rw [quantity, quantityText?, text, path_of_get? found, write_isEmpty]
  simp only [Bool.false_eq_true, or_self, if_false]
  rw [unit.read_write]
  by_cases fits : IsSignedWord (count.toInt * unit.scale)
  · rw [if_pos fits, if_pos fits]
  · rw [if_neg fits, if_neg fits]

theorem value_quantity_of_get? {unit : BinaryUnit} {count : Int64}
    (found : doc.get? path = some (.str (unit.write count))) :
    (quantity (unit.read .wraps) 0 doc path).value = unit.kept count := by
  rw [quantity_of_get? found, BinaryUnit.kept]
  split <;> rfl

theorem kept_quantity (unit : BinaryUnit) (doc : Json) (path : String) :
    unit.kept (quantity (unit.read .wraps) 0 doc path).value =
      (quantity (unit.read .wraps) 0 doc path).value := by
  have zero : unit.kept 0 = 0 := by cases unit <;> rfl
  rw [quantity]
  split
  · exact zero
  · rename_i text _
    cases result : unit.read .wraps text with
    | ok count => exact if_pos (BinaryUnit.isSignedWord_of_read result)
    | error error => exact zero

theorem value_environment_of_decode {value : Json} {env : List EnvVar}
    (found : doc.get? path = some value) (notNull : value.isNull = false)
    (decoded : (KnobType.format .environment).decode value = .ok env) :
    (environment doc path).value = env := by
  rw [environment, found]
  cases value with
  | null => cases notNull
  | _ =>
      dsimp only
      rw [decoded]
      rfl

theorem storage_of_decode {value : Json} {request : StorageDocument}
    (found : doc.get? path = some value) (notNull : value.isNull = false)
    (decoded : StorageDocument.record.decode value = .ok request) :
    storage doc path = (do
      let size ← storageSize value "size"
      pure (some ⟨request.accessModes, request.storageClass, size⟩)) := by
  rw [storage, found]
  cases value with
  | null => cases notNull
  | _ =>
      dsimp only
      rw [decoded]

/-- A volume request is read where it was written, and with size zero and a notice if the amount
that its size stands for is no signed word. -/
theorem storage_of_get? {spec : StorageSpec}
    (found : doc.get? path = some (Writing.storage (some spec))) :
    storage doc path =
      if IsSignedWord (spec.size.toInt * BinaryUnit.gibi.scale) then
        pure (some spec)
      else
        .report (.badQuantity "size"
          ⟨(⟨spec.size.toInt, 0, BinaryUnit.gibi.power⟩ : Quantity).display, .valueOutOfRange⟩)
          (some { spec with size := 0 }) := by
  have decoded := StorageDocument.format_lawful
    ⟨spec.accessModes, spec.storageClass, Writing.storageSize spec.size⟩
  have atSize : (Writing.storage (some spec)).get? "size" =
      some (.str (BinaryUnit.gibi.write spec.size)) := rfl
  rw [storage_of_decode found rfl decoded, storageSize, quantity_of_get? atSize]
  split <;> rfl

theorem value_storage_of_get? {spec : StorageSpec}
    (found : doc.get? path = some (Writing.storage (some spec))) :
    (storage doc path).value = some spec.kept := by
  rw [storage_of_get? found, StorageSpec.kept, BinaryUnit.kept]
  split <;> rfl

theorem value_storage_of_none (missing : doc.get? path = none) :
    (storage doc path).value = none := by
  rw [storage, missing]
  rfl

theorem kept_storage : ∀ spec ∈ (storage doc path).value, spec.kept = spec := by
  intro spec membership
  rw [storage] at membership
  split at membership
  · cases membership
  · cases membership
  · split at membership
    · cases membership
    · cases membership
      rw [StorageSpec.kept, storageSize, kept_quantity]

end Reading

namespace KnobType

variable {type : KnobType} {doc : Json} {path : String}

theorem value_read_of_get? {value : type.Value} (notCores : type ≠ .cores)
    (found : doc.get? path = some (type.write value)) :
    (type.read doc path).value = type.kept value := by
  cases type with
  | text =>
      change doc.textAt path = value
      rw [Json.textAt, found]
      rfl
  | integer =>
      change (Reading.integer doc path).value = value
      rw [Reading.integer, found]
      simp [write, Json.ofInt64]
  | flag =>
      change Reading.flag doc path = value
      rw [Reading.flag, found]
      rfl
  | environment =>
      have decoded : (format .environment).decode (write .environment value) = .ok value :=
        Format.list_lawful EnvVar.format_lawful value
      exact Reading.value_environment_of_decode found rfl decoded
  | memory => exact Reading.value_quantity_of_get? found
  | cores => exact absurd rfl notCores

theorem value_read_of_none (missing : doc.get? path = none) :
    (type.read doc path).value = type.zero := by
  cases type with
  | text =>
      change doc.textAt path = ""
      rw [Json.textAt, missing]
  | integer =>
      change (Reading.integer doc path).value = 0
      rw [Reading.integer, missing]
      rfl
  | flag =>
      change Reading.flag doc path = false
      rw [Reading.flag, missing]
  | environment =>
      change (Reading.environment doc path).value = []
      rw [Reading.environment, missing]
      rfl
  | memory =>
      change (Reading.quantity (BinaryUnit.mebi.read .wraps) 0 doc path).value = 0
      rw [Reading.quantity, Reading.quantityText?_of_none missing]
      rfl
  | cores =>
      change (Reading.quantity (Cores.read .wraps) (.zero false) doc path).value = .zero false
      rw [Reading.quantity, Reading.quantityText?_of_none missing]
      rfl

theorem kept_read (type : KnobType) (doc : Json) (path : String) :
    type.kept (type.read doc path).value = (type.read doc path).value := by
  cases type with
  | memory => exact Reading.kept_quantity .mebi doc path
  | _ => rfl

end KnobType

end ChartParams
