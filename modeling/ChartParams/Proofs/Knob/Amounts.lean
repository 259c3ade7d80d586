import ChartParams.Proofs.Json.Writing
import ChartParams.Proofs.Knob.ReadBack
import Mathlib.Algebra.Group.Int.Defs

/-!
# Amounts that are set and read

Memory is set in whole mebi units and storage in whole gibi units. What was set is read at the same
path without a notice, provided that the amount in bytes is a signed word. Any other amount reads as
zero, with a warning that names the path and the amount.
-/

namespace ChartParams

theorem Json.get?_of_set {doc written value : Json} {path : String}
    (success : doc.set path value = .ok written) : written.get? path = some value := by
  obtain ⟨valid, wrote⟩ := set_eq_ok_iff.mp success
  rw [get?_of_valid valid]
  exact getAt?_setAtFrom_self wrote

def Notice.outOfRange (unit : BinaryUnit) (path : String) (count : Int64) : Notice :=
  .badQuantity path ⟨(⟨count.toInt, 0, unit.power⟩ : Quantity).display, .valueOutOfRange⟩

theorem Notice.isWarning_outOfRange (unit : BinaryUnit) (path : String) (count : Int64) :
    (outOfRange unit path count).isWarning = true := rfl

namespace Reading

/-- Amounts are read where they were set, exactly up to those that are no signed word in bytes.
These read as zero with one warning, and a volume request keeps its other parts. -/
theorem read_set_amount {doc written : Json} {path : String} :
    (∀ count : Int64, doc.set path (KnobType.memory.write count) = .ok written →
      KnobType.memory.read written path =
        if IsSignedWord (count.toInt * 2 ^ 20) then
          pure count
        else
          .report (.outOfRange .mebi path count) 0) ∧
    (∀ count : Int64, doc.set path (Writing.storageSize count) = .ok written →
      storageSize written path =
        if IsSignedWord (count.toInt * 2 ^ 30) then
          pure count
        else
          .report (.outOfRange .gibi path count) 0) ∧
    (∀ spec : StorageSpec, doc.set path (Writing.storage (some spec)) = .ok written →
      storage written path =
        if IsSignedWord (spec.size.toInt * 2 ^ 30) then
          pure (some spec)
        else
          .report (.outOfRange .gibi "size" spec.size) (some { spec with size := 0 })) ∧
    ∀ unit place count, (Notice.outOfRange unit place count).isWarning = true := by
  refine ⟨fun count success => ?_, fun count success => ?_, fun spec success => ?_,
    Notice.isWarning_outOfRange⟩
  · exact quantity_of_get? (Json.get?_of_set success)
  · exact quantity_of_get? (Json.get?_of_set success)
  · exact storage_of_get? (Json.get?_of_set success)

/-- The lowest amount of memory is kept, and the amount of the opposite sign is none. A volume
request with such a size keeps its storage class. -/
theorem read_set_amount_limits :
    let doc := Json.obj [("web", .null)]
    let written (value : Json) := Json.obj [("web", .obj [("x.y", value)])]
    let spec : StorageSpec := ⟨["ReadWriteOnce"], "fast", 8589934592⟩
    doc.set "web.x\\.y" (KnobType.memory.write (-8796093022208)) =
        .ok (written (KnobType.memory.write (-8796093022208))) ∧
      KnobType.memory.read (written (KnobType.memory.write (-8796093022208))) "web.x\\.y" =
        pure (-8796093022208) ∧
      KnobType.memory.read (written (KnobType.memory.write 8796093022208)) "web.x\\.y" =
        .report (.outOfRange .mebi "web.x\\.y" 8796093022208) 0 ∧
      storageSize (written (Writing.storageSize (-8589934592))) "web.x\\.y" =
        pure (-8589934592) ∧
      storage (written (Writing.storage (some spec))) "web.x\\.y" =
        .report (.outOfRange .gibi "size" 8589934592) (some ⟨["ReadWriteOnce"], "fast", 0⟩) := by
  intro doc written spec
  have set : ∀ value, doc.set "web.x\\.y" value = .ok (written value) := fun _ => rfl
  refine ⟨set _, ?_, ?_, ?_, ?_⟩
  · exact (read_set_amount.1 _ (set _)).trans (if_pos (by decide))
  · exact (read_set_amount.1 _ (set _)).trans (if_neg (by decide))
  · exact (read_set_amount.2.1 _ (set _)).trans (if_pos (by decide))
  · exact (read_set_amount.2.2.1 _ (set _)).trans (if_neg (by decide))

end Reading

end ChartParams
