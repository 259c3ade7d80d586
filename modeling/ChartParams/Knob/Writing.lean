import ChartParams.Json.Leaf
import ChartParams.Knob.Reading

/-!
# Writing values into documents

The document that stands for a value at its path.
-/

namespace ChartParams

namespace Writing

def float (x : Binary64) : Except Error Json :=
  match Number.ofBinary64? x with
  | some n => .ok (.num n)
  | none => .error (.parameter "" .float (.notFinite x))

def storageSize (size : Int64) : Json := .str (BinaryUnit.gibi.write size)

def storage : Option StorageSpec → Json
  | none => .null
  | some spec =>
      StorageDocument.record.format.encode
        ⟨spec.accessModes, spec.storageClass, storageSize spec.size⟩

/-- The document that a payload spells, null for the empty payload. -/
def payload (raw : String) : Except Error Json :=
  if raw.isEmpty then .ok .null else Json.parse raw

end Writing

def KnobType.write : (type : KnobType) → type.Value → Json
  | text, value => .str value
  | integer, value => .ofInt64 value
  | flag, value => .bool value
  | environment, value => (KnobType.format .environment).encode value
  | memory, value => .str (BinaryUnit.mebi.write value)
  | cores, value => .str (Cores.write value)

end ChartParams
