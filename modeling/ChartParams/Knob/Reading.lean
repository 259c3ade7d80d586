import ChartParams.Json.Leaf
import ChartParams.Knob.Value
import ChartParams.Notice
import ChartParams.Quantity.Units

/-!
# Reading knobs from documents

Reading never fails. What is missing or malformed reads as the zero of its type, malformed data with
a notice.
-/

namespace ChartParams

namespace Reading

/-- A whole number: a number without its fraction, a numeral, or a flag as zero or one. -/
def integer (doc : Json) (path : String) : Logged Notice Int64 :=
  match doc.get? path with
  | some (.num n) => pure (n.int64?.getD n.toBinary64.toInt64)
  | some (.str s) =>
      match Numeral.readInt64 (trim s) with
      | .ok n => pure n
      | .error _ =>
          match Numeral.readBinary64 (trim s) with
          | .ok x => pure x.toInt64
          | .error _ => .report (.badInteger path s) 0
  | some (.bool b) => pure (if b then 1 else 0)
  | _ => pure 0

/-- A float: a number, a numeral, or a flag as zero or one. -/
def float (doc : Json) (path : String) : Logged Notice Binary64 :=
  match doc.get? path with
  | some (.num n) => pure n.toBinary64
  | some (.str s) =>
      match Numeral.readBinary64 (trim s) with
      | .ok x => pure x
      | .error _ => .report (.badFloat path s) (.zero false)
  | some (.bool b) => pure (.ofInt (if b then 1 else 0))
  | _ => pure (.zero false)

/-- The flag that a text spells: one, `t` or `true` and zero, `f` or `false`, in lower case, upper
case or capitalised. -/
def flag? (text : String) : Option Bool :=
  let word := trim text
  if ["1", "t", "T", "true", "TRUE", "True"].contains word then
    some true
  else if ["0", "f", "F", "false", "FALSE", "False"].contains word then
    some false
  else
    none

/-- A flag: itself, a number other than zero, or the spelling of a flag. -/
def flag (doc : Json) (path : String) : Bool :=
  match doc.get? path with
  | some (.bool b) => b
  | some (.num n) => !n.toBinary64.isZero
  | some (.str s) => (flag? s).getD false
  | _ => false

def environment (doc : Json) (path : String) : Logged Notice (List EnvVar) :=
  match doc.get? path with
  | none | some .null => pure []
  | some value =>
      match (KnobType.format .environment).decode value with
      | .ok env => pure env
      | .error fault => .report (.badEnvironment path fault) []

def quantityText? (doc : Json) (path : String) : Option String :=
  let text := doc.textAt path
  if path.isEmpty ∨ text.isEmpty then none else some text

/-- A quantity in some unit, of which zero is read if there is none or it is malformed. -/
def quantity {α : Type} (read : String → Except Quantity.Error α) (zero : α) (doc : Json)
    (path : String) : Logged Notice α :=
  match quantityText? doc path with
  | none => pure zero
  | some text =>
      match read text with
      | .ok value => pure value
      | .error error => .report (.badQuantity path error) zero

def memory : Json → String → Logged Notice Int64 := quantity (BinaryUnit.mebi.read .wraps) 0

def storageSize : Json → String → Logged Notice Int64 := quantity (BinaryUnit.gibi.read .wraps) 0

def cores : Json → String → Logged Notice Binary64 := quantity (Cores.read .wraps) (.zero false)

end Reading

/-- A volume request as it stands in a document, where its size is a quantity. -/
structure StorageDocument where
  accessModes : List String
  storageClass : String
  size : Json

def StorageDocument.record : Record StorageDocument where
  name := "StorageDocument"
  isStrict := false
  make := StorageDocument.mk
  fields :=
    .field (.plain "accessModes" (.list .text) StorageDocument.accessModes []) <|
    .field (.plain "storageClass" .text StorageDocument.storageClass "") <|
    .field (.plain "size" .document StorageDocument.size .null) <|
    .done

namespace Reading

def storage (doc : Json) (path : String) : Logged Notice (Option StorageSpec) :=
  match doc.get? path with
  | none | some .null => pure none
  | some value =>
      match StorageDocument.record.decode value with
      | .error fault => .report (.badStorage path fault) none
      | .ok request => do
          let size ← storageSize value "size"
          pure (some ⟨request.accessModes, request.storageClass, size⟩)

end Reading

def KnobType.read : (type : KnobType) → Json → String → Logged Notice type.Value
  | text, doc, path => pure (doc.textAt path)
  | integer, doc, path => Reading.integer doc path
  | flag, doc, path => pure (Reading.flag doc path)
  | environment, doc, path => Reading.environment doc path
  | memory, doc, path => Reading.memory doc path
  | cores, doc, path => Reading.cores doc path

end ChartParams
