import ChartParams.Format.Record

/-!
# Values of knobs

A knob is a fixed part of a role that a user may set. Its type decides what its value is: a text, a
whole number, a flag, a list of environment variables, an amount of memory in mebi units, or a
number of cores. A storage request is a value of its own.
-/

namespace ChartParams

structure EnvVar where
  name : String
  value : String
deriving DecidableEq

/-- A request for a volume, with its size in gibi units. -/
structure StorageSpec where
  accessModes : List String
  storageClass : String
  size : Int64
deriving DecidableEq

inductive KnobType
  | text
  | integer
  | flag
  | environment
  | memory
  | cores
deriving DecidableEq

@[reducible]
def KnobType.Value : KnobType → Type
  | text => String
  | integer => Int64
  | flag => Bool
  | environment => List EnvVar
  | memory => Int64
  | cores => Binary64

namespace KnobType

def zero : (type : KnobType) → type.Value
  | text => ""
  | integer => 0
  | flag => false
  | environment => []
  | memory => 0
  | cores => .zero false

/-- Equality of values. Numbers of cores are compared as numbers. -/
def same : (type : KnobType) → type.Value → type.Value → Bool
  | text, a, b => a == b
  | integer, a, b => a == b
  | flag, a, b => a == b
  | environment, a, b => a == b
  | memory, a, b => a == b
  | cores, a, b => a.same b

end KnobType

def Field.plain {σ β : Type} (key : String) (format : Format β) (get : σ → β) (absent : β) :
    Field σ β :=
  ⟨key, format, get, some absent, fun _ => true⟩

def Field.required {σ β : Type} (key : String) (format : Format β) (get : σ → β) : Field σ β :=
  ⟨key, format, get, none, fun _ => true⟩

/-- A field that may be missing and is written as null then. -/
def Field.nullable {σ β : Type} (key : String) (format : Format β) (get : σ → Option β) :
    Field σ (Option β) :=
  ⟨key, format.optional, get, some none, fun _ => true⟩

/-- A field that may be missing and is not written then. -/
def Field.omittable {σ β : Type} (key : String) (format : Format β) (get : σ → Option β) :
    Field σ (Option β) :=
  ⟨key, format.optional, get, some none, Option.isSome⟩

def EnvVar.record : Record EnvVar where
  name := "EnvVar"
  isStrict := false
  make := EnvVar.mk
  fields :=
    .field (.required "name" .text EnvVar.name) <|
    .field (.plain "value" .text EnvVar.value "") <|
    .done

def StorageSpec.record : Record StorageSpec where
  name := "StorageSpec"
  isStrict := false
  make := StorageSpec.mk
  fields :=
    .field (.plain "accessModes" (.list .text) StorageSpec.accessModes []) <|
    .field (.plain "storageClass" .text StorageSpec.storageClass "") <|
    .field (.plain "size" .int64 StorageSpec.size 0) <|
    .done

/-- The format of the values of knobs in schemas and parameter lists. -/
def KnobType.format : (type : KnobType) → Format type.Value
  | text => .text
  | integer => .int64
  | flag => .flag
  | environment => .list EnvVar.record.format
  | memory => .int64
  | cores => .binary64

end ChartParams
