import ChartParams.Format.Fault
import ChartParams.Kind

/-!
# Formats

A format reads values of a type from documents and writes them back. A format is lawful if reading
what it wrote gives the value again, and every combinator here keeps that law. Some formats are
lawful at some of their values only.
-/

namespace ChartParams

/-- A way to keep values of a type in documents. -/
structure Format (α : Type) where
  decode : Json → Except FormatFault α
  encode : α → Json

namespace Format

variable {α : Type}

/-- Reading the document of a value gives the value. -/
def Lawful (format : Format α) : Prop :=
  ∀ value, format.decode (format.encode value) = .ok value

def LawfulAt (format : Format α) (value : α) : Prop :=
  format.decode (format.encode value) = .ok value

def document : Format Json := ⟨.ok, id⟩

def text : Format String where
  decode
    | .str s => .ok s
    | doc => .error (.wrongType doc.found "a string")
  encode := .str

def flag : Format Bool where
  decode
    | .bool b => .ok b
    | doc => .error (.wrongType doc.found "a boolean")
  encode := .bool

/-- A signed word, written without a fraction. -/
def int64 : Format Int64 where
  decode
    | .num (.int n _) =>
        match ChartParams.int64? n with
        | some w => .ok w
        | none => .error (.wrongValue (.integer n) "i64")
    | doc => .error (.wrongType doc.found "i64")
  encode := .ofInt64

/-- A double; whole numbers are taken to the nearest one. A value that is not finite is written as
null. -/
def binary64 : Format Binary64 where
  decode
    | .num n => .ok n.toBinary64
    | doc => .error (.wrongType doc.found "f64")
  encode x := match Number.ofBinary64? x with
    | some n => .num n
    | none => .null

def decodeItems (decode : Json → Except FormatFault α) :
    List Json → Except FormatFault (List α)
  | [] => .ok []
  | item :: rest => do
      let value ← decode item
      let values ← decodeItems decode rest
      .ok (value :: values)

def list (format : Format α) : Format (List α) where
  decode
    | .arr items => decodeItems format.decode items
    | doc => .error (.wrongType doc.found "a sequence")
  encode values := .arr (values.map format.encode)

/-- A value that may be missing, which is null. -/
def optional (format : Format α) : Format (Option α) where
  decode
    | .null => .ok none
    | doc => (format.decode doc).map some
  encode
    | none => .null
    | some value => format.encode value

/-- Insert an entry into a list that is sorted by key, in place of an entry with the same key. -/
def insertSorted (key : String) (value : α) : List (String × α) → List (String × α)
  | [] => [(key, value)]
  | (k, v) :: rest =>
      if k = key then (key, value) :: rest
      else if key < k then (key, value) :: (k, v) :: rest
      else (k, v) :: insertSorted key value rest

def decodeEntries (decode : Json → Except FormatFault α) :
    List (String × α) → Members → Except FormatFault (List (String × α))
  | done, [] => .ok done
  | done, (key, item) :: rest => do
      let value ← decode item
      decodeEntries decode (insertSorted key value done) rest

/-- An object with any keys, kept and written in the order of its keys. -/
def dictionary (format : Format α) : Format (List (String × α)) where
  decode
    | .obj members => decodeEntries format.decode [] members
    | doc => .error (.wrongType doc.found "a map")
  encode entries := .obj (entries.map fun (key, value) => (key, format.encode value))

/-- The name of a kind, alone or as the only key of an object whose value is null. -/
def kind : Format Kind where
  decode
    | .str name => .ok (.ofName name)
    | .obj [(name, .null)] => .ok (.ofName name)
    | .obj [(_, payload)] => .error (.wrongType payload.found "unit")
    | .obj _ => .error (.wrongValue .map "map with a single key")
    | doc => .error (.wrongType doc.found "string or map")
  encode kind := .str kind.name

theorem document_lawful : document.Lawful := fun _ => rfl

theorem text_lawful : text.Lawful := fun _ => rfl

theorem flag_lawful : flag.Lawful := fun _ => rfl

theorem int64_lawful : int64.Lawful := by
  intro w
  simp [int64, Json.ofInt64, Number.ofInt64]

theorem kind_lawful : kind.Lawful := by
  intro value
  simp [kind]

theorem list_lawfulAt {format : Format α} {values : List α}
    (each : ∀ value ∈ values, format.LawfulAt value) : format.list.LawfulAt values := by
  change decodeItems format.decode (values.map format.encode) = .ok values
  induction values with
  | nil => rfl
  | cons value rest inductionHypothesis =>
      obtain ⟨here, later⟩ := List.forall_mem_cons.mp each
      rw [List.map_cons, decodeItems, here, inductionHypothesis later]
      rfl

theorem list_lawful {format : Format α} (lawful : format.Lawful) : format.list.Lawful :=
  fun _ => list_lawfulAt fun value _ => lawful value

theorem optional_decode {format : Format α} {doc : Json} (present : doc ≠ .null) :
    format.optional.decode doc = (format.decode doc).map some := by
  cases doc with
  | null => exact absurd rfl present
  | _ => rfl

theorem optional_lawfulAt {format : Format α} {option : Option α}
    (each : ∀ value ∈ option, format.LawfulAt value ∧ format.encode value ≠ .null) :
    format.optional.LawfulAt option := by
  cases option with
  | none => rfl
  | some value =>
      obtain ⟨readBack, present⟩ := each value rfl
      change format.optional.decode (format.encode value) = .ok (some value)
      rw [optional_decode present, readBack]
      rfl

theorem optional_lawful {format : Format α} (lawful : format.Lawful)
    (present : ∀ value, format.encode value ≠ .null) : format.optional.Lawful :=
  fun _ => optional_lawfulAt fun value _ => ⟨lawful value, present value⟩

end Format

end ChartParams
