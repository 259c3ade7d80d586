import ChartParams.Format.Basic

/-!
# Records

The format of a structure is the list of its fields, each with its key, the format of its value and
what a missing key stands for. A record is kept as an object. An array with the values of the
fields in the order of their declaration is read as well, and may stop where only fields are left
that need not be there.

The members of an object are looked at in the order in which they stand, so the first one that does
not fit decides the fault; keys that are missing are reported after that, in the order of
declaration.
-/

namespace ChartParams

structure Field (σ β : Type) where
  key : String
  format : Format β
  get : σ → β
  /-- What a missing key stands for. A field without it is required. -/
  absent : Option β
  /-- Whether a value is written at all. -/
  isWritten : β → Bool

/-- The fields that turn a value of the second type, which takes one argument for each, into the
structure `σ`. -/
inductive Fields (σ : Type) : Type → Type 1
  | done : Fields σ σ
  | field {α β : Type} (first : Field σ β) (rest : Fields σ α) : Fields σ (β → α)

namespace Fields

variable {σ α : Type}

def keys {α : Type} : Fields σ α → List String
  | done => []
  | field first rest => first.key :: rest.keys

def members {α : Type} : Fields σ α → σ → Members
  | done, _ => []
  | field first rest, value =>
      let content := first.get value
      if first.isWritten content then
        (first.key, first.format.encode content) :: rest.members value
      else
        rest.members value

/-- Why the value at a key does not fit the field of that key. -/
def faultAt? {α : Type} (key : String) (value : Json) : Fields σ α → Option FormatFault
  | done => none
  | field first rest =>
      if first.key = key then
        match first.format.decode value with
        | .ok _ => none
        | .error fault => some fault
      else
        rest.faultAt? key value

/-- The structure made from the values at the keys of an object. -/
def ofMembers {α : Type} (members : Members) : Fields σ α → α → Except FormatFault σ
  | done, made => .ok made
  | field first rest, make => do
      let content ← match members.get? first.key, first.absent with
        | some value, _ => first.format.decode value
        | none, some content => .ok content
        | none, none => .error (.missingField first.key)
      rest.ofMembers members (make content)

/-- The structure made from items in the order of the fields, and the items that are left.
`tooFew index` is the fault of a required field that has no item. -/
def ofItems {α : Type} (tooFew : Nat → FormatFault) (index : Nat) :
    Fields σ α → α → List Json → Except FormatFault (σ × List Json)
  | done, made, items => .ok (made, items)
  | field first rest, make, item :: items => do
      let content ← first.format.decode item
      rest.ofItems tooFew (index + 1) (make content) items
  | field first rest, make, [] =>
      match first.absent with
      | some content => rest.ofItems tooFew (index + 1) (make content) []
      | none => .error (tooFew index)

def rebuild {α : Type} (value : σ) : Fields σ α → α → σ
  | done, made => made
  | field first rest, make => rest.rebuild value (make (first.get value))

end Fields

/-- The format of the structure `σ`. -/
structure Record (σ : Type) where
  name : String
  /-- Whether a key that is no field is a fault. -/
  isStrict : Bool
  {Maker : Type}
  make : Maker
  fields : Fields σ Maker

namespace Record

variable {σ : Type}

def keys (record : Record σ) : List String := record.fields.keys

def memberFault? (record : Record σ) : String × Json → Option FormatFault
  | (key, value) =>
      if record.isStrict ∧ key ∉ record.keys then
        some (.unknownField key record.keys)
      else
        record.fields.faultAt? key value

def decode (record : Record σ) : Json → Except FormatFault σ
  | .obj members =>
      match members.findSome? record.memberFault? with
      | some fault => .error fault
      | none => record.fields.ofMembers members record.make
  | .arr items => do
      let (value, rest) ←
        record.fields.ofItems (.tooFewItems · record.name record.keys.length) 0 record.make items
      if rest.isEmpty then .ok value else .error (.tooManyItems items.length)
  | doc => .error (.wrongType doc.found ("struct " ++ record.name))

def format (record : Record σ) : Format σ where
  decode := record.decode
  encode value := .obj (record.fields.members value)

end Record

end ChartParams
