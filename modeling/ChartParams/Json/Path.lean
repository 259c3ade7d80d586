import ChartParams.Json.Basic

/-!
# Paths into documents

A path such as `image.application.tag` names a list of keys, one inside the other; `\.` is a dot
that belongs to a key. Reading a path that leads nowhere gives nothing. Writing creates the objects
on the way and refuses to go through anything that is neither an object nor null.

`Path.split` turns paths into lists of keys and `Path.join` turns them back; `Json.getAt?` and
`Json.setAt` follow a list of keys.
-/

namespace ChartParams

namespace Path

def extendFirst (c : Char) : List (List Char) → List (List Char)
  | [] => [[c]]
  | key :: rest => (c :: key) :: rest

/-- The keys of a path, as characters. A backslash is literal unless a dot follows it. -/
def splitChars : List Char → List (List Char)
  | [] => [[]]
  | '\\' :: '.' :: rest => extendFirst '.' (splitChars rest)
  | '.' :: rest => [] :: splitChars rest
  | c :: rest => extendFirst c (splitChars rest)

def split (path : String) : List String := (splitChars path.toList).map String.ofList

def escapeDots : List Char → List Char
  | [] => []
  | '.' :: rest => '\\' :: '.' :: escapeDots rest
  | c :: rest => c :: escapeDots rest

def joinChars : List (List Char) → List Char
  | [] => []
  | [key] => escapeDots key
  | key :: rest => escapeDots key ++ '.' :: joinChars rest

/-- The path that names a list of keys. -/
def join (keys : List String) : String := String.ofList (joinChars (keys.map String.toList))

inductive Fault
  | emptyKey
  /-- The value at `key` on the way is neither an object nor null. -/
  | notObject (key : String)
deriving DecidableEq

def rootName : String := "(root)"

@[simp]
theorem extendFirst_ne_nil (c : Char) (keys : List (List Char)) : extendFirst c keys ≠ [] := by
  cases keys <;> simp [extendFirst]

@[simp]
theorem splitChars_ne_nil (path : List Char) : splitChars path ≠ [] := by
  fun_cases splitChars path <;> simp

@[simp]
theorem split_ne_nil (path : String) : split path ≠ [] := by
  simp [split]

end Path

namespace Json

/-- The value that a list of keys leads to. Every key is a key of an object, so none reaches into
an array. -/
def getAt? : Json → List String → Option Json
  | doc, [] => some doc
  | doc, key :: rest => (doc.member? key).bind (getAt? · rest)

/-- The value at a path. The empty path leads nowhere. -/
def get? (doc : Json) (path : String) : Option Json :=
  if path.isEmpty then none else doc.getAt? (Path.split path)

/-- The members of a document to which a key can be written, null having none. -/
def writableMembers? : Json → Option Members
  | null => some []
  | obj members => some members
  | _ => none

/-- Write a value where a list of keys leads. `name` is the last key on the way to the document. -/
def setAtFrom (value : Json) (name : String) : List String → Json → Except Path.Fault Json
  | [], _ => .ok value
  | key :: rest, doc =>
      match doc.writableMembers? with
      | none => .error (.notObject name)
      | some members =>
          (setAtFrom value key rest ((members.get? key).getD null)).map fun child =>
            obj (members.put key child)

def setAt (doc : Json) (keys : List String) (value : Json) : Except Path.Fault Json :=
  setAtFrom value Path.rootName keys doc

def set (doc : Json) (path : String) (value : Json) : Except Path.Fault Json :=
  let keys := Path.split path
  if keys.any String.isEmpty then .error .emptyKey else doc.setAt keys value

@[simp]
theorem getAt?_nil (doc : Json) : doc.getAt? [] = some doc := rfl

@[simp]
theorem getAt?_cons (doc : Json) (key : String) (rest : List String) :
    doc.getAt? (key :: rest) = (doc.member? key).bind (getAt? · rest) := rfl

theorem getAt?_append (doc : Json) (first second : List String) :
    doc.getAt? (first ++ second) = (doc.getAt? first).bind (getAt? · second) := by
  induction first generalizing doc with
  | nil => rfl
  | cons key rest inductionHypothesis =>
      simp only [List.cons_append, getAt?_cons]
      cases doc.member? key with
      | none => rfl
      | some child => simpa using inductionHypothesis child

end Json

end ChartParams
