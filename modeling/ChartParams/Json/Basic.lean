import ChartParams.Numeric.Binary64

/-!
# Documents

JSON documents with the order of their members, and the operations on the members of an object.
A `Number` is a whole number of one machine word or a finite double, and keeps which of the two it
is. `Json.WellFormed` says that no object names a key twice.
-/

namespace ChartParams

inductive Number
  | int (value : Int) (range : IsWord value)
  | float (value : Binary64) (finite : value.isFinite = true)
deriving DecidableEq

namespace Number

/-- The whole number `n`, if it is a signed or an unsigned word. -/
def ofInt? (n : Int) : Option Number :=
  if range : IsWord n then some (int n range) else none

def ofBinary64? (x : Binary64) : Option Number :=
  if finite : x.isFinite = true then some (float x finite) else none

def ofInt64 (w : Int64) : Number :=
  int w.toInt ⟨(isSignedWord_toInt w).1, by have := (isSignedWord_toInt w).2; omega⟩

def int64? : Number → Option Int64
  | int n _ => ChartParams.int64? n
  | float _ _ => none

def toBinary64 : Number → Binary64
  | int n _ => .ofInt n
  | float x _ => x

@[simp]
theorem int64?_ofInt64 (w : Int64) : (ofInt64 w).int64? = some w :=
  int64?_toInt w

/-- Whether two numbers are the same: of the same form and with the same value. -/
def same : Number → Number → Bool
  | int m _, int n _ => m == n
  | float x _, float y _ => x.same y
  | _, _ => false

end Number

inductive Json
  | null
  | bool (value : Bool)
  | num (value : Number)
  | str (value : String)
  | arr (items : List Json)
  | obj (members : List (String × Json))

instance : Inhabited Json := ⟨.null⟩

/-- The members of an object, in their order. -/
abbrev Members := List (String × Json)

namespace Members

def keys (members : Members) : List String := members.map Prod.fst

def get? (key : String) : Members → Option Json
  | [] => none
  | (k, v) :: rest => if k = key then some v else get? key rest

/-- Give a key a value: in place if the key is there, else at the end. -/
def put (key : String) (value : Json) : Members → Members
  | [] => [(key, value)]
  | (k, v) :: rest => if k = key then (k, value) :: rest else (k, v) :: put key value rest

/-- Remove a key. The last member moves into the place that becomes free. -/
def remove (key : String) : Members → Members
  | [] => []
  | (k, v) :: rest =>
      if k = key then
        match rest.getLast? with
        | none => []
        | some last => last :: rest.dropLast
      else
        (k, v) :: remove key rest

@[simp]
theorem get?_nil (key : String) : get? key [] = none := rfl

@[simp]
theorem get?_put_self (key : String) (value : Json) (members : Members) :
    get? key (put key value members) = some value := by
  fun_induction put key value members with
  | case1 => simp [get?]
  | case2 v rest => simp [get?]
  | case3 k v rest other inductionHypothesis => simp [get?, other, inductionHypothesis]

theorem get?_put_of_ne {key other : String} (different : other ≠ key) (value : Json)
    (members : Members) : get? other (put key value members) = get? other members := by
  fun_induction put key value members with
  | case1 => simp [get?, different.symm]
  | case2 v rest => simp [get?, different.symm]
  | case3 k v rest _ inductionHypothesis => simp [get?, inductionHypothesis]

end Members

namespace Json

def ofInt64 (w : Int64) : Json := .num (.ofInt64 w)

def isNull : Json → Bool
  | null => true
  | _ => false

def isObject : Json → Bool
  | obj _ => true
  | _ => false

def member? (key : String) : Json → Option Json
  | obj members => Members.get? key members
  | _ => none

mutual

/-- No object names a key twice. -/
def WellFormed : Json → Prop
  | null | bool _ | num _ | str _ => True
  | arr items => AllWellFormed items
  | obj members => (Members.keys members).Nodup ∧ MembersWellFormed members

def AllWellFormed : List Json → Prop
  | [] => True
  | item :: rest => WellFormed item ∧ AllWellFormed rest

def MembersWellFormed : List (String × Json) → Prop
  | [] => True
  | (_, value) :: rest => WellFormed value ∧ MembersWellFormed rest

end

mutual

/-- Equality of documents in which the order of the members does not matter. -/
def same : Json → Json → Bool
  | null, null => true
  | bool a, bool b => a == b
  | num a, num b => a.same b
  | str a, str b => a == b
  | arr xs, arr ys => sameItems xs ys
  | obj ms, obj ns => ms.length == ns.length && sameMembers ms ns
  | _, _ => false

def sameItems : List Json → List Json → Bool
  | [], [] => true
  | x :: xs, y :: ys => same x y && sameItems xs ys
  | _, _ => false

def sameMembers : List (String × Json) → Members → Bool
  | [], _ => true
  | (key, value) :: rest, others =>
      (match Members.get? key others with
        | some other => same value other
        | none => false) && sameMembers rest others

end

end Json

end ChartParams
