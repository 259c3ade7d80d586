import ChartParams.Numeric.Numeral
import ChartParams.Text.Blank

/-!
# Resource quantities

The `<number><suffix>` notation for memory, cpu and storage: `512Mi`, `500m`, `10Gi`, `1e3`. A
quantity is kept exactly, as `mantissa * 10 ^ exp10 * 2 ^ exp2`. Exponents of ten are words of 32
bits. What becomes of one that does not fit is a parameter of everything that computes with them.
-/

namespace ChartParams

structure Quantity where
  mantissa : Int
  exp10 : Int32
  exp2 : Nat
deriving DecidableEq

namespace Quantity

/-- The unit after the digits: a decimal one, a binary one or a power of ten that is spelled out. -/
inductive Suffix
  | decimal (power : Int32)
  | binary (power : Nat)
  | exponent (power : Int)
deriving DecidableEq

structure Spelling where
  negative : Bool
  whole : List Char
  fraction : List Char
  suffix : Suffix

inductive Fault
  | noQuantity
  | noNumber
  | tooManyDigits
  | malformedExponent
  | exponentOutOfRange
  | valueOutOfRange
  /-- The computation ended because an exponent of ten is no word. -/
  | overflow
deriving DecidableEq

def Fault.message : Fault → String
  | noQuantity => "expected <number><suffix>"
  | noNumber => "missing number"
  | tooManyDigits => "too many significant digits"
  | malformedExponent => "malformed exponent"
  | exponentOutOfRange => "exponent out of range"
  | valueOutOfRange => "value out of range"
  | overflow => "arithmetic overflow"

structure Error where
  input : String
  fault : Fault
deriving DecidableEq

def Error.message (error : Error) : String :=
  "Invalid quantity '" ++ error.input ++ "': " ++ error.fault.message

/-- What becomes of a result that is no word of 32 bits. A program is built with one of the two. -/
inductive Overflow
  /-- It is taken modulo `2 ^ 32`. -/
  | wraps
  /-- The computation ends. -/
  | ends
deriving DecidableEq

def Overflow.word (overflow : Overflow) (n : Int) : Except Fault Int32 :=
  match overflow with
  | wraps => .ok (Int32.ofInt n)
  | ends => if IsSignedHalfWord n then .ok (Int32.ofInt n) else .error .overflow

def maxDigits : Nat := 30

def maxExponent : Int32 := 64

def suffix? : List Char → Option Suffix
  | [] => some (.decimal 0)
  | ['n'] => some (.decimal (-9))
  | ['u'] => some (.decimal (-6))
  | ['m'] => some (.decimal (-3))
  | ['k'] => some (.decimal 3)
  | ['M'] => some (.decimal 6)
  | ['G'] => some (.decimal 9)
  | ['T'] => some (.decimal 12)
  | ['P'] => some (.decimal 15)
  | ['E'] => some (.decimal 18)
  | ['K', 'i'] => some (.binary 10)
  | ['M', 'i'] => some (.binary 20)
  | ['G', 'i'] => some (.binary 30)
  | ['T', 'i'] => some (.binary 40)
  | ['P', 'i'] => some (.binary 50)
  | ['E', 'i'] => some (.binary 60)
  | 'e' :: power | 'E' :: power => (Numeral.exponent? power).map .exponent
  | _ => none

/-- The parts of a text that is written like a quantity: an optional sign, digits, a point with
digits after it or none, and a suffix. -/
def spelling? (text : List Char) : Option Spelling :=
  let (negative, text) := match text with
    | '-' :: rest => (true, rest)
    | '+' :: rest => (false, rest)
    | rest => (false, rest)
  let (whole, text) := Numeral.spanDigits text
  let (fraction, text) := match text with
    | '.' :: rest => Numeral.spanDigits rest
    | rest => ([], rest)
  (suffix? text).map fun suffix => ⟨negative, whole, fraction, suffix⟩

/-- The powers of ten and two that a suffix stands for. The size of the lowest word is none. -/
def Suffix.powers (overflow : Overflow) : Suffix → Except Fault (Int32 × Nat)
  | decimal power => .ok (power, 0)
  | binary power => .ok (0, power)
  | exponent power =>
      if IsSignedHalfWord power then do
        let size ← overflow.word power.natAbs
        if size ≤ maxExponent then
          .ok (Int32.ofInt power, 0)
        else
          .error .exponentOutOfRange
      else
        .error .malformedExponent

def Spelling.quantity (overflow : Overflow) (spelling : Spelling) : Except Fault Quantity :=
  let digits := spelling.whole ++ spelling.fraction
  if digits.isEmpty then
    .error .noNumber
  else if maxDigits < (digits.dropWhile (· == '0')).length then
    .error .tooManyDigits
  else do
    let places ← overflow.word (-(Int32.ofNat spelling.fraction.length).toInt)
    let (power10, power2) ← spelling.suffix.powers overflow
    let exp10 ← overflow.word (places.toInt + power10.toInt)
    let size : Int := Numeral.ofDigits digits
    .ok ⟨if spelling.negative then -size else size, exp10, power2⟩

def parse (overflow : Overflow) (input : String) : Except Error Quantity :=
  let result : Except Fault Quantity := match spelling? (trimBlanks input.toList) with
    | none => .error .noQuantity
    | some spelling => spelling.quantity overflow
  result.mapError (⟨input, ·⟩)

def display (q : Quantity) : String :=
  toString q.mantissa ++ "e" ++ toString q.exp10.toInt ++
    (if 0 < q.exp2 then "*2^" ++ toString q.exp2 else "")

def inRange? (n : Int) : Option Int := if IsSignedLongWord n then some n else none

def powerOfTen? (exponent : Nat) : Option Int :=
  if exponent ≤ 38 then some (Nat.pow 10 exponent) else none

def divideAway (num den : Int) : Int :=
  if num.tmod den = 0 then num.tdiv den else num.tdiv den + num.sign

/-- A number times a power of ten, rounded away from zero. The product stays within 128 bits, and
the result within 64. -/
def rescale? (num power : Int) : Option Int64 := do
  let result ←
    if 0 ≤ power then do
      let factor ← powerOfTen? power.toNat
      inRange? (num * factor)
    else
      match powerOfTen? power.natAbs with
      | some divisor => some (divideAway num divisor)
      | none => some num.sign
  int64? result

def orOutOfRange {α : Type} : Option α → Except Fault α
  | some value => .ok value
  | none => .error .valueOutOfRange

/-- The value times `10 ^ shift`, rounded away from zero. -/
def scaled (overflow : Overflow) (q : Quantity) (shift : Int32) : Except Error Int64 :=
  let result : Except Fault Int64 := do
    let num ← orOutOfRange (inRange? (q.mantissa * Nat.pow 2 q.exp2))
    let power ← overflow.word (q.exp10.toInt + shift.toInt)
    orOutOfRange (rescale? num power.toInt)
  result.mapError (⟨q.display, ·⟩)

def value (overflow : Overflow) (q : Quantity) : Except Error Int64 := q.scaled overflow 0

def milliValue (overflow : Overflow) (q : Quantity) : Except Error Int64 := q.scaled overflow 3

end Quantity

end ChartParams
