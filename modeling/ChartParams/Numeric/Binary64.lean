import ChartParams.Numeric.Word

/-!
# Doubles

The 64 bit binary interchange format. A finite value is `significand * 2 ^ exponent` with a sign;
every operation is exact on that reading and rounds once, to the nearest value, a half going to
the even neighbour.
-/

namespace ChartParams

/-- A double, given by its bits. -/
structure Binary64 where
  bits : UInt64
deriving DecidableEq

namespace Binary64

instance : Inhabited Binary64 := ⟨⟨0⟩⟩

def fractionCount : Nat := 0x10_0000_0000_0000

/-- The bits of the largest exponent, which infinity and NaN have. -/
def topExponent : Nat := 0x7FF

def signBit : Nat := 0x8000_0000_0000_0000

def isNegative (x : Binary64) : Bool := signBit ≤ x.bits.toNat

def exponentField (x : Binary64) : Nat := x.bits.toNat / fractionCount % (topExponent + 1)

def fractionField (x : Binary64) : Nat := x.bits.toNat % fractionCount

def isFinite (x : Binary64) : Bool := x.exponentField != topExponent

def isNaN (x : Binary64) : Bool := !x.isFinite && x.fractionField != 0

def isInfinite (x : Binary64) : Bool := !x.isFinite && x.fractionField == 0

def significand (x : Binary64) : Nat :=
  if x.exponentField = 0 then x.fractionField else fractionCount + x.fractionField

def exponent (x : Binary64) : Int := (max x.exponentField 1 : Int) - 1075

def isZero (x : Binary64) : Bool := x.exponentField == 0 && x.fractionField == 0

/-- The double with this sign whose other 63 bits spell `magnitude`. -/
def ofMagnitude (negative : Bool) (magnitude : Nat) : Binary64 :=
  ⟨UInt64.ofNat ((if negative then signBit else 0) + magnitude)⟩

def zero (negative : Bool) : Binary64 := ofMagnitude negative 0

def infinity (negative : Bool) : Binary64 := ofMagnitude negative (topExponent * fractionCount)

def nan : Binary64 := ofMagnitude false (topExponent * fractionCount + fractionCount / 2)

/-- A quotient to the nearest whole number, a half going to the even neighbour. -/
def roundQuotient (num den : Nat) : Nat :=
  let quotient := num / den
  let doubled := 2 * (num % den)
  if doubled < den ∨ (doubled = den ∧ quotient % 2 = 0) then quotient else quotient + 1

def dividedByPower (num den : Nat) (power : Int) : Nat × Nat :=
  (num * Nat.pow 2 (-power).toNat, den * Nat.pow 2 power.toNat)

/-- The double nearest to `num / den`, infinite from half a step above the largest finite one. -/
def ofRatio (negative : Bool) (num den : Nat) : Binary64 :=
  if num = 0 then
    zero negative
  else
    let low := max (-1074) ((num.log2 : Int) - den.log2 - 53)
    let (scaledNum, scaledDen) := dividedByPower num den low
    let power := if scaledNum / scaledDen < 2 * fractionCount then low else low + 1
    let (scaledNum, scaledDen) := dividedByPower num den power
    let magnitude := (power + 1074).toNat * fractionCount + roundQuotient scaledNum scaledDen
    if magnitude < topExponent * fractionCount then
      ofMagnitude negative magnitude
    else
      infinity negative

def ofInt (n : Int) : Binary64 := ofRatio (n < 0) n.natAbs 1

def ofQuotient (num : Int) (den : Nat) : Binary64 := ofRatio (num < 0) num.natAbs den

def mul (x y : Binary64) : Binary64 :=
  let power := x.exponent + y.exponent
  ofRatio (x.isNegative != y.isNegative)
    (x.significand * y.significand * Nat.pow 2 power.toNat) (Nat.pow 2 (-power).toNat)

def div (x y : Binary64) : Binary64 :=
  let power := x.exponent - y.exponent
  ofRatio (x.isNegative != y.isNegative)
    (x.significand * Nat.pow 2 power.toNat) (y.significand * Nat.pow 2 (-power).toNat)

def neg (x : Binary64) : Binary64 :=
  ofMagnitude (!x.isNegative) (x.bits.toNat % signBit)

/-- Equality of values: both zeros are the same and no NaN equals anything. -/
def same (x y : Binary64) : Bool :=
  !x.isNaN && !y.isNaN && (x == y || (x.isZero && y.isZero))

def truncate (x : Binary64) : Int :=
  let magnitude := x.significand * Nat.pow 2 x.exponent.toNat / Nat.pow 2 (-x.exponent).toNat
  if x.isNegative then -magnitude else magnitude

/-- The whole part as a signed word: the nearest one when out of range, zero for NaN. -/
def toInt64 (x : Binary64) : Int64 :=
  if x.isFinite then
    clampInt64 x.truncate
  else if x.isNaN then
    0
  else if x.isNegative then
    Int64.minValue
  else
    Int64.maxValue

end Binary64

end ChartParams
