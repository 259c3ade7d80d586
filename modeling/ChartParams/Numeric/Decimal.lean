import ChartParams.Numeric.Binary64

/-!
# Decimals

Signed decimals `digits * 10 ^ exponent`, the double nearest to one, and the shortest decimal that
reads back as a given double.
-/

namespace ChartParams

/-- The number `digits * 10 ^ exponent`, negated if `negative`. -/
structure Decimal where
  negative : Bool
  digits : Nat
  exponent : Int
deriving DecidableEq

namespace Decimal

def digitsOf (n : Nat) : List Char := Nat.toDigits 10 n

/-- The double nearest to a decimal. Exponents so far out that the answer is zero or infinite are
decided by the place of the first digit. -/
def toBinary64 (d : Decimal) : Binary64 :=
  let place := d.exponent + (digitsOf d.digits).length
  if d.digits = 0 ∨ place < -400 then
    .zero d.negative
  else if 400 < place then
    .infinity d.negative
  else
    .ofRatio d.negative (d.digits * Nat.pow 10 d.exponent.toNat) (Nat.pow 10 (-d.exponent).toNat)

def withoutTrailingZeros (negative : Bool) (digits : Nat) (exponent : Int) : Decimal :=
  if 0 < digits ∧ digits % 10 = 0 then
    withoutTrailingZeros negative (digits / 10) (exponent + 1)
  else
    ⟨negative, digits, exponent⟩
termination_by digits
decreasing_by omega

/-- Which of two decimals to take when both are equally near. -/
inductive Tie
  | toEven
  | up
deriving DecidableEq

/-- The multiple of `10 ^ power` that reads back as `x` and is nearest to it, if there is one.
Everything is measured in quarters of the last place of `x`, times a common denominator. -/
def onGrid? (tie : Tie) (x : Binary64) (power : Int) : Option Nat :=
  let unit := Nat.pow 2 (x.exponent - 2).toNat * Nat.pow 10 (-power).toNat
  let step := Nat.pow 2 (2 - x.exponent).toNat * Nat.pow 10 power.toNat
  let value := 4 * x.significand * unit
  let below := if x.fractionField = 0 ∧ 1 < x.exponentField then 1 else 2
  let low := (4 * x.significand - below) * unit
  let high := (4 * x.significand + 2) * unit
  let closed := x.significand % 2 = 0
  let readsBack (candidate : Nat) : Bool :=
    if closed then low ≤ candidate ∧ candidate ≤ high else low < candidate ∧ candidate < high
  let down := value / step
  let downFits := readsBack (down * step)
  let upFits := readsBack ((down + 1) * step)
  let twice := 2 * (value % step)
  if downFits && upFits then
    if twice < step ∨ (twice = step ∧ tie = .toEven ∧ down % 2 = 0) then
      some down
    else
      some (down + 1)
  else if downFits then
    some down
  else if upFits then
    some (down + 1)
  else
    none

def firstPlaceBound (x : Binary64) : Int :=
  ((x.significand.log2 : Int) + x.exponent) * 30103 / 100000 + 1

def firstOnGrid (tie : Tie) (x : Binary64) (power : Int) : Nat → Nat × Int
  | 0 => (0, power)
  | attempts + 1 =>
      match onGrid? tie x power with
      | some digits => (digits, power)
      | none => firstOnGrid tie x (power - 1) attempts

/-- The decimal with the fewest digits that reads back as the finite value `x`, the nearest such
decimal to it. Seventeen digits always suffice. -/
def shortest (tie : Tie) (x : Binary64) : Decimal :=
  if x.isZero then
    ⟨x.isNegative, 0, 0⟩
  else
    let (digits, power) := firstOnGrid tie x (firstPlaceBound x) 20
    withoutTrailingZeros x.isNegative digits power

end Decimal

end ChartParams
