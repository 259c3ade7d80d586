import ChartParams.Numeric.Decimal

/-!
# Layouts of float text

A layout is the set of choices a text format makes about floats, once the shortest digits are
known: where positional digits end, how an exponent is written, and what the special values are
called.
-/

namespace ChartParams

/-- How a format writes floats. -/
structure Layout where
  tie : Decimal.Tie
  /-- The exponents of the first digit that are written without an exponent: from the first bound
  up to the second, which is left out. Everything is positional without bounds. -/
  positional : Option (Int × Int)
  /-- Whether a whole number written positionally ends in `.0`. -/
  wholeFraction : Bool
  /-- Whether an exponent that is not negative has a plus sign. -/
  plusExponent : Bool
  exponentWidth : Nat
  signedZero : Bool
  infinity : String
  negativeInfinity : String
  nan : String

namespace Layout

/-- The fewest digits that read back; positional up to `10 ^ 16` and down to `10 ^ -5`. -/
def json : Layout :=
  ⟨.toEven, some (-5, 16), true, true, 1, true, "inf", "-inf", "NaN"⟩

/-- As `json`, but an exponent has no plus sign. -/
def yaml : Layout :=
  ⟨.toEven, some (-5, 16), true, false, 1, true, ".inf", "-.inf", ".nan"⟩

/-- The fewest digits that read back, never with an exponent. -/
def plain : Layout :=
  ⟨.up, none, false, false, 1, true, "inf", "-inf", "NaN"⟩

/-- The general form: positional up to `10 ^ 6` and down to `10 ^ -4`, with two places in an
exponent. -/
def general : Layout :=
  ⟨.up, some (-4, 6), false, true, 2, false, "+Inf", "-Inf", "NaN"⟩

def placePoint (layout : Layout) (digits : List Char) (exponent : Int) : List Char :=
  if 0 ≤ exponent then
    digits ++ List.replicate exponent.toNat '0' ++
      (if layout.wholeFraction then ['.', '0'] else [])
  else
    let fraction := (-exponent).toNat
    if fraction < digits.length then
      digits.take (digits.length - fraction) ++ '.' :: digits.drop (digits.length - fraction)
    else
      '0' :: '.' :: List.replicate (fraction - digits.length) '0' ++ digits

def exponentText (layout : Layout) (exponent : Int) : List Char :=
  let digits := Decimal.digitsOf exponent.natAbs
  let sign := if exponent < 0 then ['-'] else if layout.plusExponent then ['+'] else []
  sign ++ List.replicate (layout.exponentWidth - digits.length) '0' ++ digits

def magnitudeText (layout : Layout) (d : Decimal) : List Char :=
  let digits := Decimal.digitsOf d.digits
  let first := d.exponent + digits.length - 1
  let isPositional := match layout.positional with
    | some (low, high) => decide (low ≤ first ∧ first < high)
    | none => true
  if isPositional then
    layout.placePoint digits d.exponent
  else
    let mantissa := match digits with
      | lead :: second :: rest => lead :: '.' :: second :: rest
      | short => short
    mantissa ++ 'e' :: layout.exponentText first

def text (layout : Layout) (x : Binary64) : String :=
  if x.isNaN then
    layout.nan
  else if x.isInfinite then
    if x.isNegative then layout.negativeInfinity else layout.infinity
  else if x.isZero then
    (if x.isNegative && layout.signedZero then "-" else "") ++
      (if layout.wholeFraction then "0.0" else "0")
  else
    let magnitude := layout.magnitudeText (Decimal.shortest layout.tie x)
    String.ofList (if x.isNegative then '-' :: magnitude else magnitude)

end Layout

end ChartParams
