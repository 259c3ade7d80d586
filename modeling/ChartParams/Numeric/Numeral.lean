import ChartParams.Numeric.Decimal

/-!
# Numerals

Reading whole numbers and floats from text, with the reason why a text is not a numeral.
-/

namespace ChartParams

inductive NumeralFault
  | emptyInteger
  | badDigit
  | tooLarge
  | tooSmall
  | emptyFloat
  | badFloat
deriving DecidableEq

namespace NumeralFault

def message : NumeralFault → String
  | emptyInteger => "cannot parse integer from empty string"
  | badDigit => "invalid digit found in string"
  | tooLarge => "number too large to fit in target type"
  | tooSmall => "number too small to fit in target type"
  | emptyFloat => "cannot parse float from empty string"
  | badFloat => "invalid float literal"

end NumeralFault

namespace Numeral

def digit? (c : Char) : Option Nat :=
  if c.isDigit then some (c.toNat - '0'.toNat) else none

def continueDigits (value : Nat) (digits : List Char) : Nat :=
  digits.foldl (fun total c => total * 10 + (c.toNat - '0'.toNat)) value

def ofDigits (digits : List Char) : Nat := continueDigits 0 digits

/-- Read digits from left to right. The first character that is no digit, or the first digit that
takes the value above `bound`, decides the fault. -/
def readDigits (bound : Nat) (excess : NumeralFault) : Nat → List Char → Except NumeralFault Nat
  | value, [] => .ok value
  | value, c :: rest =>
      match digit? c with
      | none => .error .badDigit
      | some d =>
          if value * 10 + d ≤ bound then
            readDigits bound excess (value * 10 + d) rest
          else
            .error excess

/-- Read a whole number with an optional sign between `-lower` and `upper`. -/
def readSigned (lower upper : Nat) : List Char → Except NumeralFault Int
  | [] => .error .emptyInteger
  | ['+'] | ['-'] => .error .badDigit
  | '-' :: digits => (readDigits lower .tooSmall 0 digits).map fun n => -(n : Int)
  | '+' :: digits => (readDigits upper .tooLarge 0 digits).map fun n => (n : Int)
  | digits => (readDigits upper .tooLarge 0 digits).map fun n => (n : Int)

def readInt64 (text : String) : Except NumeralFault Int64 :=
  (readSigned 0x8000_0000_0000_0000 0x7FFF_FFFF_FFFF_FFFF text.toList).map Int64.ofInt

def spanDigits (text : List Char) : List Char × List Char :=
  (text.takeWhile Char.isDigit, text.dropWhile Char.isDigit)

/-- The number in an exponent: an optional sign and at least one digit. -/
def exponent? (text : List Char) : Option Int :=
  let (negative, digits) := match text with
    | '-' :: rest => (true, rest)
    | '+' :: rest => (false, rest)
    | rest => (false, rest)
  if digits.isEmpty ∨ !digits.all Char.isDigit then
    none
  else
    some (if negative then -(ofDigits digits : Int) else ofDigits digits)

/-- An unsigned decimal: digits with at most one point and at least one digit, then an optional
exponent. -/
def decimal? (negative : Bool) (text : List Char) : Option Decimal :=
  let (whole, rest) := spanDigits text
  let (fraction, rest) := match rest with
    | '.' :: afterPoint => spanDigits afterPoint
    | other => ([], other)
  if whole.isEmpty ∧ fraction.isEmpty then
    none
  else
    let digits := ofDigits (whole ++ fraction)
    match rest with
    | [] => some ⟨negative, digits, -fraction.length⟩
    | 'e' :: power | 'E' :: power =>
        (exponent? power).map fun e => ⟨negative, digits, e - fraction.length⟩
    | _ => none

def specialFloat? (negative : Bool) (text : List Char) : Option Binary64 :=
  let word := String.ofList (text.map Char.toLower)
  if word == "inf" || word == "infinity" then
    some (.infinity negative)
  else if word == "nan" then
    some .nan
  else
    none

def readBinary64 (text : String) : Except NumeralFault Binary64 :=
  let (negative, magnitude) := match text.toList with
    | '-' :: rest => (true, rest)
    | '+' :: rest => (false, rest)
    | rest => (false, rest)
  if text.isEmpty then
    .error .emptyFloat
  else
    match decimal? negative magnitude with
    | some d => .ok d.toBinary64
    | none =>
        match specialFloat? negative magnitude with
        | some x => .ok x
        | none => .error .badFloat

end Numeral

end ChartParams
