import ChartParams.Proofs.Quantity.Units
import Mathlib.Algebra.Order.Field.Rat
import Mathlib.Data.List.TakeWhile
import Mathlib.Tactic.FieldSimp
import Mathlib.Tactic.Ring

/-!
# The notation of quantities

The texts of the notation, given without reading them: a sign, digits with at most one point, and a
unit. A text has the parts that are read of it exactly if it spells the amount that they stand for.
-/

namespace ChartParams

def AreDigits (text : List Char) : Prop := ∀ c ∈ text, c.isDigit = true

/-- The texts of an optional sign, and whether it is a minus. -/
inductive IsSign : List Char → Bool → Prop
  | absent : IsSign [] false
  | plus : IsSign ['+'] false
  | minus : IsSign ['-'] true

def signed (negative : Bool) (size : Int) : Int := if negative then -size else size

/-- The texts of whole numbers: an optional sign and at least one digit. -/
inductive IsInteger : List Char → Int → Prop
  | spelled {sign digits : List Char} {negative : Bool} :
      IsSign sign negative → AreDigits digits → digits ≠ [] →
      IsInteger (sign ++ digits) (signed negative (Nat.ofDigitChars 10 digits 0))

namespace Quantity

def decimalUnits : List (Char × Int) :=
  [('n', -9), ('u', -6), ('m', -3), ('k', 3), ('M', 6), ('G', 9), ('T', 12), ('P', 15), ('E', 18)]

def binaryUnits : List (Char × Nat) :=
  [('K', 10), ('M', 20), ('G', 30), ('T', 40), ('P', 50), ('E', 60)]

/-- The texts of suffixes, with the powers of ten and of two that they stand for. -/
inductive IsSuffix : List Char → Int → Nat → Prop
  | absent : IsSuffix [] 0 0
  | decimal {letter : Char} {tens : Int} : (letter, tens) ∈ decimalUnits → IsSuffix [letter] tens 0
  | binary {letter : Char} {twos : Nat} :
      (letter, twos) ∈ binaryUnits → IsSuffix [letter, 'i'] 0 twos
  | exponent {mark : Char} {text : List Char} {tens : Int} :
      mark ∈ ['e', 'E'] → IsInteger text tens → IsSuffix (mark :: text) tens 0

/-- A decimal number with the powers of ten and of two by which a suffix multiplies it. -/
structure Amount where
  negative : Bool
  whole : List Char
  fraction : List Char
  tens : Int
  twos : Nat

/-- The texts that spell an amount: a sign, digits with at most one point and at least one digit,
and a suffix. -/
inductive Spells : List Char → Amount → Prop
  | whole {sign whole suffix : List Char} {negative : Bool} {tens : Int} {twos : Nat} :
      IsSign sign negative → AreDigits whole → whole ≠ [] → IsSuffix suffix tens twos →
      Spells (sign ++ (whole ++ suffix)) ⟨negative, whole, [], tens, twos⟩
  | point {sign whole fraction suffix : List Char} {negative : Bool} {tens : Int} {twos : Nat} :
      IsSign sign negative → AreDigits whole → AreDigits fraction → whole ++ fraction ≠ [] →
      IsSuffix suffix tens twos →
      Spells (sign ++ (whole ++ '.' :: (fraction ++ suffix)))
        ⟨negative, whole, fraction, tens, twos⟩

namespace Amount

/-- The digits without the zeros in front. -/
def significant (n : Amount) : List Char := (n.whole ++ n.fraction).dropWhile (· == '0')

/-- The size of a decimal number. -/
def decimal (n : Amount) : ℚ :=
  Nat.ofDigitChars 10 n.whole 0 + Nat.ofDigitChars 10 n.fraction 0 / 10 ^ n.fraction.length

def value (n : Amount) : ℚ :=
  (if n.negative then -n.decimal else n.decimal) * (10 ^ n.tens * 2 ^ n.twos)

end Amount

/-- The number that a quantity stands for. -/
def toRat (q : Quantity) : ℚ := q.mantissa * 10 ^ q.exp10.toInt * 2 ^ q.exp2

end Quantity

/-! ## Signs -/

def splitSign : List Char → Bool × List Char
  | '-' :: rest => (true, rest)
  | '+' :: rest => (false, rest)
  | rest => (false, rest)

theorem splitSign_append {sign rest : List Char} {negative : Bool} (isSign : IsSign sign negative)
    (unsigned : ∀ c ∈ rest.head?, c ≠ '-' ∧ c ≠ '+') :
    splitSign (sign ++ rest) = (negative, rest) := by
  cases isSign with
  | plus => rfl
  | minus => rfl
  | absent =>
    cases rest with
    | nil => rfl
    | cons c rest =>
      obtain ⟨notMinus, notPlus⟩ := unsigned c rfl
      simp [splitSign, notMinus, notPlus]

theorem exists_isSign (text : List Char) :
    ∃ sign, IsSign sign (splitSign text).1 ∧ sign ++ (splitSign text).2 = text := by
  fun_cases splitSign text with
  | case1 rest => exact ⟨['-'], .minus, rfl⟩
  | case2 rest => exact ⟨['+'], .plus, rfl⟩
  | case3 => exact ⟨[], .absent, rfl⟩

/-! ## Digits -/

namespace Numeral

theorem exponent?_eq (text : List Char) :
    exponent? text =
      if (splitSign text).2.isEmpty ∨ !(splitSign text).2.all Char.isDigit then
        none
      else
        some (signed (splitSign text).1 (ofDigits (splitSign text).2)) := rfl

theorem exponent?_complete {text : List Char} {n : Int} (spelled : IsInteger text n) :
    exponent? text = some n := by
  obtain @⟨sign, digits, negative, isSign, areDigits, nonempty⟩ := spelled
  have unsigned : ∀ c ∈ digits.head?, c ≠ '-' ∧ c ≠ '+' := fun c first =>
    ne_sign_of_isDigit (areDigits c (List.mem_of_head? first))
  have allDigits : digits.all Char.isDigit = true := List.all_eq_true.mpr areDigits
  rw [exponent?_eq, splitSign_append isSign unsigned, ofDigits_eq_ofDigitChars]
  simp [nonempty, allDigits]

theorem exponent?_sound {text : List Char} {n : Int} (read : exponent? text = some n) :
    IsInteger text n := by
  obtain ⟨sign, isSign, isText⟩ := exists_isSign text
  rw [exponent?_eq, ofDigits_eq_ofDigitChars] at read
  split at read
  · cases read
  · rename_i someDigits
    obtain ⟨nonempty, areDigits⟩ := not_or.mp someDigits
    cases read
    have spelled := IsInteger.spelled isSign (by simpa [AreDigits] using areDigits)
      (by simpa using nonempty)
    rwa [isText] at spelled

theorem spanDigits_sound (text : List Char) :
    AreDigits (spanDigits text).1 ∧ (spanDigits text).1 ++ (spanDigits text).2 = text :=
  ⟨fun _ membership => List.mem_takeWhile_imp membership, List.takeWhile_append_dropWhile⟩

end Numeral

namespace Quantity

/-! ## Suffixes -/

namespace Suffix

def tens : Suffix → Int
  | decimal power => power.toInt
  | binary _ => 0
  | exponent power => power

def twos : Suffix → Nat
  | decimal _ => 0
  | binary power => power
  | exponent _ => 0

end Suffix

theorem suffix?_exponent {mark : Char} (isMark : mark ∈ ['e', 'E']) {text : List Char} {n : Int}
    (spelled : IsInteger text n) : suffix? (mark :: text) = some (.exponent n) := by
  have read := Numeral.exponent?_complete spelled
  have noUnit : text ≠ [] ∧ text ≠ ['i'] := by
    constructor <;> (rintro rfl; nomatch (show none = some n from read))
  simp only [List.mem_cons, List.not_mem_nil, or_false] at isMark
  rcases isMark with rfl | rfl
  · simp [suffix?, read]
  · simp [suffix?, noUnit, read]

theorem suffix?_complete {text : List Char} {tens : Int} {twos : Nat}
    (spelled : IsSuffix text tens twos) :
    ∃ suffix, suffix? text = some suffix ∧ suffix.tens = tens ∧ suffix.twos = twos := by
  cases spelled with
  | absent => exact ⟨.decimal 0, rfl, rfl, rfl⟩
  | decimal listed =>
    simp only [decimalUnits, List.mem_cons, Prod.mk.injEq, List.not_mem_nil, or_false] at listed
    rcases listed with ⟨rfl, rfl⟩ | ⟨rfl, rfl⟩ | ⟨rfl, rfl⟩ | ⟨rfl, rfl⟩ | ⟨rfl, rfl⟩ | ⟨rfl, rfl⟩ |
      ⟨rfl, rfl⟩ | ⟨rfl, rfl⟩ | ⟨rfl, rfl⟩ <;> exact ⟨_, rfl, rfl, rfl⟩
  | binary listed =>
    simp only [binaryUnits, List.mem_cons, Prod.mk.injEq, List.not_mem_nil, or_false] at listed
    rcases listed with ⟨rfl, rfl⟩ | ⟨rfl, rfl⟩ | ⟨rfl, rfl⟩ | ⟨rfl, rfl⟩ | ⟨rfl, rfl⟩ |
      ⟨rfl, rfl⟩ <;> exact ⟨_, rfl, rfl, rfl⟩
  | exponent isMark spelled => exact ⟨_, suffix?_exponent isMark spelled, rfl, rfl⟩

theorem suffix?_cases {text : List Char} {suffix : Suffix} (read : suffix? text = some suffix) :
    (text = [] ∧ suffix = .decimal 0) ∨
      (∃ letter power, (letter, power.toInt) ∈ decimalUnits ∧ text = [letter] ∧
        suffix = .decimal power) ∨
      (∃ letter power, (letter, power) ∈ binaryUnits ∧ text = [letter, 'i'] ∧
        suffix = .binary power) ∨
      ∃ mark ∈ ['e', 'E'], ∃ rest n, Numeral.exponent? rest = some n ∧ text = mark :: rest ∧
        suffix = .exponent n := by
  revert read
  fun_cases suffix? text with
  | case1 =>
    rintro ⟨⟩
    exact .inl ⟨rfl, rfl⟩
  | case17 rest =>
    intro read
    obtain ⟨n, isExponent, rfl⟩ := Option.map_eq_some_iff.mp read
    exact .inr (.inr (.inr ⟨'e', by decide, rest, n, isExponent, rfl, rfl⟩))
  | case18 rest =>
    intro read
    obtain ⟨n, isExponent, rfl⟩ := Option.map_eq_some_iff.mp read
    exact .inr (.inr (.inr ⟨'E', by decide, rest, n, isExponent, rfl, rfl⟩))
  | case19 => nofun
  | _ =>
    rintro ⟨⟩
    first
      | exact .inr (.inl ⟨_, _, by decide, rfl, rfl⟩)
      | exact .inr (.inr (.inl ⟨_, _, by decide, rfl, rfl⟩))

theorem suffix?_sound {text : List Char} {suffix : Suffix} (read : suffix? text = some suffix) :
    IsSuffix text suffix.tens suffix.twos := by
  rcases suffix?_cases read with ⟨rfl, rfl⟩ | ⟨letter, power, listed, rfl, rfl⟩ |
    ⟨letter, power, listed, rfl, rfl⟩ | ⟨mark, isMark, rest, n, isExponent, rfl, rfl⟩
  · exact .absent
  · exact .decimal listed
  · exact .binary listed
  · exact .exponent isMark (Numeral.exponent?_sound isExponent)

/-! ## Amounts -/

def splitFraction : List Char → List Char × List Char
  | '.' :: rest => Numeral.spanDigits rest
  | rest => ([], rest)

theorem splitFraction_cases (text : List Char) :
    (∃ rest, text = '.' :: rest ∧ splitFraction text = Numeral.spanDigits rest) ∨
      splitFraction text = ([], text) := by
  fun_cases splitFraction text with
  | case1 rest => exact .inl ⟨rest, rfl, rfl⟩
  | case2 => exact .inr rfl

theorem spelling?_eq (text : List Char) :
    spelling? text =
      let number := Numeral.spanDigits (splitSign text).2
      (suffix? (splitFraction number.2).2).map fun suffix =>
        ⟨(splitSign text).1, number.1, (splitFraction number.2).1, suffix⟩ := rfl

theorem IsSuffix.head {text : List Char} {tens : Int} {twos : Nat}
    (spelled : IsSuffix text tens twos) :
    ∀ c ∈ text.head?, c.isDigit = false ∧ c ≠ '.' := by
  have decimals : ∀ unit ∈ decimalUnits, unit.1.isDigit = false ∧ unit.1 ≠ '.' := by
    simp [decimalUnits]
  have binaries : ∀ unit ∈ binaryUnits, unit.1.isDigit = false ∧ unit.1 ≠ '.' := by
    simp [binaryUnits]
  have marks : ∀ mark ∈ ['e', 'E'], mark.isDigit = false ∧ mark ≠ '.' := by simp
  rintro c first
  cases spelled with
  | absent => cases first
  | decimal listed =>
    cases first
    exact decimals _ listed
  | binary listed =>
    cases first
    exact binaries _ listed
  | exponent isMark =>
    cases first
    exact marks _ isMark

/-- The amount that is written. -/
def Spelling.amount (s : Spelling) : Amount :=
  ⟨s.negative, s.whole, s.fraction, s.suffix.tens, s.suffix.twos⟩

theorem spelling?_complete {text : List Char} {n : Amount} (spelled : Spells text n) :
    ∃ s, spelling? text = some s ∧ s.whole ++ s.fraction ≠ [] ∧ s.amount = n := by
  cases spelled with
  | @whole sign whole suffix negative tens twos isSign areDigits nonempty isSuffix =>
    obtain ⟨s, read, rfl, rfl⟩ := suffix?_complete isSuffix
    have unsigned : ∀ c ∈ (whole ++ suffix).head?, c ≠ '-' ∧ c ≠ '+' := by
      obtain ⟨d, digits, rfl⟩ := List.exists_cons_of_ne_nil nonempty
      rintro c ⟨⟩
      exact ne_sign_of_isDigit (areDigits d List.mem_cons_self)
    have noPoint : splitFraction suffix = ([], suffix) := by
      rcases splitFraction_cases suffix with ⟨rest, rfl, -⟩ | noPoint
      · exact absurd rfl (isSuffix.head '.' rfl).2
      · exact noPoint
    refine ⟨⟨negative, whole, [], s⟩, ?_, by simpa, rfl⟩
    simp [spelling?_eq, splitSign_append isSign unsigned,
      Numeral.spanDigits_append areDigits fun c first => (isSuffix.head c first).1, noPoint, read]
  | @point sign whole fraction suffix negative tens twos isSign areDigits moreDigits nonempty
      isSuffix =>
    obtain ⟨s, read, rfl, rfl⟩ := suffix?_complete isSuffix
    have unsigned : ∀ c ∈ (whole ++ '.' :: (fraction ++ suffix)).head?, c ≠ '-' ∧ c ≠ '+' := by
      cases whole with
      | nil =>
        rintro c ⟨⟩
        decide
      | cons d digits =>
        rintro c ⟨⟩
        exact ne_sign_of_isDigit (areDigits d List.mem_cons_self)
    have isNumber : Numeral.spanDigits (whole ++ '.' :: (fraction ++ suffix)) =
        (whole, '.' :: (fraction ++ suffix)) :=
      Numeral.spanDigits_append areDigits fun c first => by
        cases first
        decide
    refine ⟨⟨negative, whole, fraction, s⟩, ?_, nonempty, rfl⟩
    simp [spelling?_eq, splitSign_append isSign unsigned, isNumber, splitFraction,
      Numeral.spanDigits_append moreDigits fun c first => (isSuffix.head c first).1, read]

theorem spelling?_sound {text : List Char} {s : Spelling} (read : spelling? text = some s)
    (nonempty : s.whole ++ s.fraction ≠ []) : Spells text s.amount := by
  rw [spelling?_eq] at read
  obtain ⟨suffix, isSuffix, rfl⟩ := Option.map_eq_some_iff.mp read
  obtain ⟨sign, isSign, isText⟩ := exists_isSign text
  obtain ⟨areDigits, isNumber⟩ := Numeral.spanDigits_sound (splitSign text).2
  generalize splitSign text = start at *
  generalize Numeral.spanDigits start.2 = number at *
  subst isText
  rw [← isNumber]
  rcases splitFraction_cases number.2 with ⟨rest, isRest, isFraction⟩ | noPoint
  · obtain ⟨moreDigits, isFractional⟩ := Numeral.spanDigits_sound rest
    rw [isFraction] at isSuffix nonempty ⊢
    generalize Numeral.spanDigits rest = following at *
    subst isFractional
    rw [isRest]
    exact .point isSign areDigits moreDigits nonempty (suffix?_sound isSuffix)
  · rw [noPoint] at isSuffix nonempty ⊢
    exact .whole isSign areDigits (by simpa using nonempty) (suffix?_sound isSuffix)

theorem spells_iff {text : List Char} {n : Amount} :
    Spells text n ↔
      ∃ s, spelling? text = some s ∧ s.whole ++ s.fraction ≠ [] ∧ s.amount = n := by
  constructor
  · exact spelling?_complete
  · rintro ⟨s, read, nonempty, rfl⟩
    exact spelling?_sound read nonempty

theorem Spells.unique {text : List Char} {n m : Amount} (first : Spells text n)
    (second : Spells text m) : n = m := by
  obtain ⟨s, read, -, rfl⟩ := spells_iff.mp first
  obtain ⟨t, readAgain, -, rfl⟩ := spells_iff.mp second
  cases read.symm.trans readAgain
  rfl

end Quantity

end ChartParams
