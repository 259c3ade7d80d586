import ChartParams.Proofs.Quantity.Limits
import ChartParams.Proofs.Quantity.Rounding

/-!
# Values of quantities

The value of a quantity and its thousandths are the number that it stands for, rounded away from
zero. They are missing if the rounded number is no word of 64 bits, and also if there is no room on
the way to it: if the digits times the power of two of the unit are no word of 128 bits, or if zero
would have to be multiplied by a power of ten that is none. The power of ten of the thousandths is a
word of 32 bits as well. If it wraps, only the sign of the number is left.
-/

namespace ChartParams

namespace Quantity

/-! ## Room -/

/-- The whole number that a power of ten multiplies or divides in a conversion. -/
def numerator (q : Quantity) : Int := q.mantissa * 2 ^ q.exp2

theorem scaled_eq (overflow : Overflow) (q : Quantity) (shift : Int32) :
    q.scaled overflow shift =
      if IsSignedLongWord q.numerator then
        if overflow = .ends ∧ ¬IsSignedHalfWord (q.exp10.toInt + shift.toInt) then
          .error ⟨q.display, .overflow⟩
        else
          (orOutOfRange (rescale? q.numerator (q.exp10 + shift).toInt)).mapError (⟨q.display, ·⟩)
      else
        .error ⟨q.display, .valueOutOfRange⟩ := by
  have isNumerator : q.mantissa * Nat.pow 2 q.exp2 = q.numerator := rfl
  rw [scaled, isNumerator, inRange?]
  by_cases inRange : IsSignedLongWord q.numerator
  · rw [if_pos inRange, if_pos inRange]
    change Except.mapError _ ((overflow.word _).bind _) = _
    by_cases outside : overflow = .ends ∧ ¬IsSignedHalfWord (q.exp10.toInt + shift.toInt)
    · rw [if_pos outside, Overflow.word_eq_error_iff.mpr ⟨rfl, outside⟩]
      rfl
    · have isWord : overflow.word (q.exp10.toInt + shift.toInt) = .ok (q.exp10 + shift) := by
        rw [Overflow.word_eq_ok_iff, Int32.ofInt_add, Int32.ofInt_toInt, Int32.ofInt_toInt]
        exact ⟨rfl, fun ends => by_contra fun notWord => outside ⟨ends, notWord⟩⟩
      rw [if_neg outside, isWord]
      rfl
  · rw [if_neg inRange, if_neg inRange]
    rfl

/-- A conversion has room if the whole number that it begins with is a word of 128 bits, and if zero
is not multiplied by a power of ten that is none. -/
def HasRoom (q : Quantity) (power : Int) : Prop :=
  IsSignedLongWord q.numerator ∧ (q.mantissa = 0 → power ≤ 38)

theorem numerator_eq_zero_iff (q : Quantity) : q.numerator = 0 ↔ q.mantissa = 0 := by
  have nonzero : (2 : Int) ^ q.exp2 ≠ 0 := pow_ne_zero _ (by norm_num)
  rw [numerator, mul_eq_zero, or_iff_left nonzero]

theorem rescale?_eq_none_iff {num power : Int} (inRange : IsSignedLongWord num) :
    rescale? num power = none ↔
      ¬(num = 0 → power ≤ 38) ∨ ¬IsSignedWord (roundAway (num * 10 ^ power)) := by
  rw [← not_and_or, ← not_iff_not, not_not, ← Ne, Option.ne_none_iff_exists']
  simp only [rescale?_eq_some_iff inRange]
  constructor
  · rintro ⟨n, room, isRounded⟩
    exact ⟨room, isRounded ▸ isSignedWord_toInt n⟩
  · rintro ⟨room, fits⟩
    exact ⟨_, room, int64?_eq_some_iff.mp (if_pos fits)⟩

variable {overflow : Overflow} {q : Quantity} {shift : Int32}

theorem scaled_eq_ok_iff {n : Int64} :
    q.scaled overflow shift = .ok n ↔
      ¬(overflow = .ends ∧ ¬IsSignedHalfWord (q.exp10.toInt + shift.toInt)) ∧
        q.HasRoom (q.exp10 + shift).toInt ∧
          n.toInt = roundAway (q.numerator * 10 ^ (q.exp10 + shift).toInt) := by
  rw [scaled_eq, HasRoom, ← numerator_eq_zero_iff]
  by_cases inRange : IsSignedLongWord q.numerator
  · rw [if_pos inRange]
    by_cases outside : overflow = .ends ∧ ¬IsSignedHalfWord (q.exp10.toInt + shift.toInt)
    · rw [if_pos outside]
      exact iff_of_false nofun fun all => all.1 outside
    · rw [if_neg outside, mapError_eq_ok_iff, orOutOfRange_eq_ok_iff, rescale?_eq_some_iff inRange]
      rw [and_iff_right outside, and_assoc, and_iff_right inRange]
  · rw [if_neg inRange]
    exact iff_of_false nofun fun all => inRange all.2.1.1

theorem scaled_eq_error_iff {error : Error} :
    q.scaled overflow shift = .error error ↔
      error = ⟨q.display, .overflow⟩ ∧ IsSignedLongWord q.numerator ∧
        (overflow = .ends ∧ ¬IsSignedHalfWord (q.exp10.toInt + shift.toInt)) ∨
      error = ⟨q.display, .valueOutOfRange⟩ ∧
        (¬IsSignedLongWord q.numerator ∨
          ¬(overflow = .ends ∧ ¬IsSignedHalfWord (q.exp10.toInt + shift.toInt)) ∧
            rescale? q.numerator (q.exp10 + shift).toInt = none) := by
  rw [scaled_eq]
  by_cases inRange : IsSignedLongWord q.numerator
  · rw [if_pos inRange, and_iff_right inRange, or_iff_right (not_not.mpr inRange)]
    by_cases outside : overflow = .ends ∧ ¬IsSignedHalfWord (q.exp10.toInt + shift.toInt)
    · simp [outside, eq_comm]
    · rw [if_neg outside, and_iff_right outside, or_iff_right fun both => outside both.2]
      cases rescale? q.numerator (q.exp10 + shift).toInt <;>
        simp [orOutOfRange, Except.mapError, eq_comm]
  · rw [if_neg inRange]
    simp [inRange, eq_comm]

/-- Overflow is all that the two ways of computing differ in. -/
theorem scaled_wraps (fits : IsSignedHalfWord (q.exp10.toInt + shift.toInt)) :
    q.scaled .wraps shift = q.scaled .ends shift := by
  have noOverflow (overflow : Overflow) :
      ¬(overflow = .ends ∧ ¬IsSignedHalfWord (q.exp10.toInt + shift.toInt)) :=
    fun both => both.2 fits
  rw [scaled_eq, scaled_eq, if_neg (noOverflow .wraps), if_neg (noOverflow .ends)]

/-! ## Powers of ten -/

theorem toRat_eq (q : Quantity) : q.toRat = q.numerator * 10 ^ q.exp10.toInt := by
  rw [toRat, numerator]
  push_cast
  ring

theorem thousand_toRat_eq (q : Quantity) :
    1000 * q.toRat = q.numerator * 10 ^ (q.exp10.toInt + 3) := by
  rw [toRat_eq, zpow_add₀ (by norm_num)]
  norm_num
  ring

theorem toInt_three : (3 : Int32).toInt = 3 := rfl

/-- The power of ten of the thousandths is lowered by `2 ^ 32` if it is no word. -/
theorem toInt_exp10_add_three (q : Quantity) :
    (q.exp10 + 3).toInt =
      if q.exp10.toInt + 3 < 2 ^ 31 then q.exp10.toInt + 3 else q.exp10.toInt + 3 - 2 ^ 32 := by
  have low := Int32.le_toInt q.exp10
  have high := Int32.toInt_lt q.exp10
  rw [Int32.toInt_add, toInt_three, Int.bmod_def]
  norm_num
  split <;> split <;> omega

end Quantity

/-! ## Amounts -/

namespace Numeral

theorem ofDigitChars_lt {digits : List Char} (areDigits : AreDigits digits) :
    Nat.ofDigitChars 10 digits 0 < 10 ^ digits.length := by
  induction digits with
  | nil => simp
  | cons c rest inductionHypothesis =>
      have range : 48 ≤ c.toNat ∧ c.toNat ≤ 57 := by
        simpa [Char.isDigit, UInt32.le_iff_toNat_le] using areDigits c List.mem_cons_self
      have below := inductionHypothesis fun d membership =>
        areDigits d (List.mem_cons_of_mem c membership)
      have digit : c.toNat - '0'.toNat ≤ 9 := by
        simp
        omega
      have leading := Nat.mul_le_mul_left (10 ^ rest.length) digit
      rw [Nat.ofDigitChars_cons, Nat.ofDigitChars_eq_ofDigitChars_zero, List.length_cons, pow_succ,
        Nat.mul_zero, Nat.zero_add]
      omega

theorem ofDigitChars_dropWhile (digits : List Char) :
    Nat.ofDigitChars 10 (digits.dropWhile (· == '0')) 0 = Nat.ofDigitChars 10 digits 0 := by
  induction digits with
  | nil => rfl
  | cons c rest inductionHypothesis =>
      rw [List.dropWhile_cons]
      split
      · rename_i isZero
        rw [inductionHypothesis, Nat.ofDigitChars_cons, beq_iff_eq.mp isZero]
        rfl
      · rfl

end Numeral

namespace Quantity

theorem IsSuffix.twos_le {text : List Char} {tens : Int} {twos : Nat}
    (spelled : IsSuffix text tens twos) : twos ≤ 60 := by
  have binaries : ∀ unit ∈ binaryUnits, unit.2 ≤ 60 := by simp [binaryUnits]
  cases spelled with
  | binary listed => exact binaries _ listed
  | _ => exact Nat.zero_le 60

theorem Spells.areDigits {text : List Char} {n : Amount} (spelled : Spells text n) :
    AreDigits (n.whole ++ n.fraction) := by
  cases spelled with
  | whole _ areDigits _ _ =>
      rwa [List.append_nil]
  | point _ areDigits moreDigits _ _ => exact List.forall_mem_append.mpr ⟨areDigits, moreDigits⟩

theorem Spells.twos_le {text : List Char} {n : Amount} (spelled : Spells text n) : n.twos ≤ 60 := by
  cases spelled with
  | whole _ _ _ isSuffix => exact isSuffix.twos_le
  | point _ _ _ _ isSuffix => exact isSuffix.twos_le

theorem Spells.number_lt {text : List Char} {n : Amount} (spelled : Spells text n) :
    n.number < 10 ^ n.significant.length := by
  have areDigits : AreDigits n.significant := fun c membership =>
    spelled.areDigits c ((List.dropWhile_sublist _).subset membership)
  have below := Numeral.ofDigitChars_lt areDigits
  rwa [Amount.significant, Numeral.ofDigitChars_dropWhile] at below

variable {overflow : Overflow} {text : String} {q : Quantity} {n : Amount}

/-- Twenty digits have room in every unit, and thirty digits in units up to `Mi`. -/
theorem hasRoom_of_parse (parsed : parse overflow text = .ok q)
    (spelled : Spells (trimBlanks text.toList) n) (nonzero : n.number ≠ 0)
    (short : n.significant.length ≤ 20 ∨ n.twos ≤ 20) (power : Int) : q.HasRoom power := by
  obtain ⟨fewEnough, -, rfl⟩ := eq_of_parse parsed spelled
  have bounded : ∀ digits twos, n.significant.length ≤ digits → n.twos ≤ twos →
      n.number * 2 ^ n.twos < 10 ^ digits * 2 ^ twos := by
    intro digits twos fewDigits fewTwos
    apply Nat.mul_lt_mul_of_lt_of_le
    · exact spelled.number_lt.trans_le (Nat.pow_le_pow_right (by norm_num) fewDigits)
    · exact Nat.pow_le_pow_right (by norm_num) fewTwos
    · positivity
  have small : n.number * 2 ^ n.twos < 2 ^ 127 := by
    rcases short with fewDigits | lowUnit
    · exact (bounded 20 60 fewDigits spelled.twos_le).trans (by norm_num)
    · exact (bounded 30 20 fewEnough lowUnit).trans (by norm_num)
  have isProduct : signed n.negative n.number * 2 ^ n.twos =
      signed n.negative (n.number * 2 ^ n.twos : Nat) := by
    rw [signed, signed]
    split <;> push_cast <;> ring
  constructor
  · rw [numerator, isProduct, signed]
    split <;> omega
  · intro isZero
    change signed n.negative n.number = 0 at isZero
    rw [signed] at isZero
    split at isZero <;> omega

/-! ## Conversions -/

theorem not_outside_units :
    ¬(overflow = .ends ∧ ¬IsSignedHalfWord (q.exp10.toInt + (0 : Int32).toInt)) := by
  rintro ⟨-, outside⟩
  rw [Int32.toInt_zero, Int.add_zero] at outside
  exact outside (isSignedHalfWord_toInt q.exp10)

theorem outside_thousandths_iff :
    overflow = .ends ∧ ¬IsSignedHalfWord (q.exp10.toInt + (3 : Int32).toInt) ↔
      overflow = .ends ∧ ¬q.exp10.toInt + 3 < 2 ^ 31 := by
  have low := Int32.le_toInt q.exp10
  rw [toInt_three]
  exact and_congr_right fun _ => not_congr ⟨fun isWord => isWord.2, fun high => ⟨by omega, high⟩⟩

theorem value_eq_ok_iff {result : Int64} :
    q.value overflow = .ok result ↔
      q.HasRoom q.exp10.toInt ∧ result.toInt = roundAway q.toRat := by
  rw [value, scaled_eq_ok_iff, and_iff_right not_outside_units, Int32.add_zero, toRat_eq]

theorem value_eq_error_iff {error : Error} :
    q.value overflow = .error error ↔
      error = ⟨q.display, .valueOutOfRange⟩ ∧
        (¬IsSignedWord (roundAway q.toRat) ∨ ¬q.HasRoom q.exp10.toInt) := by
  rw [value, scaled_eq_error_iff, or_iff_right fun both => not_outside_units both.2.2,
    and_iff_right not_outside_units, Int32.add_zero, HasRoom, ← numerator_eq_zero_iff, toRat_eq]
  refine and_congr_right fun _ => ?_
  by_cases inRange : IsSignedLongWord q.numerator
  · rw [rescale?_eq_none_iff inRange, or_iff_right (not_not.mpr inRange), and_iff_right inRange,
      or_comm]
  · exact iff_of_true (.inl inRange) (.inr fun both => inRange both.1)

/-- The power of ten of the thousandths is three higher, or so low that only the sign is left. -/
theorem roundAway_thousandths (inRange : IsSignedLongWord q.numerator) :
    roundAway (q.numerator * 10 ^ (q.exp10 + 3).toInt) =
      if q.exp10.toInt + 3 < 2 ^ 31 then roundAway (1000 * q.toRat) else q.mantissa.sign := by
  rw [toInt_exp10_add_three]
  split
  · rw [thousand_toRat_eq]
  · rename_i wraps
    have range := Int32.toInt_lt q.exp10
    obtain ⟨places, isLow⟩ : ∃ places : Nat, q.exp10.toInt + 3 - 2 ^ 32 = -places :=
      ⟨(q.exp10.toInt + 3 - 2 ^ 32).natAbs, by omega⟩
    have positive : (2 : Int) ^ q.exp2 > 0 := by positivity
    rw [isLow, roundAway_of_low inRange (by omega), numerator, Int.sign_mul,
      Int.sign_eq_one_of_pos positive, mul_one]

theorem milliValue_eq_ok_iff {result : Int64} :
    q.milliValue overflow = .ok result ↔
      ¬(overflow = .ends ∧ ¬q.exp10.toInt + 3 < 2 ^ 31) ∧
        q.HasRoom (q.exp10 + 3).toInt ∧ result.toInt =
          if q.exp10.toInt + 3 < 2 ^ 31 then roundAway (1000 * q.toRat) else q.mantissa.sign := by
  rw [milliValue, scaled_eq_ok_iff, outside_thousandths_iff]
  refine and_congr_right fun _ => and_congr_right fun room => ?_
  rw [roundAway_thousandths room.1]

theorem milliValue_eq_error_iff {error : Error} :
    q.milliValue overflow = .error error ↔
      error = ⟨q.display, .valueOutOfRange⟩ ∧
        (q.exp10.toInt + 3 < 2 ^ 31 ∧ ¬IsSignedWord (roundAway (1000 * q.toRat)) ∨
          ¬q.HasRoom (q.exp10 + 3).toInt) ∨
      error = ⟨q.display, .overflow⟩ ∧ IsSignedLongWord q.numerator ∧
        overflow = .ends ∧ ¬q.exp10.toInt + 3 < 2 ^ 31 := by
  rw [milliValue, scaled_eq_error_iff, outside_thousandths_iff, or_comm]
  refine or_congr_left (and_congr_right fun _ => ?_)
  by_cases inRange : IsSignedLongWord q.numerator
  · rw [or_iff_right (not_not.mpr inRange), rescale?_eq_none_iff inRange,
      roundAway_thousandths inRange, HasRoom, ← numerator_eq_zero_iff, and_iff_right inRange]
    by_cases exact : q.exp10.toInt + 3 < 2 ^ 31
    · rw [if_pos exact, and_iff_right fun both => both.2 exact, and_iff_right exact, or_comm]
    · have range := Int32.toInt_lt q.exp10
      have isLow : (q.exp10 + 3).toInt ≤ 38 := by
        rw [toInt_exp10_add_three, if_neg exact]
        omega
      have isSign : IsSignedWord q.mantissa.sign := by
        rcases Int.sign_trichotomy q.mantissa with isSign | isSign | isSign <;> omega
      simp only [exact, isLow, implies_true, not_true, false_or, false_and, or_false]
      exact iff_of_false (fun both => both.2 isSign) id
  · exact iff_of_true (.inl inRange) (.inr fun room => inRange room.1)

theorem not_isSignedWord_thousandths (nonzero : q.mantissa ≠ 0)
    (wraps : ¬q.exp10.toInt + 3 < 2 ^ 31) : ¬IsSignedWord (roundAway (1000 * q.toRat)) := by
  rw [thousand_toRat_eq]
  apply not_isSignedWord_roundAway (le_abs_mul_power _ (by omega))
  exact mt q.numerator_eq_zero_iff.mp nonzero

/-- Thousandths are exact if their power of ten is a word, and those of zero are. -/
theorem milliValue_exact_iff {result : Int64} (success : q.milliValue overflow = .ok result) :
    result.toInt = roundAway (1000 * q.toRat) ↔ q.mantissa = 0 ∨ q.exp10.toInt + 3 < 2 ^ 31 := by
  obtain ⟨-, -, isRounded⟩ := milliValue_eq_ok_iff.mp success
  by_cases exact : q.exp10.toInt + 3 < 2 ^ 31
  · rw [if_pos exact] at isRounded
    exact iff_of_true isRounded (.inr exact)
  · rw [if_neg exact] at isRounded
    by_cases isZero : q.mantissa = 0
    · refine iff_of_true ?_ (.inl isZero)
      rw [isRounded, thousand_toRat_eq, q.numerator_eq_zero_iff.mpr isZero, isZero]
      norm_num [roundAway]
    · refine iff_of_false ?_ (not_or.mpr ⟨isZero, exact⟩)
      intro isThousandths
      have fits := isSignedWord_toInt result
      rw [isThousandths] at fits
      exact not_isSignedWord_thousandths isZero exact fits

/-- Conversions are exact where overflow ends them. Where it wraps, they are the same for all texts
of fewer than `2 ^ 31` characters that are read without overflow. -/
theorem conversion_exact (text : String) {q : Quantity} (parsed : parse .ends text = .ok q) :
    (∀ result, q.value .ends = .ok result → result.toInt = roundAway q.toRat) ∧
    (∀ result, q.milliValue .ends = .ok result → result.toInt = roundAway (1000 * q.toRat)) ∧
    (∀ unit count, BinaryUnit.read .ends unit text = .ok count →
      count.toInt = (roundAway q.toRat).tdiv unit.scale) ∧
    (text.length < 2 ^ 31 → parse .wraps text = .ok q ∧ q.value .wraps = q.value .ends ∧
      q.milliValue .wraps = q.milliValue .ends) := by
  refine ⟨fun result success => (value_eq_ok_iff.mp success).2, ?_, ?_, ?_⟩
  · intro result success
    obtain ⟨noOverflow, -, -⟩ := milliValue_eq_ok_iff.mp success
    exact (milliValue_exact_iff success).mpr (.inr (by simpa using noOverflow))
  · intro unit count success
    obtain ⟨_, result, parsedAgain, isValue, isCount⟩ := BinaryUnit.exists_value_of_read success
    cases parsed.symm.trans parsedAgain
    rw [isCount, (value_eq_ok_iff.mp isValue).2]
  · intro short
    obtain ⟨parsedAgain, low⟩ := parse_wraps_of_ends short parsed
    have range := Int32.le_toInt q.exp10
    exact ⟨parsedAgain, scaled_wraps (by rw [Int32.toInt_zero]; omega),
      scaled_wraps (by rw [toInt_three]; omega)⟩

theorem conversion_exact_mebi :
    parse .ends "-2.0000001Mi" = .ok ⟨-20000001, -7, 20⟩ ∧
      roundAway (toRat ⟨-20000001, -7, 20⟩) = -2097153 ∧
      roundAway (1000 * toRat ⟨-20000001, -7, 20⟩) = -2097152105 ∧
      (roundAway (toRat ⟨-20000001, -7, 20⟩)).tdiv BinaryUnit.mebi.scale = -2 := by
  have parsed : parse .ends "-2.0000001Mi" = .ok ⟨-20000001, -7, 20⟩ := by rfl
  obtain ⟨isValue, areThousandths, areUnits, -⟩ := conversion_exact _ parsed
  refine ⟨parsed, ?_, ?_, ?_⟩
  · exact (isValue (-2097153) (by rfl)).symm
  · exact (areThousandths (-2097152105) (by rfl)).symm
  · exact (areUnits .mebi (-2) (by rfl)).symm

/-- A conversion fails exactly if the rounded number is out of range or there is no room, but
thousandths whose power of ten is no word do not fail for being out of range: either they wrap, or
the conversion ends. There is room for twenty digits in every unit, and for thirty digits in units
up to `Mi`. -/
theorem conversion_fails_iff (overflow : Overflow) (text : String) {q : Quantity}
    (parsed : parse overflow text = .ok q) :
    (∀ error, q.value overflow = .error error ↔
      error = ⟨q.display, .valueOutOfRange⟩ ∧
        (¬IsSignedWord (roundAway q.toRat) ∨ ¬q.HasRoom q.exp10.toInt)) ∧
    (∀ error, q.milliValue overflow = .error error ↔
      error = ⟨q.display, .valueOutOfRange⟩ ∧
        (q.exp10.toInt + 3 < 2 ^ 31 ∧ ¬IsSignedWord (roundAway (1000 * q.toRat)) ∨
          ¬q.HasRoom (q.exp10 + 3).toInt) ∨
      error = ⟨q.display, .overflow⟩ ∧ IsSignedLongWord q.numerator ∧
        overflow = .ends ∧ ¬q.exp10.toInt + 3 < 2 ^ 31) ∧
    ∀ n, Spells (trimBlanks text.toList) n → n.number ≠ 0 →
      n.significant.length ≤ 20 ∨ n.twos ≤ 20 → ∀ power, q.HasRoom power :=
  ⟨fun _ => value_eq_error_iff, fun _ => milliValue_eq_error_iff,
    fun _ spelled nonzero short => hasRoom_of_parse parsed spelled nonzero short⟩

theorem conversion_fails_iff_exbi :
    parse .wraps "8Ei" = .ok ⟨8, 0, 60⟩ ∧ ¬IsSignedWord (roundAway (toRat ⟨8, 0, 60⟩)) ∧
      value .wraps ⟨8, 0, 60⟩ = .error ⟨"8e0*2^60", .valueOutOfRange⟩ := by
  have parsed : parse .wraps "8Ei" = .ok ⟨8, 0, 60⟩ := by rfl
  have isWhole : toRat ⟨8, 0, 60⟩ = (2 ^ 63 : Int) := by
    rw [toRat_eq]
    change (((8 * 2 ^ 60 : Int) : ℚ) * 10 ^ (0 : Int) = _)
    norm_num
  have outOfRange : ¬IsSignedWord (roundAway (toRat ⟨8, 0, 60⟩)) := by
    rw [isWhole, roundAway_intCast]
    decide
  refine ⟨parsed, outOfRange, ?_⟩
  exact ((conversion_fails_iff .wraps _ parsed).1 _).mpr ⟨by decide +kernel, .inl outOfRange⟩

/-- A tenth of an exbi unit is no word of 128 bits before it is divided, and zero is multiplied by
a power of ten that is none. -/
theorem value_lacks_room :
    (∀ overflow, parse overflow "0.100000000000000000000000000000Ei" = .ok ⟨10 ^ 29, -30, 60⟩ ∧
      value overflow ⟨10 ^ 29, -30, 60⟩ =
        .error ⟨display ⟨10 ^ 29, -30, 60⟩, .valueOutOfRange⟩) ∧
    roundAway (toRat ⟨10 ^ 29, -30, 60⟩) = 115292150460684698 ∧
    (∀ overflow, parse overflow "0e39" = .ok ⟨0, 39, 0⟩ ∧
      value overflow ⟨0, 39, 0⟩ = .error ⟨display ⟨0, 39, 0⟩, .valueOutOfRange⟩) ∧
    roundAway (toRat ⟨0, 39, 0⟩) = 0 := by
  have tenth : roundAway (toRat ⟨10 ^ 29, -30, 60⟩) = 115292150460684698 := by
    rw [toRat_eq]
    exact (roundAway_div_pow (10 ^ 29 * 2 ^ 60) 30).trans (by rfl)
  have zero : roundAway (toRat ⟨0, 39, 0⟩) = 0 := by
    rw [toRat_eq]
    exact roundAway_mul_pow 0 39
  refine ⟨fun overflow => ⟨by cases overflow <;> rfl, value_eq_error_iff.mpr ⟨rfl, .inr ?_⟩⟩,
    tenth, fun overflow => ⟨by cases overflow <;> rfl, value_eq_error_iff.mpr ⟨rfl, .inr ?_⟩⟩,
    zero⟩
  · rintro ⟨inRange, -⟩
    revert inRange
    decide
  · rintro ⟨-, room⟩
    revert room
    decide

end Quantity

end ChartParams
