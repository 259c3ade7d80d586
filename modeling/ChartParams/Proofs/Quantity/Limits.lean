import ChartParams.Proofs.Quantity.Grammar

/-!
# The limits of quantities

A text is read as a quantity exactly if it spells an amount within the limits of the notation, and
the quantity is then the amount. Both fail where an exponent of ten overflows, be it the size of the
lowest word or the power of ten of the last digit. Either the computation ends there, or the lowest
word is read as an exponent and the power of ten of the last digit is off by `2 ^ 32`.
-/

namespace ChartParams

namespace Quantity

/-! ## Exponents -/

theorem natAbs_le_of_decimal {text : List Char} {power : Int32}
    (read : suffix? text = some (.decimal power)) : power.toInt.natAbs ≤ 64 := by
  have small : ∀ unit ∈ decimalUnits, unit.2.natAbs ≤ 64 := by simp [decimalUnits]
  rcases suffix?_cases read with ⟨-, ⟨⟩⟩ | ⟨letter, ten, listed, -, ⟨⟩⟩ | ⟨_, _, _, _, ⟨⟩⟩ |
    ⟨_, _, _, _, _, _, ⟨⟩⟩
  · decide
  · exact small _ listed

/-- The size of the lowest word wraps to that word, which passes as small. -/
theorem size_le_maxExponent_iff {power : Int} (isWord : IsSignedHalfWord power) :
    Int32.ofInt power.natAbs ≤ maxExponent ↔ power.natAbs ≤ 64 ∨ power = -2 ^ 31 := by
  have isMax : maxExponent.toInt = 64 := rfl
  rw [Int32.le_iff_toInt_le, isMax]
  by_cases lowest : power = -2 ^ 31
  · subst lowest
    decide
  · rw [Int32.toInt_ofInt_of_le (by omega) (by omega)]
    omega

namespace Suffix

variable {overflow : Overflow} {suffix : Suffix}

theorem powers_exponent (overflow : Overflow) (power : Int) :
    (exponent power).powers overflow =
      if IsSignedHalfWord power then
        (overflow.word power.natAbs).bind fun size =>
          if size ≤ maxExponent then .ok (Int32.ofInt power, 0) else .error .exponentOutOfRange
      else
        .error .malformedExponent := rfl

theorem powers_eq_ok {powers : Int32 × Nat} (success : suffix.powers overflow = .ok powers) :
    powers.1.toInt = suffix.tens ∧ powers.2 = suffix.twos := by
  cases suffix with
  | decimal power =>
    cases success
    exact ⟨rfl, rfl⟩
  | binary power =>
    cases success
    exact ⟨rfl, rfl⟩
  | exponent power =>
    rw [powers_exponent] at success
    split at success
    · rename_i isWord
      obtain ⟨size, -, success⟩ := bind_eq_ok_iff.mp success
      split at success
      · cases success
        exact ⟨Int32.toInt_ofInt_of_le isWord.1 isWord.2, rfl⟩
      · cases success
    · cases success

theorem exists_powers_iff (overflow : Overflow) {text : List Char}
    (read : suffix? text = some suffix) :
    (∃ powers, suffix.powers overflow = .ok powers) ↔
      suffix.tens.natAbs ≤ 64 ∨ overflow = .wraps ∧ suffix.tens = -2 ^ 31 := by
  cases suffix with
  | decimal power => exact iff_of_true ⟨_, rfl⟩ (.inl (natAbs_le_of_decimal read))
  | binary power => exact iff_of_true ⟨_, rfl⟩ (.inl (by simp [tens]))
  | exponent power =>
    rw [powers_exponent, tens]
    by_cases isWord : IsSignedHalfWord power
    · simp only [if_pos isWord, bind_eq_ok_iff, Overflow.word_eq_ok_iff]
      constructor
      · rintro ⟨powers, size, ⟨rfl, fits⟩, success⟩
        have small : Int32.ofInt power.natAbs ≤ maxExponent := by
          by_contra large
          rw [if_neg large] at success
          cases success
        cases overflow with
        | wraps => simpa using (size_le_maxExponent_iff isWord).mp small
        | ends =>
          have sizeFits := fits rfl
          have limited := (size_le_maxExponent_iff isWord).mp small
          omega
      · intro limited
        have small := (size_le_maxExponent_iff isWord).mpr (limited.imp_right And.right)
        refine ⟨_, _, ⟨rfl, ?_⟩, if_pos small⟩
        rintro rfl
        simp only [reduceCtorEq, false_and, or_false] at limited
        omega
    · rw [if_neg isWord]
      refine iff_of_false (by simp) ?_
      omega

theorem exists_powers_ends_iff {text : List Char} (read : suffix? text = some suffix) :
    (∃ powers, suffix.powers .ends = .ok powers) ↔ suffix.tens.natAbs ≤ 64 := by
  simpa only [reduceCtorEq, false_and, or_false] using exists_powers_iff .ends read

theorem powers_eq_overflow_iff {text : List Char} (read : suffix? text = some suffix) :
    suffix.powers overflow = .error .overflow ↔ overflow = .ends ∧ suffix.tens = -2 ^ 31 := by
  cases suffix with
  | decimal power =>
    have small := natAbs_le_of_decimal read
    refine iff_of_false (by simp [powers]) ?_
    simp only [tens]
    omega
  | binary power => exact iff_of_false (by simp [powers]) (by simp [tens])
  | exponent power =>
    rw [powers_exponent, tens]
    by_cases isWord : IsSignedHalfWord power
    · rw [if_pos isWord]
      have limits (size : Int32) :
          (if size ≤ maxExponent then .ok (Int32.ofInt power, 0) else .error .exponentOutOfRange :
            Except Fault (Int32 × Nat)) ≠ .error .overflow := by
        split <;> simp
      cases overflow with
      | wraps => exact iff_of_false (limits _) (by simp)
      | ends =>
        rw [Overflow.word]
        by_cases fits : IsSignedHalfWord power.natAbs
        · rw [if_pos fits]
          exact iff_of_false (limits _) (by omega)
        · rw [if_neg fits]
          exact iff_of_true rfl ⟨rfl, by omega⟩
    · rw [if_neg isWord]
      refine iff_of_false (by simp) ?_
      omega

end Suffix

/-! ## Values -/

namespace Amount

def number (n : Amount) : Nat := Nat.ofDigitChars 10 (n.whole ++ n.fraction) 0

theorem decimal_eq (n : Amount) : n.decimal = n.number / 10 ^ n.fraction.length := by
  have joined : n.number =
      10 ^ n.fraction.length * Nat.ofDigitChars 10 n.whole 0 +
        Nat.ofDigitChars 10 n.fraction 0 := by
    rw [number, Nat.ofDigitChars_append, Nat.ofDigitChars_eq_ofDigitChars_zero]
  rw [decimal, joined]
  push_cast
  field_simp

theorem value_eq (n : Amount) :
    n.value = signed n.negative n.number * 10 ^ (n.tens - n.fraction.length) * 2 ^ n.twos := by
  have quotient : (10 : ℚ) ^ (n.tens - n.fraction.length) =
      10 ^ n.tens / 10 ^ n.fraction.length := by
    rw [zpow_sub₀ (by norm_num), zpow_natCast]
  rw [value, decimal_eq, quotient, signed]
  split <;> (push_cast; ring)

end Amount

theorem toRat_eq_value_iff (n : Amount) (power : Int32) :
    (⟨signed n.negative n.number, power, n.twos⟩ : Quantity).toRat = n.value ↔
      n.number = 0 ∨ power.toInt = n.tens - n.fraction.length := by
  have isZero : signed n.negative n.number = 0 ↔ n.number = 0 := by
    rw [signed]
    split <;> omega
  have powersDiffer : (10 : ℚ) ^ power.toInt = 10 ^ (n.tens - n.fraction.length) ↔
      power.toInt = n.tens - n.fraction.length := zpow_right_inj₀ (by norm_num) (by norm_num)
  have nonzero : (2 : ℚ) ^ n.twos ≠ 0 := pow_ne_zero _ (by norm_num)
  rw [n.value_eq, toRat, mul_left_inj' nonzero, mul_eq_mul_left_iff, powersDiffer,
    Int.cast_eq_zero, isZero, or_comm]

variable {overflow : Overflow} {s : Spelling} {q : Quantity}

theorem Spelling.quantity_eq (overflow : Overflow) (s : Spelling) :
    s.quantity overflow =
      if s.whole ++ s.fraction = [] then
        .error .noNumber
      else if maxDigits < s.amount.significant.length then
        .error .tooManyDigits
      else
        (overflow.word (-(Int32.ofNat s.fraction.length).toInt)).bind fun places =>
          (s.suffix.powers overflow).bind fun powers =>
            (overflow.word (places.toInt + powers.1.toInt)).bind fun exp10 =>
              .ok ⟨signed s.amount.negative s.amount.number, exp10, powers.2⟩ := by
  simp only [quantity, List.isEmpty_iff, Numeral.ofDigits_eq_ofDigitChars]
  rfl

/-- The power of ten that is kept is the one of the last digit modulo `2 ^ 32`. -/
theorem Spelling.eq_of_quantity (success : s.quantity overflow = .ok q) :
    s.whole ++ s.fraction ≠ [] ∧ s.amount.significant.length ≤ maxDigits ∧
      (∃ powers, s.suffix.powers overflow = .ok powers) ∧
      q = ⟨signed s.amount.negative s.amount.number,
        Int32.ofInt (s.amount.tens - s.amount.fraction.length), s.amount.twos⟩ := by
  rw [quantity_eq] at success
  split at success
  · cases success
  · rename_i nonempty
    split at success
    · cases success
    · rename_i short
      obtain ⟨places, isPlaces, success⟩ := bind_eq_ok_iff.mp success
      obtain ⟨powers, isPowers, success⟩ := bind_eq_ok_iff.mp success
      obtain ⟨exp10, isSum, success⟩ := bind_eq_ok_iff.mp success
      obtain ⟨isTens, isTwos⟩ := Suffix.powers_eq_ok isPowers
      obtain ⟨rfl, -⟩ := Overflow.word_eq_ok_iff.mp isPlaces
      obtain ⟨rfl, -⟩ := Overflow.word_eq_ok_iff.mp isSum
      cases success
      refine ⟨nonempty, Nat.le_of_not_lt short, ⟨powers, isPowers⟩, ?_⟩
      rw [isTens, isTwos, Int32.ofInt_add, Int32.ofInt_toInt, Int32.ofInt_neg, Int32.ofInt_toInt,
        amount, Int.sub_eq_add_neg, Int.add_comm s.suffix.tens, Int32.ofInt_add, Int32.ofInt_neg]
      rfl

theorem Spelling.quantity_of_lt (overflow : Overflow) (few : s.fraction.length < 2 ^ 31) :
    s.quantity overflow =
      if s.whole ++ s.fraction = [] then
        .error .noNumber
      else if maxDigits < s.amount.significant.length then
        .error .tooManyDigits
      else
        (s.suffix.powers overflow).bind fun powers =>
          (overflow.word (powers.1.toInt - s.fraction.length)).bind fun exp10 =>
            .ok ⟨signed s.amount.negative s.amount.number, exp10, powers.2⟩ := by
  have places : (Int32.ofNat s.fraction.length).toInt = s.fraction.length :=
    Int32.toInt_ofNat_of_lt few
  rw [quantity_eq, places, overflow.word_of_fits (by omega)]
  simp only [Except.bind]
  rw [Int32.toInt_ofInt_of_le (by omega) (by omega)]
  simp only [neg_add_eq_sub]

/-- The amounts that are read. Where overflow wraps, the lowest word passes as a small exponent.
Where it ends the computation, the power of ten of the last digit has to be a word. -/
def Overflow.Admits : Overflow → Amount → Prop
  | wraps, n => n.tens.natAbs ≤ 64 ∨ n.tens = -2 ^ 31
  | ends, n => n.tens.natAbs ≤ 64 ∧ -2 ^ 31 ≤ n.tens - n.fraction.length

theorem Overflow.admits_wraps_iff {n : Amount} :
    wraps.Admits n ↔ n.tens.natAbs ≤ 64 ∨ n.tens = -2 ^ 31 := Iff.rfl

theorem Overflow.admits_ends_iff {n : Amount} :
    ends.Admits n ↔ n.tens.natAbs ≤ 64 ∧ -2 ^ 31 ≤ n.tens - n.fraction.length := Iff.rfl

theorem Spelling.exists_quantity_iff {text : List Char} (read : suffix? text = some s.suffix)
    (few : s.fraction.length < 2 ^ 31) :
    (∃ q, s.quantity overflow = .ok q) ↔
      s.whole ++ s.fraction ≠ [] ∧ s.amount.significant.length ≤ maxDigits ∧
        overflow.Admits s.amount := by
  rw [quantity_of_lt overflow few]
  by_cases nonempty : s.whole ++ s.fraction = []
  · simp [nonempty]
  by_cases short : maxDigits < s.amount.significant.length
  · simp [nonempty, short]
  rw [if_neg nonempty, if_neg short]
  simp only [bind_eq_ok_iff, Overflow.word_eq_ok_iff, nonempty, Nat.le_of_not_lt short, ne_eq,
    not_false_iff, true_and]
  have isTens : s.amount.tens = s.suffix.tens := rfl
  constructor
  · rintro ⟨q, powers, isPowers, exp10, ⟨-, fits⟩, -⟩
    have isPower := (Suffix.powers_eq_ok isPowers).1
    cases overflow with
    | wraps =>
      have small := (Suffix.exists_powers_iff .wraps read).mp ⟨powers, isPowers⟩
      exact small.imp_right And.right
    | ends =>
      have small := (Suffix.exists_powers_ends_iff read).mp ⟨powers, isPowers⟩
      refine ⟨small, ?_⟩
      rw [isTens, ← isPower]
      exact (fits rfl).1
  · intro admitted
    have small : s.suffix.tens.natAbs ≤ 64 ∨ overflow = .wraps ∧ s.suffix.tens = -2 ^ 31 := by
      cases overflow with
      | wraps => exact admitted.imp_right fun lowest => ⟨rfl, lowest⟩
      | ends => exact .inl admitted.1
    obtain ⟨powers, isPowers⟩ := (Suffix.exists_powers_iff overflow read).mpr small
    have isPower := (Suffix.powers_eq_ok isPowers).1
    refine ⟨_, powers, isPowers, _, ⟨rfl, ?_⟩, rfl⟩
    rintro rfl
    obtain ⟨small, isWord⟩ := Overflow.admits_ends_iff.mp admitted
    rw [isPower, ← isTens]
    exact ⟨isWord, by omega⟩

theorem Spelling.quantity_eq_overflow_iff {text : List Char}
    (read : suffix? text = some s.suffix) (few : s.fraction.length < 2 ^ 31) :
    s.quantity overflow = .error .overflow ↔
      s.whole ++ s.fraction ≠ [] ∧ s.amount.significant.length ≤ maxDigits ∧
        overflow = .ends ∧ Overflow.wraps.Admits s.amount ∧ ¬Overflow.ends.Admits s.amount := by
  rw [quantity_of_lt overflow few]
  by_cases nonempty : s.whole ++ s.fraction = []
  · simp [nonempty]
  by_cases short : maxDigits < s.amount.significant.length
  · simp [nonempty, short]
  rw [if_neg nonempty, if_neg short]
  simp only [bind_eq_error_iff, Overflow.word_eq_error_iff, Suffix.powers_eq_overflow_iff read,
    nonempty, Nat.le_of_not_lt short, ne_eq, not_false_iff, true_and, reduceCtorEq, and_false,
    exists_false, or_false, Overflow.admits_wraps_iff, Overflow.admits_ends_iff]
  have isTens : s.amount.tens = s.suffix.tens := rfl
  rw [isTens]
  constructor
  · rintro (⟨rfl, lowest⟩ | ⟨powers, isPowers, rfl, outside⟩)
    · exact ⟨rfl, .inr lowest, by omega⟩
    · have isPower := (Suffix.powers_eq_ok isPowers).1
      have small := (Suffix.exists_powers_ends_iff read).mp ⟨powers, isPowers⟩
      rw [isPower] at outside
      refine ⟨rfl, .inl small, ?_⟩
      rintro ⟨-, isWord⟩
      exact outside ⟨isWord, by omega⟩
  · rintro ⟨rfl, small | lowest, notAdmitted⟩
    · obtain ⟨powers, isPowers⟩ := (Suffix.exists_powers_ends_iff read).mpr small
      refine .inr ⟨powers, isPowers, rfl, ?_⟩
      rw [(Suffix.powers_eq_ok isPowers).1]
      exact fun isWord => notAdmitted ⟨small, isWord.1⟩
    · exact .inl ⟨rfl, lowest⟩

theorem parse_eq_ok_iff {input : String} :
    parse overflow input = .ok q ↔
      ∃ s, spelling? (trimBlanks input.toList) = some s ∧ s.quantity overflow = .ok q := by
  rw [parse, mapError_eq_ok_iff]
  cases spelling? (trimBlanks input.toList) <;> simp

theorem parse_eq_overflow_iff {input : String} :
    parse overflow input = .error ⟨input, .overflow⟩ ↔
      ∃ s, spelling? (trimBlanks input.toList) = some s ∧
        s.quantity overflow = .error .overflow := by
  rw [parse]
  cases spelling? (trimBlanks input.toList) with
  | none => simp [Except.mapError]
  | some s => cases found : s.quantity overflow <;> simp [Except.mapError, found]

/-! ## Exactness -/

theorem length_trimBlanks_le (text : List Char) : (trimBlanks text).length ≤ text.length := by
  have front := (List.dropWhile_sublist isBlank (l := text)).length_le
  have back := (List.dropWhile_sublist isBlank (l := (text.dropWhile isBlank).reverse)).length_le
  rw [List.length_reverse] at back
  rw [trimBlanks, List.length_reverse]
  exact back.trans front

theorem spelling?_parts {text : List Char} (read : spelling? text = some s) :
    (∃ rest, suffix? rest = some s.suffix) ∧ s.fraction.length ≤ text.length := by
  rw [spelling?_eq] at read
  obtain ⟨suffix, isSuffix, rfl⟩ := Option.map_eq_some_iff.mp read
  obtain ⟨sign, -, isText⟩ := exists_isSign text
  have afterSign := congrArg List.length isText
  have afterNumber := congrArg List.length (Numeral.spanDigits_sound (splitSign text).2).2
  simp only [List.length_append] at afterSign afterNumber
  refine ⟨⟨_, isSuffix⟩, ?_⟩
  rcases splitFraction_cases (Numeral.spanDigits (splitSign text).2).2 with
    ⟨rest, isRest, isFraction⟩ | noPoint
  · have afterFraction := congrArg List.length (Numeral.spanDigits_sound rest).2
    simp only [isFraction]
    simp only [isRest, List.length_cons, List.length_append] at afterNumber afterFraction
    omega
  · simp only [noPoint]
    exact Nat.zero_le _

theorem exists_spells_iff {text : List Char} {property : Amount → Prop} :
    (∃ s, spelling? text = some s ∧ s.whole ++ s.fraction ≠ [] ∧ property s.amount) ↔
      ∃ n, Spells text n ∧ property n := by
  simp only [spells_iff]
  constructor
  · rintro ⟨s, read, nonempty, holds⟩
    exact ⟨_, ⟨s, read, nonempty, rfl⟩, holds⟩
  · rintro ⟨_, ⟨s, read, nonempty, rfl⟩, holds⟩
    exact ⟨s, read, nonempty, holds⟩

/-- What is read of a text is the amount that it spells, up to the power of ten. -/
theorem eq_of_parse {input : String} {n : Amount} (success : parse overflow input = .ok q)
    (spelled : Spells (trimBlanks input.toList) n) :
    n.significant.length ≤ 30 ∧
      (n.tens.natAbs ≤ 64 ∨ overflow = .wraps ∧ n.tens = -2 ^ 31) ∧
      q = ⟨signed n.negative n.number, Int32.ofInt (n.tens - n.fraction.length), n.twos⟩ := by
  obtain ⟨s, read, success⟩ := parse_eq_ok_iff.mp success
  obtain ⟨nonempty, short, isPowers, isQuantity⟩ := Spelling.eq_of_quantity success
  obtain ⟨rest, isSuffix⟩ := (spelling?_parts read).1
  obtain rfl := spelled.unique (spelling?_sound read nonempty)
  exact ⟨short, (Suffix.exists_powers_iff overflow isSuffix).mp isPowers, isQuantity⟩

theorem toInt_tens_iff {tens : Int} (places : Nat) (small : tens ≤ 64) :
    (Int32.ofInt (tens - places)).toInt = tens - places ↔ -2 ^ 31 ≤ tens - places := by
  constructor
  · intro kept
    rw [← kept]
    exact Int32.le_toInt _
  · intro isWord
    exact Int32.toInt_ofInt_of_le isWord (by omega)

theorem spelling_of_short {input : String} (short : input.length < 2 ^ 31)
    (read : spelling? (trimBlanks input.toList) = some s) :
    (∃ rest, suffix? rest = some s.suffix) ∧ s.fraction.length < 2 ^ 31 := by
  obtain ⟨isSuffix, fewer⟩ := spelling?_parts read
  exact ⟨isSuffix, fewer.trans_lt ((length_trimBlanks_le _).trans_lt short)⟩

theorem exists_parse_iff (overflow : Overflow) {input : String} (short : input.length < 2 ^ 31) :
    (∃ q, parse overflow input = .ok q) ↔
      ∃ n, Spells (trimBlanks input.toList) n ∧ n.significant.length ≤ 30 ∧
        overflow.Admits n := by
  simp only [parse_eq_ok_iff]
  rw [← exists_spells_iff, exists_comm]
  refine exists_congr fun s => exists_and_left.trans (and_congr_right fun read => ?_)
  obtain ⟨⟨rest, isSuffix⟩, few⟩ := spelling_of_short short read
  exact Spelling.exists_quantity_iff isSuffix few

/-- A quantity that is read without overflow is read as well where overflow wraps, and its power of
ten is no more than 64. -/
theorem parse_wraps_of_ends {input : String} (short : input.length < 2 ^ 31)
    (parsed : parse .ends input = .ok q) : parse .wraps input = .ok q ∧ q.exp10.toInt ≤ 64 := by
  obtain ⟨n, spelled, digits, small, isWord⟩ := (exists_parse_iff .ends short).mp ⟨q, parsed⟩
  obtain ⟨again, parsedAgain⟩ :=
    (exists_parse_iff .wraps short).mpr ⟨n, spelled, digits, .inl small⟩
  have isQuantity := (eq_of_parse parsed spelled).2.2
  rw [(eq_of_parse parsedAgain spelled).2.2, ← isQuantity] at parsedAgain
  refine ⟨parsedAgain, ?_⟩
  rw [isQuantity, (toInt_tens_iff _ (by omega)).mpr isWord]
  omega

theorem parse_eq_overflow_iff_spells {input : String} (short : input.length < 2 ^ 31) :
    parse overflow input = .error ⟨input, .overflow⟩ ↔
      ∃ n, Spells (trimBlanks input.toList) n ∧ n.significant.length ≤ 30 ∧
        overflow = .ends ∧ Overflow.wraps.Admits n ∧ ¬Overflow.ends.Admits n := by
  rw [← exists_spells_iff, parse_eq_overflow_iff]
  refine exists_congr fun s => and_congr_right fun read => ?_
  obtain ⟨⟨rest, isSuffix⟩, few⟩ := spelling_of_short short read
  exact Spelling.quantity_eq_overflow_iff isSuffix few

/-- A text is read exactly if it spells an amount of no more than 30 digits, with an exponent of no
more than 64 in size. The quantity is then the amount. Where overflow wraps, the lowest word is an
exponent as well, and the quantity differs from the amount if the power of ten of the last digit is
too low for a word. Where overflow ends the computation, it ends on just these. -/
theorem parse_exact (overflow : Overflow) (input : String) (short : input.length < 2 ^ 31) :
    ((∃ q, parse overflow input = .ok q) ↔
      ∃ n, Spells (trimBlanks input.toList) n ∧ n.significant.length ≤ 30 ∧
        overflow.Admits n) ∧
    (parse overflow input = .error ⟨input, .overflow⟩ ↔
      ∃ n, Spells (trimBlanks input.toList) n ∧ n.significant.length ≤ 30 ∧
        overflow = .ends ∧ Overflow.wraps.Admits n ∧ ¬Overflow.ends.Admits n) ∧
    ∀ q n, parse overflow input = .ok q → Spells (trimBlanks input.toList) n →
      (overflow = .ends → q.toRat = n.value) ∧
      (q.toRat = n.value ↔ n.number = 0 ∨ -2 ^ 31 ≤ n.tens - n.fraction.length) := by
  refine ⟨exists_parse_iff overflow short, parse_eq_overflow_iff_spells short, ?_⟩
  intro q n success spelled
  obtain ⟨-, limited, isQuantity⟩ := eq_of_parse success spelled
  have small : n.tens ≤ 64 := by omega
  have isKept : q.toRat = n.value ↔ n.number = 0 ∨ -2 ^ 31 ≤ n.tens - n.fraction.length := by
    rw [isQuantity, toRat_eq_value_iff, toInt_tens_iff _ small]
  refine ⟨?_, isKept⟩
  rintro rfl
  obtain ⟨m, spelledAgain, -, -, isWord⟩ := (exists_parse_iff .ends short).mp ⟨q, success⟩
  obtain rfl := spelled.unique spelledAgain
  exact isKept.mpr (.inr isWord)

theorem parse_exact_gibi :
    (∃ q, parse .ends " -0.50Gi" = .ok q) ∧
      (⟨-50, -2, 30⟩ : Quantity).toRat = (⟨true, ['0'], ['5', '0'], 0, 30⟩ : Amount).value := by
  have spelled : Spells (trimBlanks " -0.50Gi".toList) ⟨true, ['0'], ['5', '0'], 0, 30⟩ := by
    change Spells (['-'] ++ (['0'] ++ '.' :: (['5', '0'] ++ ['G', 'i']))) _
    refine .point .minus ?_ ?_ (by decide) (.binary (by decide)) <;> simp [AreDigits]
  obtain ⟨accepted, -, kept⟩ := parse_exact .ends " -0.50Gi" (by decide)
  constructor
  · exact accepted.mpr ⟨_, spelled, by decide, by decide, by decide⟩
  · exact (kept _ _ (by rfl) spelled).1 rfl

/-- The lowest word is far out of range as an exponent, but it is not refused as the next one is. -/
theorem parse_lowest_exponent :
    parse .ends "1e-2147483648" = .error ⟨"1e-2147483648", .overflow⟩ ∧
      parse .wraps "1e-2147483648" = .ok ⟨1, -0x8000_0000, 0⟩ ∧
      (∀ overflow, parse overflow "1e-2147483647" =
        .error ⟨"1e-2147483647", .exponentOutOfRange⟩) ∧
      ¬ ∃ n, Spells (trimBlanks "1e-2147483648".toList) n ∧ n.significant.length ≤ 30 ∧
        n.tens.natAbs ≤ 64 := by
  refine ⟨by rfl, by rfl, fun overflow => by cases overflow <;> rfl, ?_⟩
  rintro ⟨n, spelled, -, limited⟩
  obtain ⟨s, read, -, rfl⟩ := spelling?_complete spelled
  cases read
  revert limited
  decide

def Amount.zeros (places : Nat) : Amount := ⟨false, [], List.replicate places '0', -64, 0⟩

theorem spells_zeros {places : Nat} (nonempty : places ≠ 0) :
    Spells (trimBlanks ('.' :: (List.replicate places '0' ++ ['e', '-', '6', '4'])))
      (.zeros places) := by
  have isText : trimBlanks ('.' :: (List.replicate places '0' ++ ['e', '-', '6', '4'])) =
      [] ++ ([] ++ '.' :: (List.replicate places '0' ++ ['e', '-', '6', '4'])) := by
    apply trimBlanks_eq_self
    · rintro c ⟨⟩
      decide
    · intro c last
      simp [List.getLast?_cons, List.getLast?_append] at last
      subst last
      decide
  have areZeros : AreDigits (List.replicate places '0') := by
    intro c membership
    rw [List.eq_of_mem_replicate membership]
    decide
  rw [isText]
  refine .point .absent nofun areZeros ?_ (.exponent (by decide) (.spelled .minus ?_ nofun))
  · rwa [List.nil_append, ne_eq, List.replicate_eq_nil_iff]
  · simp [AreDigits]

theorem significant_zeros (places : Nat) : (Amount.zeros places).significant = [] := by
  rw [Amount.significant, Amount.zeros, List.nil_append, List.dropWhile_eq_nil_iff]
  intro c membership
  rw [List.eq_of_mem_replicate membership]
  rfl

/-- With enough digits after the point, the exponents within the limits overflow as well. -/
theorem parse_zeros {places : Nat} (many : 2 ^ 31 - 64 < places) (few : places + 5 < 2 ^ 31) :
    let input := String.ofList ('.' :: (List.replicate places '0' ++ ['e', '-', '6', '4']))
    parse .ends input = .error ⟨input, .overflow⟩ ∧
      ∃ n, Spells (trimBlanks input.toList) n ∧ n.significant.length ≤ 30 ∧
        n.tens.natAbs ≤ 64 := by
  intro input
  have spelled : Spells (trimBlanks input.toList) (.zeros places) := by
    rw [String.toList_ofList]
    exact spells_zeros (by omega)
  have short : input.length < 2 ^ 31 := by
    rw [String.length_ofList]
    simp only [List.length_cons, List.length_append, List.length_replicate, List.length_nil]
    omega
  have fewDigits : (Amount.zeros places).significant.length ≤ 30 := by
    rw [significant_zeros]
    decide
  refine ⟨?_, _, spelled, fewDigits, Nat.le_refl 64⟩
  refine (parse_eq_overflow_iff_spells short).mpr
    ⟨_, spelled, fewDigits, rfl, .inl (Nat.le_refl 64), ?_⟩
  rintro ⟨-, isWord⟩
  change -2 ^ 31 ≤ (-64 : Int) - (List.replicate places '0').length at isWord
  rw [List.length_replicate] at isWord
  omega

end Quantity

end ChartParams
