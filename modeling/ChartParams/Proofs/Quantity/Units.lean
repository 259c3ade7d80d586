import ChartParams.Attempt
import ChartParams.Quantity.Units

/-!
# Units that are read back

A count of binary units is read back from the quantity that is written for it, unless the amount
that it stands for is no signed word. A count that is read always stands for a signed word. No
exponent of ten overflows on the way.
-/

namespace ChartParams

namespace Quantity

variable {overflow : Overflow} {n : Int} {word : Int32}

theorem Overflow.word_eq_ok_iff :
    overflow.word n = .ok word ↔
      word = Int32.ofInt n ∧ (overflow = .ends → IsSignedHalfWord n) := by
  cases overflow with
  | wraps => simp [Overflow.word, eq_comm]
  | ends =>
      by_cases fits : IsSignedHalfWord n
      · rw [Overflow.word, if_pos fits, Except.ok.injEq, eq_comm]
        exact ⟨fun isWord => ⟨isWord, fun _ => fits⟩, And.left⟩
      · rw [Overflow.word, if_neg fits]
        exact iff_of_false nofun fun both => fits (both.2 rfl)

theorem Overflow.word_eq_error_iff {fault : Fault} :
    overflow.word n = .error fault ↔
      fault = .overflow ∧ overflow = .ends ∧ ¬IsSignedHalfWord n := by
  cases overflow with
  | wraps => simp [Overflow.word]
  | ends =>
      by_cases fits : IsSignedHalfWord n
      · rw [Overflow.word, if_pos fits]
        exact iff_of_false nofun fun both => both.2.2 fits
      · rw [Overflow.word, if_neg fits, Except.error.injEq, eq_comm]
        exact ⟨fun isFault => ⟨isFault, rfl, fits⟩, And.left⟩

theorem Overflow.word_of_fits (overflow : Overflow) (fits : IsSignedHalfWord n) :
    overflow.word n = .ok (Int32.ofInt n) :=
  word_eq_ok_iff.mpr ⟨rfl, fun _ => fits⟩

theorem orOutOfRange_eq_ok_iff {α : Type} {result : Option α} {value : α} :
    orOutOfRange result = .ok value ↔ result = some value := by
  cases result <;> simp [orOutOfRange]

end Quantity

namespace Numeral

theorem ofDigits_eq_ofDigitChars (digits : List Char) :
    ofDigits digits = Nat.ofDigitChars 10 digits 0 := by
  have sameStep : (fun total (c : Char) => total * 10 + (c.toNat - '0'.toNat)) =
      fun total c => 10 * total + (c.toNat - '0'.toNat) := by
    funext total c
    rw [Nat.mul_comm]
  rw [ofDigits, continueDigits, sameStep, Nat.ofDigitChars_eq_foldl]

theorem ofDigits_toDigits (n : Nat) : ofDigits (Nat.toDigits 10 n) = n := by
  rw [ofDigits_eq_ofDigitChars, Nat.ofDigitChars_ten_toDigits]

theorem isDigit_of_mem_toDigits {n : Nat} : ∀ c ∈ Nat.toDigits 10 n, c.isDigit = true :=
  fun _ membership => Nat.isDigit_of_mem_toDigits (by decide) (by decide) membership

theorem exists_toDigits_eq_cons (n : Nat) :
    ∃ c rest, Nat.toDigits 10 n = c :: rest ∧ c.isDigit = true := by
  obtain ⟨c, rest, isCons⟩ := List.exists_cons_of_ne_nil (@Nat.toDigits_ne_nil n 10)
  exact ⟨c, rest, isCons, isDigit_of_mem_toDigits c (isCons ▸ List.mem_cons_self)⟩

theorem spanDigits_append {digits rest : List Char} (areDigits : ∀ c ∈ digits, c.isDigit = true)
    (stop : ∀ c ∈ rest.head?, c.isDigit = false) :
    spanDigits (digits ++ rest) = (digits, rest) := by
  have taken : rest.takeWhile Char.isDigit = [] ∧ rest.dropWhile Char.isDigit = rest := by
    cases rest with
    | nil => exact ⟨rfl, rfl⟩
    | cons c rest => simp [stop c rfl]
  rw [spanDigits, List.takeWhile_append_of_pos areDigits, List.dropWhile_append_of_pos areDigits,
    taken.1, taken.2, List.append_nil]

end Numeral

def signedDigits (n : Int) : List Char :=
  if n < 0 then '-' :: Nat.toDigits 10 n.natAbs else Nat.toDigits 10 n.natAbs

theorem toList_toString (n : Int) : (toString n).toList = signedDigits n := by
  rw [Int.toString_eq_repr, Int.repr_eq_if, signedDigits]
  by_cases negative : n < 0
  · have size : (-n).toNat = n.natAbs := by omega
    rw [if_neg (by omega), if_pos negative, String.toList_append, Nat.toList_repr, size]
    rfl
  · have size : n.toNat = n.natAbs := by omega
    rw [if_pos (by omega), if_neg negative, Nat.toList_repr, size]

/-- A quotient that is rounded towards zero does not exceed the dividend. -/
theorem tdiv_mul_between (n : Int) {divisor : Int} (positive : 0 < divisor) :
    min n 0 ≤ n.tdiv divisor * divisor ∧ n.tdiv divisor * divisor ≤ max n 0 := by
  have split := Int.tmod_add_tdiv_mul n divisor
  have nonneg := Int.le_of_lt positive
  rcases Int.le_total 0 n with above | below
  · have remainder := Int.tmod_nonneg divisor above
    have quotient := Int.mul_nonneg (Int.tdiv_nonneg above nonneg) nonneg
    omega
  · have negated := Int.neg_nonneg_of_nonpos below
    have remainder := Int.tmod_nonneg divisor negated
    have quotient := Int.mul_nonneg (Int.tdiv_nonneg negated nonneg) nonneg
    rw [Int.neg_tmod] at remainder
    rw [Int.neg_tdiv, Int.neg_mul] at quotient
    omega

theorem isBlank_of_isDigit {c : Char} (isDigit : c.isDigit = true) : isBlank c = false := by
  have range : 48 ≤ c.toNat ∧ c.toNat ≤ 57 := by
    simpa [Char.isDigit, UInt32.le_iff_toNat_le] using isDigit
  simp [isBlank]
  omega

theorem ne_sign_of_isDigit {c : Char} (isDigit : c.isDigit = true) : c ≠ '-' ∧ c ≠ '+' := by
  constructor
  · rintro rfl
    cases isDigit
  · rintro rfl
    cases isDigit

namespace BinaryUnit

def power : BinaryUnit → Nat
  | mebi => 20
  | gibi => 30

theorem pow_power (unit : BinaryUnit) : (Nat.pow 2 unit.power : Nat) = unit.scale := by
  cases unit <;> rfl

theorem scale_pos (unit : BinaryUnit) : 0 < unit.scale := by
  cases unit <;> decide

theorem spelling?_write (unit : BinaryUnit) (n : Int) :
    Quantity.spelling? (signedDigits n ++ unit.suffix.toList) =
      some ⟨decide (n < 0), Nat.toDigits 10 n.natAbs, [], .binary unit.power⟩ := by
  have digits : Numeral.spanDigits (Nat.toDigits 10 n.natAbs ++ unit.suffix.toList) =
      (Nat.toDigits 10 n.natAbs, unit.suffix.toList) := by
    apply Numeral.spanDigits_append Numeral.isDigit_of_mem_toDigits
    cases unit <;> simp [suffix]
  unfold Quantity.spelling? signedDigits
  by_cases negative : n < 0
  · simp [negative, digits]
    cases unit <;> exact ⟨rfl, rfl⟩
  · obtain ⟨c, rest, isCons, isDigit⟩ := Numeral.exists_toDigits_eq_cons n.natAbs
    obtain ⟨notMinus, notPlus⟩ := ne_sign_of_isDigit isDigit
    rw [isCons, List.cons_append] at digits
    simp [negative, isCons, notMinus, notPlus, digits]
    cases unit <;> exact ⟨rfl, rfl⟩

theorem trimBlanks_write (unit : BinaryUnit) (n : Int) :
    trimBlanks (signedDigits n ++ unit.suffix.toList) = signedDigits n ++ unit.suffix.toList := by
  apply trimBlanks_eq_self
  · intro c first
    unfold signedDigits at first
    split at first
    · cases first
      decide
    · obtain ⟨digit, rest, isCons, isDigit⟩ := Numeral.exists_toDigits_eq_cons n.natAbs
      rw [isCons] at first
      cases first
      exact isBlank_of_isDigit isDigit
  · intro c last
    have isLast : c = 'i' := by
      cases unit <;> simpa [suffix, eq_comm] using last
    subst isLast
    decide

/-- The quantity that is written for a count of units has the count as its mantissa. -/
theorem parse_write (overflow : Quantity.Overflow) (unit : BinaryUnit) (count : Int64) :
    Quantity.parse overflow (unit.write count) = .ok ⟨count.toInt, 0, unit.power⟩ := by
  have isText : (unit.write count).toList = signedDigits count.toInt ++ unit.suffix.toList := by
    rw [write, String.toList_append, toList_toString]
  have short : (Nat.toDigits 10 count.toInt.natAbs).length ≤ Quantity.maxDigits := by
    have range := isSignedWord_toInt count
    rw [Nat.length_toDigits_le_iff (by decide) (by decide)]
    simp only [Quantity.maxDigits]
    omega
  have shorter := (List.dropWhile_sublist (fun c => c == '0')
    (l := Nat.toDigits 10 count.toInt.natAbs)).length_le
  have signed : (if count.toInt < 0 then -(count.toInt.natAbs : Int) else count.toInt.natAbs) =
      count.toInt := by
    split <;> omega
  have noPlaces := overflow.word_of_fits (n := -(Int32.ofNat ([] : List Char).length).toInt)
    (by decide)
  have noPower := overflow.word_of_fits (n := (0 : Int32).toInt + (0 : Int32).toInt) (by decide)
  rw [Quantity.parse, isText, trimBlanks_write, spelling?_write]
  simp only [Quantity.Spelling.quantity, List.append_nil, Numeral.ofDigits_toDigits]
  rw [if_neg (by simp [Nat.toDigits_ne_nil]), if_neg (by omega), noPlaces]
  change Except.mapError _ ((overflow.word ((0 : Int32).toInt + (0 : Int32).toInt)).bind _) = _
  rw [noPower]
  simp only [decide_eq_true_eq, signed]
  rfl

theorem value_units (overflow : Quantity.Overflow) (unit : BinaryUnit) {n : Int}
    (fits : IsSignedWord n) :
    (⟨n, 0, unit.power⟩ : Quantity).value overflow =
      (Quantity.orOutOfRange (int64? (n * unit.scale))).mapError
        (⟨(⟨n, 0, unit.power⟩ : Quantity).display, ·⟩) := by
  have inRange : Quantity.inRange? (n * unit.scale) = some (n * unit.scale) := by
    apply if_pos
    cases unit <;> simp only [scale] <;> omega
  have noShift := overflow.word_of_fits (n := (0 : Int32).toInt + (0 : Int32).toInt) (by decide)
  have noFactor : n * unit.scale * (Nat.pow 10 0 : Nat) = n * unit.scale := Int.mul_one _
  have unscaled : Quantity.rescale? (n * unit.scale) 0 = int64? (n * unit.scale) := by
    change (Quantity.inRange? (n * unit.scale * (Nat.pow 10 0 : Nat))).bind _ = _
    rw [noFactor, inRange]
    rfl
  rw [Quantity.value, Quantity.scaled, pow_power, inRange, ← unscaled]
  change Except.mapError _ ((overflow.word ((0 : Int32).toInt + (0 : Int32).toInt)).bind _) = _
  rw [noShift]
  rfl

/-- A count of units is read back if the amount that it stands for is a signed word. -/
theorem read_write (overflow : Quantity.Overflow) (unit : BinaryUnit) (count : Int64) :
    unit.read overflow (unit.write count) =
      if IsSignedWord (count.toInt * unit.scale) then
        .ok count
      else
        .error ⟨(⟨count.toInt, 0, unit.power⟩ : Quantity).display, .valueOutOfRange⟩ := by
  rw [read, parse_write]
  change (Quantity.value overflow _ >>= _) = _
  rw [value_units overflow unit (isSignedWord_toInt count)]
  by_cases fits : IsSignedWord (count.toInt * unit.scale)
  · obtain ⟨amount, isAmount⟩ : ∃ amount, int64? (count.toInt * unit.scale) = some amount :=
      ⟨_, if_pos fits⟩
    rw [isAmount, if_pos fits]
    change Except.ok (Int64.ofInt (amount.toInt.tdiv unit.scale)) = _
    rw [int64?_eq_some_iff.mp isAmount, Int.mul_tdiv_cancel _ (Int.ne_of_gt unit.scale_pos),
      Int64.ofInt_toInt]
  · rw [int64?_eq_none_iff.mpr fits, if_neg fits]
    rfl

theorem isSignedWord_tdiv (unit : BinaryUnit) (amount : Int64) :
    IsSignedWord (amount.toInt.tdiv unit.scale) := by
  have range := isSignedWord_toInt amount
  have between := tdiv_mul_between amount.toInt unit.scale_pos
  cases unit <;> simp only [scale] at between ⊢ <;> omega

theorem exists_value_of_read {overflow : Quantity.Overflow} {unit : BinaryUnit} {text : String}
    {count : Int64} (success : unit.read overflow text = .ok count) :
    ∃ quantity value, Quantity.parse overflow text = .ok quantity ∧
      quantity.value overflow = .ok value ∧ count.toInt = value.toInt.tdiv unit.scale := by
  obtain ⟨quantity, parsed, success⟩ := bind_eq_ok_iff.mp success
  obtain ⟨value, isValue, success⟩ := bind_eq_ok_iff.mp success
  cases success
  exact ⟨quantity, value, parsed, isValue,
    int64?_eq_some_iff.mp (if_pos (isSignedWord_tdiv unit value))⟩

theorem isSignedWord_of_read {overflow : Quantity.Overflow} {unit : BinaryUnit} {text : String}
    {count : Int64} (success : unit.read overflow text = .ok count) :
    IsSignedWord (count.toInt * unit.scale) := by
  obtain ⟨_, amount, -, -, isCount⟩ := exists_value_of_read success
  have range := isSignedWord_toInt amount
  have between := tdiv_mul_between amount.toInt unit.scale_pos
  rw [isCount]
  omega

end BinaryUnit

end ChartParams
