import ChartParams.Proofs.Quantity.Grammar

/-!
# Whole numbers in texts

A text is read as a signed word exactly if it spells one: an optional sign and digits, whose number
is in the range of the words. Such a text is also read as a float.
-/

namespace ChartParams

namespace Numeral

theorem continueDigits_cons (value : Nat) (c : Char) (rest : List Char) :
    continueDigits value (c :: rest) = continueDigits (value * 10 + (c.toNat - '0'.toNat)) rest :=
  List.foldl_cons

theorem le_continueDigits (value : Nat) (digits : List Char) :
    value ≤ continueDigits value digits := by
  induction digits generalizing value with
  | nil => exact Nat.le_refl value
  | cons c rest inductionHypothesis =>
      rw [continueDigits_cons]
      have more := inductionHypothesis (value * 10 + (c.toNat - '0'.toNat))
      omega

theorem readDigits_eq_ok_iff {bound : Nat} {excess : NumeralFault} {digits : List Char}
    {value n : Nat} (within : value ≤ bound) :
    readDigits bound excess value digits = .ok n ↔
      AreDigits digits ∧ continueDigits value digits = n ∧ n ≤ bound := by
  induction digits generalizing value with
  | nil =>
      constructor
      · rintro ⟨⟩
        exact ⟨List.forall_mem_nil _, rfl, within⟩
      · rintro ⟨-, rfl, -⟩
        rfl
  | cons c rest inductionHypothesis =>
      rw [continueDigits_cons, AreDigits, List.forall_mem_cons, readDigits, digit?]
      by_cases isDigit : c.isDigit = true
      · rw [if_pos isDigit]
        dsimp only
        generalize value * 10 + (c.toNat - '0'.toNat) = next
        have grows := le_continueDigits next rest
        by_cases fits : next ≤ bound
        · rw [if_pos fits, inductionHypothesis fits]
          simp [isDigit, AreDigits]
        · rw [if_neg fits]
          apply iff_of_false (by simp)
          rintro ⟨-, isNumber, small⟩
          omega
      · rw [if_neg isDigit]
        exact iff_of_false (by simp) fun spelled => isDigit spelled.1.1

theorem isInteger_iff {text : List Char} {n : Int} :
    IsInteger text n ↔
      (splitSign text).2 ≠ [] ∧ AreDigits (splitSign text).2 ∧
        signed (splitSign text).1 (ofDigits (splitSign text).2) = n := by
  have read : exponent? text = some n ↔ IsInteger text n := ⟨exponent?_sound, exponent?_complete⟩
  rw [← read, exponent?_eq]
  simp [AreDigits, and_assoc]

theorem map_readDigits_eq_ok_iff {lower upper : Nat} {excess : NumeralFault}
    {digits : List Char} {n : Int} (negative : Bool) (nonempty : digits ≠ []) :
    Except.map (signed negative) (do
        let size ← readDigits (if negative then lower else upper) excess 0 digits
        pure (size : Int)) = .ok n ↔
      (digits ≠ [] ∧ AreDigits digits ∧ signed negative (ofDigits digits) = n) ∧
        -(lower : Int) ≤ n ∧ n ≤ upper := by
  rw [map_eq_ok_iff]
  constructor
  · rintro ⟨found, read, rfl⟩
    obtain ⟨size, readSize, ⟨⟩⟩ := bind_eq_ok_iff.mp read
    obtain ⟨areDigits, rfl, small⟩ := (readDigits_eq_ok_iff (Nat.zero_le _)).mp readSize
    refine ⟨⟨nonempty, areDigits, rfl⟩, ?_⟩
    cases negative <;>
      simp only [signed, if_true, if_false, Bool.false_eq_true] at small ⊢ <;> omega
  · rintro ⟨⟨-, areDigits, rfl⟩, low, high⟩
    refine ⟨_, bind_eq_ok_iff.mpr ⟨ofDigits digits, ?_, rfl⟩, rfl⟩
    refine (readDigits_eq_ok_iff (Nat.zero_le _)).mpr ⟨areDigits, rfl, ?_⟩
    cases negative <;>
      simp only [signed, if_true, if_false, Bool.false_eq_true] at low high ⊢ <;> omega

/-- A text is read as a whole number exactly if it spells one that is within the bounds. -/
theorem readSigned_eq_ok_iff {lower upper : Nat} {text : List Char} {n : Int} :
    readSigned lower upper text = .ok n ↔ IsInteger text n ∧ -(lower : Int) ≤ n ∧ n ≤ upper := by
  rw [isInteger_iff]
  fun_cases readSigned lower upper text
  case case1 | case2 | case3 => exact iff_of_false nofun fun spelled => spelled.1.1 rfl
  case case4 digits nonempty =>
    simp only [splitSign]
    exact map_readDigits_eq_ok_iff true nonempty
  case case5 digits nonempty =>
    simp only [splitSign]
    exact map_readDigits_eq_ok_iff false nonempty
  case case6 nonempty _ _ noMinus noPlus =>
    have unsigned : splitSign text = (false, text) := by
      unfold splitSign
      split
      · exact absurd rfl (noMinus _)
      · exact absurd rfl (noPlus _)
      · rfl
    rw [unsigned]
    exact map_readDigits_eq_ok_iff false nonempty

theorem readInt64_eq_ok_iff {text : String} {n : Int64} :
    readInt64 text = .ok n ↔ IsInteger text.toList n.toInt := by
  rw [readInt64, map_eq_ok_iff]
  simp only [readSigned_eq_ok_iff]
  constructor
  · rintro ⟨found, ⟨spelled, low, high⟩, rfl⟩
    rwa [Int64.toInt_ofInt_of_le (by simpa using low) (by simpa using Int.lt_add_one_of_le high)]
  · intro spelled
    have range := isSignedWord_toInt n
    exact ⟨n.toInt, ⟨spelled, range.1, Int.le_of_lt_add_one range.2⟩, Int64.ofInt_toInt n⟩

theorem readBinary64_eq (text : String) :
    readBinary64 text =
      if text.isEmpty then
        .error .emptyFloat
      else
        match decimal? (splitSign text.toList).1 (splitSign text.toList).2 with
        | some d => .ok d.toBinary64
        | none =>
            match specialFloat? (splitSign text.toList).1 (splitSign text.toList).2 with
            | some x => .ok x
            | none => .error .badFloat := rfl

theorem decimal?_of_digits {digits : List Char} (areDigits : AreDigits digits)
    (nonempty : digits ≠ []) (negative : Bool) :
    decimal? negative digits = some ⟨negative, ofDigits digits, 0⟩ := by
  have spanned : spanDigits digits = (digits, []) := by
    simpa using @spanDigits_append digits [] areDigits nofun
  simp [decimal?, spanned, nonempty]

theorem exists_readBinary64_of_readInt64 {text : String} {n : Int64}
    (read : readInt64 text = .ok n) : ∃ x, readBinary64 text = .ok x := by
  obtain ⟨nonempty, areDigits, -⟩ := isInteger_iff.mp (readInt64_eq_ok_iff.mp read)
  have visible : ¬text.isEmpty = true := by
    intro isEmpty
    rw [String.isEmpty_iff.mp isEmpty] at nonempty
    exact nonempty rfl
  rw [readBinary64_eq, if_neg visible, decimal?_of_digits areDigits nonempty]
  exact ⟨_, rfl⟩

end Numeral

end ChartParams
