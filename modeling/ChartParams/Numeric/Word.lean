/-!
# Whole numbers of machine words

A number of the parameter list is a signed word of 64 bits. Documents also hold the unsigned words.
-/

namespace ChartParams

/-- The values of signed words of 32 bits. -/
abbrev IsSignedHalfWord (n : Int) : Prop := -0x8000_0000 ≤ n ∧ n < 0x8000_0000

/-- The values of signed words of 64 bits. -/
abbrev IsSignedWord (n : Int) : Prop := -0x8000_0000_0000_0000 ≤ n ∧ n < 0x8000_0000_0000_0000

/-- The values of signed and of unsigned words of 64 bits. -/
abbrev IsWord (n : Int) : Prop := -0x8000_0000_0000_0000 ≤ n ∧ n < 0x1_0000_0000_0000_0000

/-- The values of signed words of 128 bits. -/
abbrev IsSignedLongWord (n : Int) : Prop :=
  -0x8000_0000_0000_0000_0000_0000_0000_0000 ≤ n ∧ n < 0x8000_0000_0000_0000_0000_0000_0000_0000

abbrev IsLongWord (n : Int) : Prop :=
  -0x8000_0000_0000_0000_0000_0000_0000_0000 ≤ n ∧
    n < 0x1_0000_0000_0000_0000_0000_0000_0000_0000

/-- The signed word with the value `n`, if there is one. -/
def int64? (n : Int) : Option Int64 :=
  if IsSignedWord n then some (Int64.ofInt n) else none

theorem isSignedHalfWord_toInt (w : Int32) : IsSignedHalfWord w.toInt :=
  ⟨Int32.le_toInt w, Int32.toInt_lt w⟩

theorem isSignedWord_toInt (w : Int64) : IsSignedWord w.toInt := by
  have low := Int64.le_toInt w
  have high := Int64.toInt_lt w
  omega

theorem int64?_eq_some_iff {n : Int} {w : Int64} : int64? n = some w ↔ w.toInt = n := by
  unfold int64?
  constructor
  · intro found
    split at found
    · rename_i fits
      cases found
      exact Int64.toInt_ofInt_of_le (by simpa using fits.1) (by simpa using fits.2)
    · cases found
  · rintro rfl
    rw [if_pos (isSignedWord_toInt w), Int64.ofInt_toInt]

@[simp]
theorem int64?_toInt (w : Int64) : int64? w.toInt = some w :=
  int64?_eq_some_iff.2 rfl

theorem int64?_eq_none_iff {n : Int} : int64? n = none ↔ ¬IsSignedWord n := by
  unfold int64?
  split <;> simp_all

def clampInt64 (n : Int) : Int64 :=
  Int64.ofInt (max (-0x8000_0000_0000_0000) (min n 0x7FFF_FFFF_FFFF_FFFF))

end ChartParams
