/-!
# Attempts

A computation that may fail and has something to report on the way. What was reported before a
failure stays.
-/

namespace ChartParams

/-- A result that may have failed, with the reports that were made up to there, in order. -/
structure Attempt (ε ν α : Type) where
  result : Except ε α
  log : List ν

theorem bind_eq_ok_iff {ε α β : Type} {first : Except ε α} {next : α → Except ε β} {value : β} :
    first.bind next = .ok value ↔ ∃ middle, first = .ok middle ∧ next middle = .ok value := by
  cases first <;> simp [Except.bind]

theorem bind_eq_error_iff {ε α β : Type} {first : Except ε α} {next : α → Except ε β} {error : ε} :
    first.bind next = .error error ↔
      first = .error error ∨ ∃ middle, first = .ok middle ∧ next middle = .error error := by
  cases first <;> simp [Except.bind]

theorem map_eq_ok_iff {ε α β : Type} {result : Except ε α} {f : α → β} {value : β} :
    result.map f = .ok value ↔ ∃ found, result = .ok found ∧ f found = value := by
  cases result <;> simp [Except.map]

theorem mapError_eq_ok_iff {ε ε' α : Type} {result : Except ε α} {f : ε → ε'} {value : α} :
    result.mapError f = .ok value ↔ result = .ok value := by
  constructor
  · intro success
    cases result with
    | ok found =>
        cases success
        rfl
    | error error => cases success
  · rintro rfl
    rfl

namespace Attempt

variable {ε ν α β : Type}

def lift (result : Except ε α) : Attempt ε ν α := ⟨result, []⟩

def report (event : ν) : Attempt ε ν Unit := ⟨.ok (), [event]⟩

def fail (error : ε) : Attempt ε ν α := lift (.error error)

instance : Monad (Attempt ε ν) where
  pure value := lift (.ok value)
  bind first next :=
    match first.result with
    | .ok value => let second := next value; ⟨second.result, first.log ++ second.log⟩
    | .error error => ⟨.error error, first.log⟩

@[simp]
theorem result_lift (result : Except ε α) : (lift result : Attempt ε ν α).result = result := rfl

@[simp]
theorem log_lift (result : Except ε α) : (lift result : Attempt ε ν α).log = [] := rfl

@[simp]
theorem result_pure (value : α) : (pure value : Attempt ε ν α).result = .ok value := rfl

@[simp]
theorem result_bind (first : Attempt ε ν α) (next : α → Attempt ε ν β) :
    (first >>= next).result = first.result.bind fun value => (next value).result := by
  cases first with
  | mk result log => cases result <;> rfl

theorem result_foldlM (step : α → β → Attempt ε ν α) (start : α) (items : List β) :
    (items.foldlM step start).result =
      items.foldlM (fun value item => (step value item).result) start := by
  induction items generalizing start with
  | nil => rfl
  | cons item rest inductionHypothesis =>
      rw [List.foldlM_cons, List.foldlM_cons, result_bind]
      simp only [inductionHypothesis]
      rfl

end Attempt

end ChartParams
