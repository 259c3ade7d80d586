/-!
# Results with a log

A computation that never fails but may have something to report.
-/

namespace ChartParams

/-- A value with the reports that were made on the way to it, in order. -/
structure Logged (ε α : Type) where
  value : α
  log : List ε

namespace Logged

variable {ε α β : Type}

instance : Monad (Logged ε) where
  pure value := ⟨value, []⟩
  bind first next :=
    let second := next first.value
    ⟨second.value, first.log ++ second.log⟩

def report (event : ε) (value : α) : Logged ε α := ⟨value, [event]⟩

@[simp]
theorem value_pure (value : α) : (pure value : Logged ε α).value = value := rfl

@[simp]
theorem log_pure (value : α) : (pure value : Logged ε α).log = [] := rfl

@[simp]
theorem value_bind (first : Logged ε α) (next : α → Logged ε β) :
    (first >>= next).value = (next first.value).value := rfl

@[simp]
theorem log_bind (first : Logged ε α) (next : α → Logged ε β) :
    (first >>= next).log = first.log ++ (next first.value).log := rfl

def mapItems (f : α → Logged ε β) : List α → Logged ε (List β)
  | [] => pure []
  | item :: rest => do
      let value ← f item
      let values ← mapItems f rest
      pure (value :: values)

def mapOption (f : α → Logged ε β) : Option α → Logged ε (Option β)
  | none => pure none
  | some item => do
      let value ← f item
      pure (some value)

@[simp]
theorem value_mapItems (f : α → Logged ε β) (items : List α) :
    (mapItems f items).value = items.map fun item => (f item).value := by
  induction items with
  | nil => rfl
  | cons item rest inductionHypothesis => simp [mapItems, inductionHypothesis]

@[simp]
theorem log_mapItems (f : α → Logged ε β) (items : List α) :
    (mapItems f items).log = items.flatMap fun item => (f item).log := by
  induction items with
  | nil => rfl
  | cons item rest inductionHypothesis => simp [mapItems, inductionHypothesis]

theorem mapItems_map {γ : Type} (f : α → Logged ε β) (g : γ → α) (items : List γ) :
    mapItems f (items.map g) = mapItems (fun item => f (g item)) items := by
  induction items with
  | nil => rfl
  | cons item rest inductionHypothesis => simp [mapItems, inductionHypothesis]

theorem mapOption_map {γ : Type} (f : α → Logged ε β) (g : γ → α) (item : Option γ) :
    mapOption f (item.map g) = mapOption (fun item => f (g item)) item := by
  cases item <;> rfl

@[simp]
theorem value_mapOption (f : α → Logged ε β) (item : Option α) :
    (mapOption f item).value = item.map fun item => (f item).value := by
  cases item <;> rfl

@[simp]
theorem log_mapOption (f : α → Logged ε β) (item : Option α) :
    (mapOption f item).log = (item.map fun item => (f item).log).getD [] := by
  cases item <;> simp [mapOption]

end Logged

end ChartParams
