import ChartParams.Proofs.CommandLine.Stages

/-!
# Failures

With what the steps of the command line may fail. `FailsOnly` bounds the failures of a result, and
the bound is kept when results are put in a row. So what a user typed is refused because it is no
document, or because it has no value of its kind, and an override because it has no equals sign, or
because of its path.
-/

namespace ChartParams

/-- If a result is a failure, it is one of those that are allowed. -/
def FailsOnly {ε α : Type} (allowed : ε → Prop) (result : Except ε α) : Prop :=
  ∀ error, result = .error error → allowed error

namespace FailsOnly

variable {ε ε' α β : Type} {allowed : ε → Prop}

theorem ok (value : α) : FailsOnly allowed (.ok value : Except ε α) := nofun

theorem error {failure : ε} (isAllowed : allowed failure) :
    FailsOnly allowed (.error failure : Except ε α) := by
  rintro _ ⟨⟩
  exact isAllowed

theorem bind {first : Except ε α} {next : α → Except ε β} (firstFails : FailsOnly allowed first)
    (nextFails : ∀ value, FailsOnly allowed (next value)) :
    FailsOnly allowed (first.bind next) := by
  cases first with
  | error failure => exact error (firstFails failure rfl)
  | ok value => exact nextFails value

theorem map {result : Except ε α} (f : α → β) (fails : FailsOnly allowed result) :
    FailsOnly allowed (result.map f) := by
  cases result with
  | error failure => exact error (fails failure rfl)
  | ok value => exact ok _

theorem mapError {f : ε' → ε} {result : Except ε' α}
    (fails : FailsOnly (fun failure => allowed (f failure)) result) :
    FailsOnly allowed (result.mapError f) := by
  cases result with
  | error failure => exact error (fails failure rfl)
  | ok value => exact ok _

theorem mapM {f : α → Except ε β} (items : List α) (fails : ∀ item, FailsOnly allowed (f item)) :
    FailsOnly allowed (items.mapM f) := by
  induction items with
  | nil => exact ok _
  | cons item rest inductionHypothesis =>
      rw [List.mapM_cons]
      exact (fails item).bind fun _ => inductionHypothesis.bind fun _ => ok _

theorem foldlM {step : α → β → Except ε α} (start : α) (items : List β)
    (fails : ∀ value item, FailsOnly allowed (step value item)) :
    FailsOnly allowed (items.foldlM step start) := by
  induction items generalizing start with
  | nil => exact ok _
  | cons item rest inductionHypothesis =>
      rw [List.foldlM_cons]
      exact (fails start item).bind inductionHypothesis

theorem exists_bind_iff {excluded : ε → Prop} {first : Except ε α} {next : α → Except ε β}
    (fails : FailsOnly (¬excluded ·) first) :
    (∃ failure, first.bind next = .error failure ∧ excluded failure) ↔
      ∃ value, first = .ok value ∧ ∃ failure, next value = .error failure ∧ excluded failure := by
  cases first with
  | error failure =>
      refine iff_of_false ?_ nofun
      rintro ⟨_, ⟨⟩, isExcluded⟩
      exact fails failure rfl isExcluded
  | ok value => simp only [Except.bind, Except.ok.injEq, exists_eq_left']

end FailsOnly

inductive Error.IsSyntax : Error → Prop
  | json : IsSyntax .jsonSyntax
  | yaml : IsSyntax .yamlSyntax

inductive Error.IsParameter : Error → Prop
  | parameter (name : String) (kind : Kind) (fault : PayloadFault) :
      IsParameter (.parameter name kind fault)

theorem Json.parse_failsOnly (text : String) : FailsOnly Error.IsSyntax (Json.parse text) := by
  unfold Json.parse
  split
  · exact .ok _
  · exact .error .json

theorem Yaml.parse_failsOnly (text : String) : FailsOnly Error.IsSyntax (Yaml.parse text) := by
  unfold Yaml.parse
  split
  · exact .ok _
  · exact .error .yaml

theorem Payload.raw_failsOnly (value : Payload) : FailsOnly Error.IsParameter value.raw := by
  refine FailsOnly.map _ ?_
  cases value with
  | float x =>
      rw [toJson, Writing.float]
      split
      · exact .ok _
      · exact .error (.parameter ..)
  | null => exact .ok _
  | string text => exact .ok _
  | int n => exact .ok _
  | flag b => exact .ok _
  | structured doc => exact .ok _

/-- Making a payload of what a user typed fails as the text is no document, or as it has no value of
the kind. -/
theorem Kind.encodeInput_failsOnly (kind : Kind) (input : String) :
    FailsOnly (fun error => error.IsSyntax ∨ error.IsParameter) (kind.encodeInput input) := by
  have made (value : Payload) :
      FailsOnly (fun error => error.IsSyntax ∨ error.IsParameter) value.raw :=
    fun error fails => .inr (value.raw_failsOnly error fails)
  have parsed : FailsOnly (fun error => error.IsSyntax ∨ error.IsParameter) (Json.parse input) :=
    fun error fails => .inl (Json.parse_failsOnly input error fails)
  cases kind with
  | string | text | unknown => exact made _
  | int | float | boolean =>
      rw [encodeInput]
      split
      · exact made _
      · exact .error (.inr (.parameter ..))
  | json | keyValue => exact parsed.map _
  | yaml =>
      have parsed (error : Error) (fails : Yaml.parse input = .error error) :
          error.IsSyntax ∨ error.IsParameter := .inl (Yaml.parse_failsOnly input error fails)
      exact FailsOnly.bind parsed fun doc => made _

theorem Overrides.parse_failsOnly (overrides : List String) :
    FailsOnly (fun error => (∃ argument, error = .override argument) ∨
      ∃ path fault, error = .path path fault) (Overrides.parse overrides) := by
  refine FailsOnly.foldlM _ _ fun doc argument => ?_
  rw [apply]
  split
  · exact .error (.inl ⟨argument, rfl⟩)
  · exact FailsOnly.mapError fun fault _ => .inr ⟨_, fault, rfl⟩

namespace CommandLine

theorem sentence_failsOnly (isStrict : Bool) (errors warnings : Nat) :
    FailsOnly (· = .issues errors warnings) (sentence isStrict errors warnings) := by
  rw [sentence]
  split
  · exact .error rfl
  · exact .ok _

theorem encodeInput_failsOnly (parameter : Params.Parameter) :
    FailsOnly (fun failure => ∃ error, failure = .input error ∧
      (error.IsSyntax ∨ error.IsParameter)) (encodeInput parameter) := by
  rw [encodeInput]
  split
  · exact .ok _
  · split
    · exact .ok _
    · refine FailsOnly.mapError (FailsOnly.bind (FailsOnly.mapError ?_) fun _ => .ok _)
      intro error fails
      refine ⟨_, rfl, (Kind.encodeInput_failsOnly _ _ error fails).imp ?_ ?_⟩
      · rintro (_ | _)
        · exact .json
        · exact .yaml
      · rintro ⟨_, kind, fault⟩
        exact .parameter _ kind fault

theorem encodeParamsInput_failsOnly (params : Params) :
    FailsOnly (fun failure => ∃ error, failure = .input error ∧
      (error.IsSyntax ∨ error.IsParameter)) (encodeParamsInput params) := by
  have inRole (role : Params.Role) : FailsOnly (fun failure => ∃ error, failure = .input error ∧
      (error.IsSyntax ∨ error.IsParameter)) (encodeRoleInput role) := by
    rw [encodeRoleInput]
    split
    · exact .ok _
    · exact (FailsOnly.mapM _ encodeInput_failsOnly).bind fun _ => .ok _
  exact (FailsOnly.mapM _ encodeInput_failsOnly).bind fun _ =>
    (FailsOnly.mapM _ inRole).bind fun _ => .ok _

end CommandLine

end ChartParams
