import ChartParams.Proofs.CommandLine.Failures

/-!
# Exit codes

What the exit code of a run tells about the stage that failed. A stage fails in few ways only, and
it takes the stage and the way to know the code: texts that are no documents and parameter lists
that cannot be read at all end with the code 1, like everything that has no code of its own.
-/

namespace ChartParams

namespace CommandLine

/-- How each stage may fail, with the code of a command that fails so. -/
inductive Stage.Ends : Stage → Failure → (code : Nat) → Prop
  | read {role : FileRole} (path : String) (notParams : role ≠ .params) :
      Ends (.read role path) (.unreadable role path) 5
  | readParams (path : String) : Ends (.read .params path) (.unreadable .params path) 1
  | parse (role : FileRole) (isJson : Bool) {error : Error} (isSyntax : error.IsSyntax) :
      Ends (.parse role isJson) (role.syntaxFailure error) 1
  | decodeSchema (fault : FormatFault) : Ends .decodeSchema (.schema (.schema fault)) 4
  | decodeParams (fault : FormatFault) : Ends .decodeParams (.paramsFormat fault) 1
  | merge (deleteNull : Bool) : Ends (.merge deleteNull) (.values .mergeTooDeep) 1
  | override (overrides : List String) (argument : String) :
      Ends (.parseOverrides overrides) (.values (.override argument)) 1
  | overridePath (overrides : List String) (path : String) (fault : Path.Fault) :
      Ends (.parseOverrides overrides) (.values (.path path fault)) 3
  | encodeSyntax {error : Error} (isSyntax : error.IsSyntax) : Ends .encode (.input error) 1
  | encodeParameter {error : Error} (isParameter : error.IsParameter) :
      Ends .encode (.input error) 3
  | build (error : Error) : Ends .build (.construction error) 3
  | judge (hasValues isStrict : Bool) (errors warnings : Nat) :
      Ends (.judge hasValues isStrict) (.issues errors warnings) 2

theorem Stage.perform_failsOnly (files : Files) (progress : Progress) (stage : Stage) :
    FailsOnly (fun failure => ∃ code, stage.Ends failure code) (stage.perform files progress) := by
  cases stage with
  | read role path =>
      refine FailsOnly.bind ?_ fun _ => .ok _
      rw [Files.read]
      split
      · exact .ok _
      · cases role with
        | schema | values => exact .error ⟨5, .read path (by decide)⟩
        | params => exact .error ⟨1, .readParams path⟩
  | parse role isJson =>
      refine FailsOnly.bind (FailsOnly.mapError fun error fails => ⟨1, .parse role isJson ?_⟩)
        fun _ => .ok _
      cases isJson with
      | true => exact Json.parse_failsOnly _ error fails
      | false => exact Yaml.parse_failsOnly _ error fails
  | decodeSchema =>
      refine FailsOnly.bind (FailsOnly.mapError (FailsOnly.mapError ?_)) fun _ => .ok _
      exact fun fault _ => ⟨4, .decodeSchema fault⟩
  | decodeParams =>
      exact FailsOnly.bind (FailsOnly.mapError fun fault _ => ⟨1, .decodeParams fault⟩)
        fun _ => .ok _
  | adopt => exact .ok _
  | merge deleteNull =>
      exact FailsOnly.bind (FailsOnly.mapError fun _ _ => ⟨1, .merge deleteNull⟩) fun _ => .ok _
  | parseOverrides overrides =>
      refine FailsOnly.bind (FailsOnly.mapError fun error fails => ?_) fun _ => .ok _
      obtain ⟨argument, rfl⟩ | ⟨path, fault, rfl⟩ := Overrides.parse_failsOnly overrides error fails
      · exact ⟨1, .override overrides argument⟩
      · exact ⟨3, .overridePath overrides path fault⟩
  | encode =>
      refine FailsOnly.bind (fun failure fails => ?_) fun _ => .ok _
      obtain ⟨error, rfl, isSyntax | isParameter⟩ := encodeParamsInput_failsOnly _ failure fails
      · exact ⟨1, .encodeSyntax isSyntax⟩
      · exact ⟨3, .encodeParameter isParameter⟩
  | build =>
      exact FailsOnly.bind (FailsOnly.mapError fun error _ => ⟨3, .build error⟩) fun _ => .ok _
  | judge hasValues isStrict =>
      refine FailsOnly.bind (fun failure fails => ?_) fun _ => .ok _
      cases sentence_failsOnly isStrict _ _ failure fails
      exact ⟨2, .judge hasValues isStrict _ _⟩

theorem Command.FailsAt.exists_ends {files : Files} {command : Command} {stage : Stage}
    {failure : Failure} (fails : command.FailsAt files stage failure) :
    ∃ code, stage.Ends failure code := by
  obtain ⟨before, after, progress, -, -, failed⟩ := fails
  exact stage.perform_failsOnly files progress failure failed

theorem Stage.Ends.exitCode_eq {stage : Stage} {failure : Failure} {code : Nat}
    (ends : stage.Ends failure code) : failure.exitCode = code := by
  cases ends with
  | @read role path notParams =>
      cases role with
      | schema | values => rfl
      | params => exact absurd rfl notParams
  | parse role isJson isSyntax => cases role <;> cases isSyntax <;> rfl
  | encodeSyntax isSyntax => cases isSyntax <;> rfl
  | encodeParameter isParameter =>
      cases isParameter
      rfl
  | readParams | decodeSchema | decodeParams | merge | override | overridePath | build | judge =>
      rfl

namespace Failure

theorem codeOf_ne (error : Error) : codeOf error ≠ 0 ∧ codeOf error ≠ 2 := by
  cases error <;> exact ⟨nofun, nofun⟩

theorem exitCode_ne_zero (failure : Failure) : failure.exitCode ≠ 0 := by
  cases failure with
  | unreadable role path => cases role <;> simp [exitCode]
  | schema error | values error | input error => exact (codeOf_ne error).1
  | paramsSyntax | paramsFormat | construction | issues => nofun

end Failure

/-- Linting objects to the schema, or strictly to the values, and everything else succeeds. -/
def Command.Objects (files : Files) : Command → Prop
  | lint schemaPath paths isStrict => ∃ schema doc,
      files.schema schemaPath = .ok schema ∧ files.values paths [] = .ok doc ∧
        (0 < schema.lint.issues.length ∨
          isStrict ∧ paths ≠ [] ∧ 0 < (schema.lint.checkValues doc).length)
  | _ => False

abbrev FailsElse {α : Type} (result : Except Failure α) : Prop :=
  FailsOnly (·.exitCode ≠ 2) result

theorem Files.read_failsElse (files : Files) (role : FileRole) (path : String) :
    FailsElse (files.read role path) := by
  rw [read]
  split
  · exact .ok _
  · exact .error (by cases role <;> simp [Failure.exitCode])

theorem Files.schema_failsElse (files : Files) (path : String) : FailsElse (files.schema path) :=
  (files.read_failsElse .schema path).bind fun _ =>
    .mapError fun error _ => (Failure.codeOf_ne error).2

theorem Files.mergeValues_failsElse (deleteNull : Bool) (doc overlay : Json) :
    FailsElse (mergeValues deleteNull doc overlay) :=
  .mapError fun _ _ => nofun

theorem Files.document_failsElse (files : Files) (path : String) :
    FailsElse (files.document path) :=
  (files.read_failsElse .values path).bind fun _ =>
    .mapError fun error _ => (Failure.codeOf_ne error).2

theorem Files.override_failsElse (deleteNull : Bool) (overrides : List String) (doc : Json) :
    FailsElse (override deleteNull overrides doc) := by
  rw [override]
  split
  · exact .ok _
  · exact FailsOnly.bind (.mapError fun error _ => (Failure.codeOf_ne error).2) fun overlay =>
      mergeValues_failsElse deleteNull doc overlay

theorem Files.overlays_failsElse (files : Files) (deleteNull : Bool) (paths : List String)
    (doc : Json) : FailsElse (paths.foldlM (fun doc path => do
      let overlay ← files.document path
      mergeValues deleteNull doc overlay) doc) :=
  FailsOnly.foldlM doc paths fun doc path =>
    (files.document_failsElse path).bind fun overlay =>
      mergeValues_failsElse deleteNull doc overlay

theorem Files.values_failsElse (files : Files) (paths overrides : List String) :
    FailsElse (files.values paths overrides) :=
  (files.overlays_failsElse false paths _).bind fun doc => override_failsElse false overrides doc

theorem Files.params_failsElse (files : Files) (path : String) : FailsElse (files.params path) :=
  (files.read_failsElse .params path).bind fun _ =>
    FailsOnly.bind (.mapError fun _ _ => nofun) fun _ => .mapError fun _ _ => nofun

theorem sentence_objects_iff {isStrict : Bool} {errors warnings : Nat} :
    (∃ failure, sentence isStrict errors warnings = .error failure ∧ failure.exitCode = 2) ↔
      0 < errors ∨ (isStrict ∧ 0 < warnings) := by
  rw [sentence]
  split
  · rename_i objects
    exact iff_of_true ⟨_, rfl, rfl⟩ objects
  · rename_i objects
    refine iff_of_false ?_ objects
    rintro ⟨_, ⟨⟩, -⟩

section Runs

variable {files : Files} {arguments : List String} {command : Command}
  (isCommand : Command.ofArguments arguments = .ok command)

include isCommand

theorem exitCode_run_eq_iff {code : Nat} (isFailure : code ≠ 0) :
    (run files arguments).exitCode = code ↔
      ∃ failure, (command.run files).result = .error failure ∧ failure.exitCode = code := by
  rw [run, isCommand]
  dsimp only
  rw [Outcome.ofSession]
  cases (command.run files).result with
  | ok => exact iff_of_false isFailure.symm nofun
  | error failure => simp only [Except.error.injEq, exists_eq_left']

theorem exitCode_run_eq_iff_fails {code : Nat} (isFailure : code ≠ 0) :
    (run files arguments).exitCode = code ↔
      ∃ stage failure, command.FailsAt files stage failure ∧ stage.Ends failure code := by
  rw [exitCode_run_eq_iff isCommand isFailure]
  simp only [Command.result_run_eq_error_iff]
  constructor
  · rintro ⟨failure, ⟨stage, fails⟩, rfl⟩
    obtain ⟨code, ends⟩ := fails.exists_ends
    exact ⟨stage, failure, fails, ends.exitCode_eq ▸ ends⟩
  · rintro ⟨stage, failure, fails, ends⟩
    exact ⟨failure, ⟨stage, fails⟩, ends.exitCode_eq⟩

theorem exitCode_run_eq_two_iff : (run files arguments).exitCode = 2 ↔ command.Objects files := by
  rw [exitCode_run_eq_iff isCommand (by decide)]
  have others (fails : FailsElse (command.run files).result) (isNot : ¬command.Objects files) :
      (∃ failure, (command.run files).result = .error failure ∧ failure.exitCode = 2) ↔
        command.Objects files := by
    refine iff_of_false ?_ isNot
    rintro ⟨failure, failed, isTwo⟩
    exact fails failure failed isTwo
  cases command with
  | extract path paths overrides =>
      refine others ?_ id
      rw [Command.run, Session.result_extract]
      exact (files.schema_failsElse path).bind fun _ =>
        (files.values_failsElse paths overrides).bind fun _ => .ok _
  | construct schemaPath paramsPath fromInput asJson =>
      refine others ?_ id
      rw [Command.run, Session.result_construct]
      refine (files.schema_failsElse schemaPath).bind fun schema =>
        (files.params_failsElse paramsPath).bind fun params => FailsOnly.bind ?_ fun params =>
          FailsOnly.bind (.mapError fun _ _ => show 3 ≠ 2 by decide) fun _ => .ok _
      split
      · intro failure fails
        obtain ⟨error, rfl, -⟩ := encodeParamsInput_failsOnly params failure fails
        exact (Failure.codeOf_ne error).2
      · exact .ok _
  | defaults path paths asJson =>
      refine others ?_ id
      rw [Command.run, Session.result_defaults]
      exact (files.schema_failsElse path).bind fun _ =>
        (files.values_failsElse paths []).bind fun _ => .ok _
  | merge base overlays overrides deleteNull asJson =>
      refine others ?_ id
      rw [Command.run, Session.result_merge]
      exact (files.document_failsElse base).bind fun doc =>
        (files.overlays_failsElse deleteNull overlays doc).bind fun doc =>
          (Files.override_failsElse deleteNull overrides doc).bind fun _ => .ok _
  | lint path paths isStrict =>
      rw [Command.run, Session.result_lint,
        (files.schema_failsElse path).exists_bind_iff]
      simp only [(files.values_failsElse paths []).exists_bind_iff, sentence_objects_iff,
        Command.Objects, exists_and_left]
      cases paths <;> simp

/-- A run that fails at a stage has the only code with which the stage can end. -/
theorem exitCode_run_of_fails {stage : Stage} {failure : Failure} {code : Nat}
    (fails : command.FailsAt files stage failure)
    (isOnly : ∀ other, stage.Ends failure other → other = code) :
    (run files arguments).exitCode = code := by
  obtain ⟨found, ends⟩ := fails.exists_ends
  cases isOnly found ends
  have isFailure := failure.exitCode_ne_zero
  rw [ends.exitCode_eq] at isFailure
  exact (exitCode_run_eq_iff_fails isCommand isFailure).mpr ⟨stage, failure, fails, ends⟩

theorem exitCode_run_eq_zero_iff : (run files arguments).exitCode = 0 ↔
    ∀ stage failure, ¬command.FailsAt files stage failure := by
  constructor
  · intro isZero stage failure fails
    obtain ⟨code, ends⟩ := fails.exists_ends
    have isCode := exitCode_run_of_fails isCommand fails fun other otherEnds =>
      otherEnds.exitCode_eq.symm
    exact failure.exitCode_ne_zero (isCode.symm.trans isZero)
  · refine fun succeeds => Decidable.byContradiction fun isFailure => ?_
    obtain ⟨stage, failure, fails, -⟩ :=
      (exitCode_run_eq_iff_fails isCommand isFailure).mp rfl
    exact succeeds stage failure fails

theorem exitCode_run_eq_five_iff : (run files arguments).exitCode = 5 ↔
    ∃ role path failure, role ≠ .params ∧ command.FailsAt files (.read role path) failure := by
  constructor
  · intro isCode
    obtain ⟨stage, failure, fails, ends⟩ :=
      (exitCode_run_eq_iff_fails isCommand (by decide)).mp isCode
    cases ends with
    | read path notParams => exact ⟨_, path, _, notParams, fails⟩
  · rintro ⟨role, path, failure, notParams, fails⟩
    refine exitCode_run_of_fails isCommand fails fun other ends => ?_
    cases ends with
    | read => rfl
    | readParams => exact absurd rfl notParams

theorem exitCode_run_eq_four_iff : (run files arguments).exitCode = 4 ↔
    ∃ failure, command.FailsAt files .decodeSchema failure := by
  constructor
  · intro isCode
    obtain ⟨stage, failure, fails, ends⟩ :=
      (exitCode_run_eq_iff_fails isCommand (by decide)).mp isCode
    cases ends with
    | decodeSchema fault => exact ⟨_, fails⟩
  · rintro ⟨failure, fails⟩
    refine exitCode_run_of_fails isCommand fails fun other ends => ?_
    cases ends
    rfl

theorem exitCode_run_eq_three_iff : (run files arguments).exitCode = 3 ↔
    (∃ failure, command.FailsAt files .build failure) ∨
    (∃ error, error.IsParameter ∧ command.FailsAt files .encode (.input error)) ∨
    ∃ overrides path fault,
      command.FailsAt files (.parseOverrides overrides) (.values (.path path fault)) := by
  constructor
  · intro isCode
    obtain ⟨stage, failure, fails, ends⟩ :=
      (exitCode_run_eq_iff_fails isCommand (by decide)).mp isCode
    cases ends with
    | build error => exact .inl ⟨_, fails⟩
    | encodeParameter isParameter => exact .inr (.inl ⟨_, isParameter, fails⟩)
    | overridePath overrides path fault => exact .inr (.inr ⟨overrides, path, fault, fails⟩)
  · rintro (⟨failure, fails⟩ | ⟨_, ⟨name, kind, fault⟩, fails⟩ |
      ⟨overrides, path, fault, fails⟩) <;>
      refine exitCode_run_of_fails isCommand fails fun other ends => ?_
    · cases ends
      rfl
    · cases ends with
      | encodeSyntax isSyntax => cases isSyntax
      | encodeParameter => rfl
    · cases ends
      rfl

theorem exitCode_run_eq_one_iff : (run files arguments).exitCode = 1 ↔
    (∃ path failure, command.FailsAt files (.read .params path) failure) ∨
    (∃ role isJson failure, command.FailsAt files (.parse role isJson) failure) ∨
    (∃ failure, command.FailsAt files .decodeParams failure) ∨
    (∃ deleteNull failure, command.FailsAt files (.merge deleteNull) failure) ∨
    (∃ error, error.IsSyntax ∧ command.FailsAt files .encode (.input error)) ∨
    ∃ overrides argument,
      command.FailsAt files (.parseOverrides overrides) (.values (.override argument)) := by
  constructor
  · intro isCode
    obtain ⟨stage, failure, fails, ends⟩ :=
      (exitCode_run_eq_iff_fails isCommand (by decide)).mp isCode
    cases ends with
    | readParams path => exact .inl ⟨path, _, fails⟩
    | parse role isJson isSyntax => exact .inr (.inl ⟨role, isJson, _, fails⟩)
    | decodeParams fault => exact .inr (.inr (.inl ⟨_, fails⟩))
    | merge deleteNull => exact .inr (.inr (.inr (.inl ⟨deleteNull, _, fails⟩)))
    | encodeSyntax isSyntax => exact .inr (.inr (.inr (.inr (.inl ⟨_, isSyntax, fails⟩))))
    | override overrides argument =>
        exact .inr (.inr (.inr (.inr (.inr ⟨overrides, argument, fails⟩))))
  · rintro (⟨path, failure, fails⟩ | ⟨role, isJson, failure, fails⟩ | ⟨failure, fails⟩ |
      ⟨deleteNull, failure, fails⟩ | ⟨error, isSyntax, fails⟩ | ⟨overrides, argument, fails⟩) <;>
      refine exitCode_run_of_fails isCommand fails fun other ends => ?_
    · cases ends with
      | read path notParams => exact absurd rfl notParams
      | readParams => rfl
    · cases ends
      rfl
    · cases ends
      rfl
    · cases ends
      rfl
    · cases ends with
      | encodeSyntax => rfl
      | encodeParameter isParameter =>
          cases isParameter
          cases isSyntax
    · cases ends
      rfl

/-- The exit code of a run tells which stage of its command failed, if any did. Unreadable schemas
and values have the code 5, but an unreadable parameter list has not. A document that is no schema
has the code 4, but a text that is no document has not. Parameters from which nothing can be built
have the code 3, as have overrides that do not fit together, but text that a user typed has not if
it is no document. Linting has the code 2, and all other failures have the code 1. -/
theorem exitCode_run_iff :
    ((run files arguments).exitCode = 0 ↔ ∀ stage failure, ¬command.FailsAt files stage failure) ∧
    ((run files arguments).exitCode = 5 ↔ ∃ role path failure, role ≠ .params ∧
      command.FailsAt files (.read role path) failure) ∧
    ((run files arguments).exitCode = 4 ↔
      ∃ failure, command.FailsAt files .decodeSchema failure) ∧
    ((run files arguments).exitCode = 3 ↔
      (∃ failure, command.FailsAt files .build failure) ∨
      (∃ error, error.IsParameter ∧ command.FailsAt files .encode (.input error)) ∨
      ∃ overrides path fault,
        command.FailsAt files (.parseOverrides overrides) (.values (.path path fault))) ∧
    ((run files arguments).exitCode = 2 ↔ command.Objects files) ∧
    ((run files arguments).exitCode = 1 ↔
      (∃ path failure, command.FailsAt files (.read .params path) failure) ∨
      (∃ role isJson failure, command.FailsAt files (.parse role isJson) failure) ∨
      (∃ failure, command.FailsAt files .decodeParams failure) ∨
      (∃ deleteNull failure, command.FailsAt files (.merge deleteNull) failure) ∨
      (∃ error, error.IsSyntax ∧ command.FailsAt files .encode (.input error)) ∨
      ∃ overrides argument,
        command.FailsAt files (.parseOverrides overrides) (.values (.override argument))) :=
  ⟨exitCode_run_eq_zero_iff isCommand, exitCode_run_eq_five_iff isCommand,
    exitCode_run_eq_four_iff isCommand, exitCode_run_eq_three_iff isCommand,
    exitCode_run_eq_two_iff isCommand, exitCode_run_eq_one_iff isCommand⟩

end Runs

theorem Command.ofArguments_extract :
    ofArguments ["extract", "-m", "m.json"] = .ok (.extract "m.json" [] []) := by
  with_unfolding_all rfl

theorem exitCode_run_iff_unreadable :
    (run (fun _ => none) ["extract", "-m", "m.json"]).exitCode = 5 :=
  (exitCode_run_iff Command.ofArguments_extract).2.1.mpr ⟨.schema, "m.json",
    .unreadable .schema "m.json", by decide, [], _, .start, rfl, rfl, rfl⟩

/-- A schema whose text is no document fails to load, but not with the code for schemas. -/
theorem exitCode_run_of_no_document :
    ∃ files command failure, Command.ofArguments ["extract", "-m", "m.json"] = .ok command ∧
      command.FailsAt files (.parse .schema true) failure ∧
      (run files ["extract", "-m", "m.json"]).exitCode ≠ 4 := by
  have noDocument : Json.parse? "[" = none := by decide +kernel
  have fails : (Command.extract "m.json" [] []).FailsAt (fun _ => some "[") (.parse .schema true)
      (.schema .jsonSyntax) := by
    refine ⟨[.read .schema "m.json"], [.decodeSchema], { Progress.start with text := "[" },
      rfl, rfl, ?_⟩
    rw [Stage.perform, if_pos rfl, Json.parse, noDocument]
    rfl
  have isOne := (exitCode_run_eq_one_iff Command.ofArguments_extract).mpr
    (.inr (.inl ⟨.schema, true, _, fails⟩))
  refine ⟨_, _, _, Command.ofArguments_extract, fails, ?_⟩
  rw [isOne]
  decide

end CommandLine

end ChartParams
