import ChartParams.CommandLine.Commands

/-!
# Stages of commands

A command works through a list of stages, one after the other, and each of them may fail. A run of
the command fails as the first stage does that fails, and succeeds if there is none: what is printed
on the way decides nothing.
-/

namespace ChartParams

theorem foldlM_eq_error_iff {ε σ β : Type} {step : σ → β → Except ε σ} {items : List β}
    {start : σ} {error : ε} :
    items.foldlM step start = .error error ↔
      ∃ before item after reached, items = before ++ item :: after ∧
        before.foldlM step start = .ok reached ∧ step reached item = .error error := by
  constructor
  · intro failure
    induction items generalizing start with
    | nil => cases failure
    | cons item rest inductionHypothesis =>
        rw [List.foldlM_cons] at failure
        cases first : step start item with
        | error found =>
            rw [first] at failure
            cases failure
            exact ⟨[], item, rest, start, rfl, rfl, first⟩
        | ok next =>
            rw [first] at failure
            obtain ⟨before, failing, after, reached, rfl, walked, fails⟩ :=
              inductionHypothesis failure
            refine ⟨item :: before, failing, after, reached, rfl, ?_, fails⟩
            rw [List.foldlM_cons, first]
            exact walked
  · rintro ⟨before, item, after, reached, rfl, walked, fails⟩
    rw [List.foldlM_append, walked]
    change (item :: after).foldlM step reached = _
    rw [List.foldlM_cons, fails]
    rfl

theorem mapError_bind {ε ε' α β : Type} {first : Except ε α} {next : α → Except ε β}
    {f : ε → ε'} :
    (first.bind next).mapError f =
      (first.mapError f).bind fun value => (next value).mapError f := by
  cases first <;> rfl

/-- Two results agree: they are the same failure, or values that are related. -/
inductive Agree {ε α β : Type} (related : α → β → Prop) : Except ε α → Except ε β → Prop
  | ok {a : α} {b : β} : related a b → Agree related (.ok a) (.ok b)
  | error (error : ε) : Agree related (.error error) (.error error)

namespace Agree

variable {ε α β γ δ : Type} {related : α → β → Prop} {relatedNext : γ → δ → Prop}

theorem bind {first : Except ε α} {second : Except ε β} {next : α → Except ε γ}
    {secondNext : β → Except ε δ} (agree : Agree related first second)
    (agreeNext : ∀ a b, related a b → Agree relatedNext (next a) (secondNext b)) :
    Agree relatedNext (first.bind next) (second.bind secondNext) := by
  cases agree with
  | ok isRelated => exact agreeNext _ _ isRelated
  | error error => exact .error error

/-- What follows a success and cannot fail decides nothing. -/
theorem bind_ok {first : Except ε α} {second : Except ε β} {last : β → γ}
    (agree : Agree related first second) :
    Agree (fun _ _ => True) first (second.bind fun value => .ok (last value)) := by
  cases agree with
  | ok => exact .ok trivial
  | error error => exact .error error

theorem eq_error_iff {first : Except ε α} {second : Except ε β} {error : ε}
    (agree : Agree related first second) : first = .error error ↔ second = .error error := by
  cases agree with
  | ok => exact iff_of_false nofun nofun
  | error found => simp only [Except.error.injEq]

end Agree

namespace CommandLine

/-- A part of what a command does, which succeeds or fails as a whole. -/
inductive Stage
  /-- Read the text of a file. -/
  | read (role : FileRole) (path : String)
  /-- Read the document that the text spells. -/
  | parse (role : FileRole) (isJson : Bool)
  /-- Take the document for a schema. -/
  | decodeSchema
  /-- Take the document for a parameter list. -/
  | decodeParams
  /-- Take the document for the values. -/
  | adopt
  /-- Merge the document into the values. -/
  | merge (deleteNull : Bool)
  /-- Read the document that overrides describe. -/
  | parseOverrides (overrides : List String)
  /-- Turn the texts that a user typed into payloads. -/
  | encode
  /-- Build the values from the parameter list. -/
  | build
  /-- Pass the sentence on the schema, and on the values if there are any. -/
  | judge (hasValues isStrict : Bool)

/-- What is there between two stages. -/
structure Progress where
  /-- The text that was read last. -/
  text : String
  /-- The document that was read last. -/
  found : Json
  schema : Schema
  params : Params
  values : Json

def Progress.start : Progress where
  text := ""
  found := .null
  schema := ⟨"", [], [], [], [], [], []⟩
  params := ⟨[], [], []⟩
  values := .obj []

/-- What it means for a command that the text of a file spells no document. -/
def FileRole.syntaxFailure : FileRole → Error → Failure
  | schema => .schema
  | values => .values
  | params => .paramsSyntax

def sentence (isStrict : Bool) (errors warnings : Nat) : Except Failure Unit :=
  if 0 < errors ∨ (isStrict ∧ 0 < warnings) then .error (.issues errors warnings) else .ok ()

/-- Work through a stage. -/
def Stage.perform (files : Files) (progress : Progress) : Stage → Except Failure Progress
  | read role path => do
      let text ← files.read role path
      .ok { progress with text := text }
  | parse role isJson => do
      let doc ← (if isJson then Json.parse progress.text else Yaml.parse progress.text).mapError
        role.syntaxFailure
      .ok { progress with found := doc }
  | decodeSchema => do
      let schema ← (Schema.ofJson progress.found).mapError .schema
      .ok { progress with schema := schema }
  | decodeParams => do
      let params ← (Params.ofJson progress.found).mapError .paramsFormat
      .ok { progress with params := params }
  | adopt => .ok { progress with values := progress.found }
  | merge deleteNull => do
      let merged ← Files.mergeValues deleteNull progress.values progress.found
      .ok { progress with values := merged }
  | parseOverrides overrides => do
      let doc ← (Overrides.parse overrides).mapError .values
      .ok { progress with found := doc }
  | encode => do
      let params ← encodeParamsInput progress.params
      .ok { progress with params := params }
  | build => do
      let doc ← (progress.params.construct progress.schema).result.mapError .construction
      .ok { progress with values := doc }
  | judge hasValues isStrict => do
      let report := progress.schema.lint
      let warnings := if hasValues then (report.checkValues progress.values).length else 0
      sentence isStrict report.issues.length warnings
      .ok progress

namespace Stage

def schemaStages (path : String) : List Stage :=
  [read .schema path, parse .schema (Files.isNamedJson path), decodeSchema]

def overlayStages (deleteNull : Bool) (paths : List String) : List Stage :=
  paths.flatMap fun path => [read .values path, parse .values false, merge deleteNull]

def overrideStages (deleteNull : Bool) (overrides : List String) : List Stage :=
  if overrides.isEmpty then [] else [parseOverrides overrides, merge deleteNull]

end Stage

open Stage in
/-- The stages of a command, in their order. -/
def Command.stages : Command → List Stage
  | extract schema values overrides =>
      schemaStages schema ++ (overlayStages false values ++ overrideStages false overrides)
  | construct schema params fromInput _ =>
      schemaStages schema ++ ([read .params params, parse .params false, decodeParams] ++
        ((if fromInput then [encode] else []) ++ [build]))
  | defaults schema values _ => schemaStages schema ++ overlayStages false values
  | lint schema values isStrict =>
      schemaStages schema ++ (overlayStages false values ++ [judge (!values.isEmpty) isStrict])
  | merge base overlays overrides deleteNull _ =>
      [read .values base, parse .values false, adopt] ++
        (overlayStages deleteNull overlays ++ overrideStages deleteNull overrides)

/-- A stage is the first one of a command that fails. -/
def Command.FailsAt (files : Files) (command : Command) (stage : Stage) (failure : Failure) :
    Prop :=
  ∃ before after progress, command.stages = before ++ stage :: after ∧
    before.foldlM (Stage.perform files) .start = .ok progress ∧
      stage.perform files progress = .error failure

namespace Stage

variable {files : Files} {progress : Progress}

theorem agree_append {β δ : Type} {related : Progress → β → Prop}
    {relatedNext : Progress → δ → Prop} {first rest : List Stage} {result : Except Failure β}
    {next : β → Except Failure δ}
    (agree : Agree related (first.foldlM (perform files) progress) result)
    (agreeNext : ∀ reached value, related reached value →
      Agree relatedNext (rest.foldlM (perform files) reached) (next value)) :
    Agree relatedNext ((first ++ rest).foldlM (perform files) progress) (result.bind next) := by
  rw [List.foldlM_append]
  exact agree.bind agreeNext

/-- A stage agrees with the step that it performs, and what follows is to agree at what both have
reached. -/
theorem agree_cons {β δ : Type} {relatedNext : Progress → δ → Prop} {stage : Stage}
    {rest : List Stage} {result : Except Failure β} {reached : β → Progress}
    {next : β → Except Failure δ}
    (performs : stage.perform files progress = result.bind fun value => .ok (reached value))
    (agreeNext : ∀ value,
      Agree relatedNext (rest.foldlM (perform files) (reached value)) (next value)) :
    Agree relatedNext ((stage :: rest).foldlM (perform files) progress) (result.bind next) := by
  rw [List.foldlM_cons, performs]
  cases result with
  | error failure => exact .error _
  | ok value => exact agreeNext value

theorem agree_last {β : Type} {related : Progress → β → Prop} {stage : Stage}
    {result : Except Failure β} {reached : β → Progress}
    (performs : stage.perform files progress = result.bind fun value => .ok (reached value))
    (isRelated : ∀ value, related (reached value) value) :
    Agree related ([stage].foldlM (perform files) progress) result := by
  rw [← bind_pure result]
  exact agree_cons performs fun value => .ok (isRelated value)

theorem agree_schema (files : Files) (progress : Progress) (path : String) :
    Agree (fun reached schema => reached.schema = schema ∧ reached.values = progress.values)
      ((schemaStages path).foldlM (perform files) progress) (files.schema path) := by
  refine agree_cons rfl fun text => ?_
  have loads : (if Files.isNamedJson path then Schema.ofJsonText text
        else Schema.ofYamlText text).mapError .schema =
      ((if Files.isNamedJson path then Json.parse text else Yaml.parse text).mapError .schema).bind
        fun doc => (Schema.ofJson doc).mapError Failure.schema := by
    rw [← mapError_bind]
    split <;> rfl
  rw [loads]
  exact agree_cons rfl fun doc => agree_last rfl fun schema => ⟨rfl, rfl⟩

theorem agree_document (files : Files) (progress : Progress) (path : String) :
    Agree (fun reached doc => reached.found = doc ∧ reached.schema = progress.schema ∧
        reached.values = progress.values)
      ([read .values path, parse .values false].foldlM (perform files) progress)
      (files.document path) :=
  agree_cons rfl fun _ => agree_last rfl fun _ => ⟨rfl, rfl, rfl⟩

theorem agree_base (files : Files) (progress : Progress) (path : String) :
    Agree (fun reached doc => reached.values = doc)
      ([read .values path, parse .values false, adopt].foldlM (perform files) progress)
      (files.document path) := by
  rw [← bind_pure (files.document path)]
  refine agree_append (agree_document files progress path) ?_
  rintro reached doc ⟨rfl, -⟩
  exact .ok rfl

theorem agree_params (files : Files) (progress : Progress) (path : String) :
    Agree (fun reached params => reached.params = params ∧ reached.schema = progress.schema)
      ([read .params path, parse .params false, decodeParams].foldlM (perform files) progress)
      (files.params path) :=
  agree_cons rfl fun _ => agree_cons rfl fun _ => agree_last rfl fun _ => ⟨rfl, rfl⟩

theorem agree_merge (files : Files) (progress : Progress) (deleteNull : Bool) :
    Agree (fun reached doc => reached.schema = progress.schema ∧ reached.values = doc)
      ([merge deleteNull].foldlM (perform files) progress)
      (Files.mergeValues deleteNull progress.values progress.found) :=
  agree_last rfl fun _ => ⟨rfl, rfl⟩

theorem agree_overlays (files : Files) (deleteNull : Bool) (paths : List String)
    (progress : Progress) :
    Agree (fun reached doc => reached.schema = progress.schema ∧ reached.values = doc)
      ((overlayStages deleteNull paths).foldlM (perform files) progress)
      (paths.foldlM (fun doc path => do
        let overlay ← files.document path
        Files.mergeValues deleteNull doc overlay) progress.values) := by
  induction paths generalizing progress with
  | nil => exact .ok ⟨rfl, rfl⟩
  | cons path paths inductionHypothesis =>
      have oneFile : Agree (fun reached doc => reached.schema = progress.schema ∧
          reached.values = doc)
          ([read .values path, parse .values false, merge deleteNull].foldlM (perform files)
            progress)
          (do
            let overlay ← files.document path
            Files.mergeValues deleteNull progress.values overlay) := by
        refine agree_append (agree_document files progress path) ?_
        rintro reached doc ⟨rfl, sameSchema, sameValues⟩
        rw [← sameSchema, ← sameValues]
        exact agree_merge files reached deleteNull
      rw [overlayStages, List.flatMap_cons, List.foldlM_cons]
      refine agree_append oneFile ?_
      rintro reached doc ⟨sameSchema, rfl⟩
      rw [← sameSchema]
      exact inductionHypothesis reached

theorem agree_overrides (files : Files) (deleteNull : Bool) (overrides : List String)
    (progress : Progress) :
    Agree (fun reached doc => reached.schema = progress.schema ∧ reached.values = doc)
      ((overrideStages deleteNull overrides).foldlM (perform files) progress)
      (Files.override deleteNull overrides progress.values) := by
  rw [overrideStages, Files.override]
  split
  · exact .ok ⟨rfl, rfl⟩
  · exact agree_cons rfl fun doc => agree_merge files { progress with found := doc } deleteNull

theorem agree_values (files : Files) (paths overrides : List String) {progress : Progress}
    (noValues : progress.values = .obj []) :
    Agree (fun reached doc => reached.schema = progress.schema ∧ reached.values = doc)
      ((overlayStages false paths ++ overrideStages false overrides).foldlM (perform files)
        progress)
      (files.values paths overrides) := by
  have overlays := agree_overlays files false paths progress
  rw [noValues] at overlays
  refine agree_append overlays ?_
  rintro reached doc ⟨sameSchema, rfl⟩
  rw [← sameSchema]
  exact agree_overrides files false overrides reached

theorem agree_encode (files : Files) (progress : Progress) (fromInput : Bool) :
    Agree (fun reached params => reached.params = params ∧ reached.schema = progress.schema)
      ((if fromInput then [encode] else []).foldlM (perform files) progress)
      (if fromInput then encodeParamsInput progress.params else .ok progress.params) := by
  cases fromInput with
  | false => exact .ok ⟨rfl, rfl⟩
  | true => exact agree_last rfl fun _ => ⟨rfl, rfl⟩

theorem agree_build (files : Files) (progress : Progress) :
    Agree (fun reached doc => reached.values = doc)
      ([build].foldlM (perform files) progress)
      ((progress.params.construct progress.schema).result.mapError .construction) :=
  agree_last rfl fun _ => rfl

theorem agree_judge (files : Files) (progress : Progress) (hasValues isStrict : Bool) :
    Agree (fun _ _ => True)
      ([judge hasValues isStrict].foldlM (perform files) progress)
      (sentence isStrict progress.schema.lint.issues.length
        (if hasValues then (progress.schema.lint.checkValues progress.values).length else 0)) :=
  agree_last rfl fun _ => trivial

end Stage

namespace Session

theorem result_forM {α : Type} {print : α → Session Unit} {items : List α}
    (prints : ∀ item, (print item).result = .ok ()) : (items.forM print).result = .ok () := by
  induction items with
  | nil => rfl
  | cons item rest inductionHypothesis =>
      change (print item >>= fun _ => rest.forM print).result = .ok ()
      rw [Attempt.result_bind, prints]
      exact inductionHypothesis

theorem result_print_bind {α : Type} (text : String) (next : Unit → Session α) :
    (print text >>= next).result = (next ()).result := rfl

theorem result_checkValues (files : Files) (report : Lint.Report) (paths : List String) :
    (checkValues files report paths).result =
      (files.values paths []).map fun doc => (report.checkValues doc).length := by
  rw [checkValues, result_print_bind, result_print_bind, Attempt.result_bind, Attempt.result_lift]
  cases files.values paths [] with
  | error failure => rfl
  | ok doc =>
      dsimp only [Except.bind, Except.map]
      split
      · rfl
      · rw [Attempt.result_bind, result_forM fun _ => rfl]
        rfl

theorem result_extract (files : Files) (path : String) (paths overrides : List String) :
    (CommandLine.extract files path paths overrides).result =
      (files.schema path).bind fun _ => (files.values paths overrides).bind fun _ => .ok () := by
  simp only [CommandLine.extract, Attempt.result_bind, Attempt.result_lift]
  rfl

theorem result_construct (files : Files) (schemaPath paramsPath : String)
    (fromInput asJson : Bool) :
    (CommandLine.construct files schemaPath paramsPath fromInput asJson).result =
      (files.schema schemaPath).bind fun schema => (files.params paramsPath).bind fun params =>
        (if fromInput then encodeParamsInput params else .ok params).bind fun params =>
          ((params.construct schema).result.mapError .construction).bind fun _ => .ok () := by
  cases fromInput <;>
    simp only [CommandLine.construct, Bool.false_eq_true, if_false, if_true, Attempt.result_bind,
      Attempt.result_lift] <;>
    rfl

theorem result_defaults (files : Files) (path : String) (paths : List String) (asJson : Bool) :
    (CommandLine.defaults files path paths asJson).result =
      (files.schema path).bind fun _ => (files.values paths []).bind fun _ => .ok () := by
  simp only [CommandLine.defaults, Attempt.result_bind, Attempt.result_lift]
  rfl

theorem result_lint (files : Files) (path : String) (paths : List String) (isStrict : Bool) :
    (CommandLine.lint files path paths isStrict).result =
      (files.schema path).bind fun schema => (files.values paths []).bind fun doc =>
        sentence isStrict schema.lint.issues.length
          (if !paths.isEmpty then (schema.lint.checkValues doc).length else 0) := by
  rw [CommandLine.lint, result_print_bind, Attempt.result_bind, Attempt.result_lift]
  congr 1
  funext schema
  have printed (text : String) : (print text).result = .ok () := rfl
  have allPrinted : (schema.lint.issues.forM fun issue => print ("  ✗ " ++ issue.text)).result =
      .ok () := result_forM fun _ => rfl
  have failed (failure : Failure) : (Attempt.fail failure : Session Unit).result =
      .error failure := rfl
  simp only [apply_ite Attempt.result, Attempt.result_bind, printed, allPrinted, failed,
    result_checkValues, Attempt.result_pure, Except.bind, ite_self]
  cases paths with
  | nil => rfl
  | cons path paths => cases files.values (path :: paths) [] <;> rfl

theorem result_merge (files : Files) (base : String) (overlays overrides : List String)
    (deleteNull asJson : Bool) :
    (CommandLine.merge files base overlays overrides deleteNull asJson).result =
      (files.document base).bind fun doc =>
        (overlays.foldlM (fun doc path => do
          let overlay ← files.document path
          Files.mergeValues deleteNull doc overlay) doc).bind fun doc =>
            (Files.override deleteNull overrides doc).bind fun _ => .ok () := by
  have noted (merged : Except Failure Json) (path : String) :
      (merged.bind fun doc => (note ("→ Merged " ++ path)).result.bind fun _ =>
        (pure doc : Session Json).result) = merged := by
    cases merged <;> rfl
  simp only [CommandLine.merge, Attempt.result_bind, Attempt.result_foldlM, Attempt.result_lift,
    noted]
  rfl

end Session

/-- The stages of a command fail as a run of the command does. -/
theorem Command.agree_run (files : Files) (command : Command) :
    Agree (fun _ _ => True) (command.stages.foldlM (Stage.perform files) .start)
      (command.run files).result := by
  cases command with
  | extract schema values overrides =>
      rw [Command.run, Session.result_extract]
      refine Stage.agree_append (Stage.agree_schema files .start schema) ?_
      rintro reached found ⟨rfl, noValues⟩
      exact (Stage.agree_values files values overrides noValues).bind_ok
  | construct schema params fromInput asJson =>
      rw [Command.run, Session.result_construct]
      refine Stage.agree_append (Stage.agree_schema files .start schema) ?_
      rintro reached found ⟨rfl, -⟩
      refine Stage.agree_append (Stage.agree_params files reached params) ?_
      rintro loaded found ⟨rfl, sameSchema⟩
      refine Stage.agree_append (Stage.agree_encode files loaded fromInput) ?_
      rintro encoded found ⟨rfl, keptSchema⟩
      rw [← sameSchema, ← keptSchema]
      exact (Stage.agree_build files encoded).bind_ok
  | defaults schema values asJson =>
      rw [Command.run, Session.result_defaults]
      refine Stage.agree_append (Stage.agree_schema files .start schema) ?_
      rintro reached found ⟨rfl, noValues⟩
      rw [← List.append_nil (Stage.overlayStages false values)]
      exact (Stage.agree_values files values [] noValues).bind_ok
  | lint schema values isStrict =>
      rw [Command.run, Session.result_lint]
      refine Stage.agree_append (Stage.agree_schema files .start schema) ?_
      rintro reached found ⟨rfl, noValues⟩
      have loaded := Stage.agree_values files values [] noValues
      rw [Stage.overrideStages, if_pos List.isEmpty_nil, List.append_nil] at loaded
      refine Stage.agree_append loaded ?_
      rintro judged doc ⟨sameSchema, rfl⟩
      rw [← sameSchema]
      exact Stage.agree_judge files judged (!values.isEmpty) isStrict
  | merge base overlays overrides deleteNull asJson =>
      rw [Command.run, Session.result_merge]
      refine Stage.agree_append (Stage.agree_base files .start base) ?_
      rintro reached doc rfl
      refine Stage.agree_append (Stage.agree_overlays files deleteNull overlays reached) ?_
      rintro merged doc ⟨-, rfl⟩
      exact (Stage.agree_overrides files deleteNull overrides merged).bind_ok

/-- A run fails as the first stage does that fails. -/
theorem Command.result_run_eq_error_iff {files : Files} {command : Command} {failure : Failure} :
    (command.run files).result = .error failure ↔ ∃ stage, command.FailsAt files stage failure := by
  rw [← (command.agree_run files).eq_error_iff, foldlM_eq_error_iff]
  constructor
  · rintro ⟨before, stage, after, progress, isSplit, reached, fails⟩
    exact ⟨stage, before, after, progress, isSplit, reached, fails⟩
  · rintro ⟨stage, before, after, progress, isSplit, reached, fails⟩
    exact ⟨before, stage, after, progress, isSplit, reached, fails⟩

end CommandLine

end ChartParams
