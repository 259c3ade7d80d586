import ChartParams.Attempt
import ChartParams.CommandLine.Arguments
import ChartParams.CommandLine.Files
import ChartParams.Lint
import ChartParams.Params.Construction
import ChartParams.Schema.Defaults
import ChartParams.Schema.Extraction
import ChartParams.Yaml.Printer

/-!
# Commands

What each command prints and whether it succeeds, given the files that it reads. Lines that were
printed before a failure stay.
-/

namespace ChartParams.CommandLine

/-- A line that a command prints: a result, or a note about its progress. -/
inductive Line
  | output (text : String)
  | note (text : String)

/-- A command at work. -/
abbrev Session := Attempt Failure Line

namespace Session

def print (text : String) : Session Unit := .report (.output text)

def note (text : String) : Session Unit := .report (.note text)

/-- Print a document, without the blanks at the end of its text. -/
def printDocument (doc : Json) (asJson : Bool) : Session Unit :=
  print (trimEnd (if asJson then doc.pretty else Yaml.text doc))

end Session

/-- Turn the text that a user typed as a value into a payload. -/
def encodeInput (parameter : Params.Parameter) : Except Failure Params.Parameter :=
  match parameter.kind with
  | none => .ok parameter
  | some kind =>
      if parameter.payload.isEmpty then
        .ok parameter
      else
        (Params.Parameter.ofInput parameter.name kind parameter.payload).mapError .input

def encodeRoleInput (role : Params.Role) : Except Failure Params.Role :=
  match role.base with
  | none => .ok role
  | some base => do
      let others ← base.others.mapM encodeInput
      .ok { role with base := some { base with others := others } }

def encodeParamsInput (params : Params) : Except Failure Params := do
  let parameters ← params.params.mapM encodeInput
  let roles ← params.roles.mapM encodeRoleInput
  .ok { params with params := parameters, roles := roles }

def extract (files : Files) (schema : String) (values overrides : List String) : Session Unit := do
  let schema ← .lift (files.schema schema)
  let doc ← .lift (files.values values overrides)
  .printDocument (schema.extract doc).value.toJson true

def construct (files : Files) (schema params : String) (fromInput asJson : Bool) :
    Session Unit := do
  let schema ← .lift (files.schema schema)
  let params ← .lift (files.params params)
  let params ← if fromInput then .lift (encodeParamsInput params) else pure params
  let doc ← .lift ((params.construct schema).result.mapError .construction)
  .note ("✓ Built values from " ++ toString params.params.length ++ " param(s) and " ++
    toString params.roles.length ++ " role(s)")
  .printDocument doc asJson

def defaults (files : Files) (schema : String) (values : List String) (asJson : Bool) :
    Session Unit := do
  let schema ← .lift (files.schema schema)
  let doc ← .lift (files.values values [])
  .printDocument (schema.withDefaults doc).value.toJson asJson

/-- Check values and print what is wrong with them. The result is the number of issues. -/
def checkValues (files : Files) (report : Lint.Report) (values : List String) : Session Nat := do
  .print ""
  .print "→ Checking values against meta info..."
  let doc ← .lift (files.values values [])
  let issues := report.checkValues doc
  if issues.isEmpty then
    .print "  ✓ Values match the meta info"
  else
    issues.forM fun issue => .print ("  ⚠ " ++ issue.text)
  pure issues.length

/-- Check a schema, and values against it if there are any. A strict check does not let issues of
values pass. -/
def lint (files : Files) (schema : String) (values : List String) (isStrict : Bool) :
    Session Unit := do
  .print ("→ Linting meta info at " ++ schema)
  let schema ← .lift (files.schema schema)
  let report := schema.lint
  if report.isClean then
    .print ("  ✓ Meta info is valid (" ++ toString report.checks.length ++ " value check(s))")
  else
    report.issues.forM fun issue => .print ("  ✗ " ++ issue.text)
  let errors := report.issues.length
  let warnings ← if values.isEmpty then pure 0 else checkValues files report values
  .print ""
  if 0 < errors ∨ (isStrict ∧ 0 < warnings) then
    .print ("✗ Linting failed with " ++ toString errors ++ " error(s) and " ++ toString warnings ++
      " warning(s)")
    .fail (.issues errors warnings)
  else if 0 < warnings then
    .print ("⚠ Linting passed with " ++ toString warnings ++ " warning(s)")
  else
    .print "✓ Linting passed!"

def merge (files : Files) (base : String) (overlays overrides : List String)
    (deleteNull asJson : Bool) : Session Unit := do
  let doc ← .lift (files.document base)
  let doc ← overlays.foldlM (fun doc path => do
    let overlay ← .lift (files.document path)
    let merged ← .lift (Files.mergeValues deleteNull doc overlay)
    .note ("→ Merged " ++ path)
    pure merged) doc
  let doc ← .lift (Files.override deleteNull overrides doc)
  .printDocument doc asJson

def Command.run (files : Files) : Command → Session Unit
  | extract schema values overrides => CommandLine.extract files schema values overrides
  | construct schema params fromInput asJson =>
      CommandLine.construct files schema params fromInput asJson
  | defaults schema values asJson => CommandLine.defaults files schema values asJson
  | lint schema values isStrict => CommandLine.lint files schema values isStrict
  | merge base overlays overrides deleteNull asJson =>
      CommandLine.merge files base overlays overrides deleteNull asJson

/-- What a run of the program shows. -/
structure Outcome where
  exitCode : Nat
  lines : List Line
  /-- Why it failed, for the user. -/
  complaint : Option String

namespace Outcome

def output (outcome : Outcome) : String :=
  String.join (outcome.lines.map fun
    | .output text => text ++ "\n"
    | .note _ => "")

def notes (outcome : Outcome) : List String :=
  outcome.lines.filterMap fun
    | .output _ => none
    | .note text => some text

def ofSession (session : Session Unit) : Outcome :=
  match session.result with
  | .ok () => ⟨0, session.log, none⟩
  | .error failure => ⟨failure.exitCode, session.log, some failure.message⟩

end Outcome

def version : String := "0.1.0"

def run (files : Files) (arguments : List String) : Outcome :=
  match Command.ofArguments arguments with
  | .ok command => .ofSession (command.run files)
  | .error (.version name) => ⟨0, [.output (name ++ " " ++ version)], none⟩
  | .error .help => ⟨0, [], none⟩
  | .error (.misuse fault) => ⟨2, [], some fault.message⟩

end ChartParams.CommandLine
