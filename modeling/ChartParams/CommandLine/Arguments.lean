/-!
# Arguments

What the arguments of the program ask for. Options may stand before and after operands; the value of
an option follows it as the next argument, after an equals sign, or directly after its letter. The
arguments are read from the left, and the first one that is wrong, or that asks for the version or
for help, decides.
-/

namespace ChartParams.CommandLine

/-- What the program is told to do. Files are given by their paths. -/
inductive Command
  | extract (schema : String) (values overrides : List String)
  | construct (schema params : String) (fromInput asJson : Bool)
  | defaults (schema : String) (values : List String) (asJson : Bool)
  | lint (schema : String) (values : List String) (isStrict : Bool)
  | merge (base : String) (overlays overrides : List String) (deleteNull asJson : Bool)

def Command.paths : Command → List String
  | extract schema values _ | defaults schema values _ | lint schema values _ => schema :: values
  | construct schema params _ _ => [schema, params]
  | merge base overlays _ _ _ => base :: overlays

inductive Misuse
  | noCommand
  | unknownCommand (name : String)
  | unknownOption (option : String)
  | unexpectedOperand (operand : String)
  | missingValue (option : String)
  | unexpectedValue (option : String)
  | emptyPath (option : String)
  | repeatedOption (option : String)
  | missingArgument (name : String)

namespace Misuse

def message : Misuse → String
  | noCommand => "a command is required"
  | unknownCommand name => "unknown command '" ++ name ++ "'"
  | unknownOption option => "unknown option '" ++ option ++ "'"
  | unexpectedOperand operand => "unexpected argument '" ++ operand ++ "'"
  | missingValue option => "a value is required for '" ++ option ++ "'"
  | unexpectedValue option => "no value is allowed for '" ++ option ++ "'"
  | emptyPath option => "a path is required for '" ++ option ++ "'"
  | repeatedOption option => "'" ++ option ++ "' cannot be given more than once"
  | missingArgument name => "'" ++ name ++ "' is required"

end Misuse

/-- Why reading arguments stops before their end. -/
inductive Stop
  | misuse (fault : Misuse)
  /-- The version is asked for, under the name of the program and the command. -/
  | version (name : String)
  | help

/-- How often an option may be given, and whether it takes a value. -/
inductive Arity
  | flag
  | single
  | repeated
deriving DecidableEq

structure Switch where
  name : String
  letter : Option Char
  arity : Arity
  isPath : Bool

structure Usage where
  name : String
  switches : List Switch
  takesOperands : Bool

namespace Usage

def programName : String := "chartmeta"

/-- Turns on reports for debugging. Every command knows it. -/
def debug : Switch := ⟨"debug", none, .flag, false⟩

def schema : Switch := ⟨"metainfo", some 'm', .single, true⟩
def values : Switch := ⟨"values", some 'f', .repeated, true⟩
def overrides : Switch := ⟨"set", none, .repeated, false⟩
def params : Switch := ⟨"params", some 'p', .single, true⟩
def fromInput : Switch := ⟨"user-input", none, .flag, false⟩
def json : Switch := ⟨"json", none, .flag, false⟩
def strict : Switch := ⟨"strict", none, .flag, false⟩
def deleteNull : Switch := ⟨"delete-null", none, .flag, false⟩

/-- The arguments in front of the command. -/
def program : Usage := ⟨programName, [debug], false⟩

def command? (name : String) : Option Usage :=
  let usage (switches : List Switch) (takesOperands : Bool) : Usage :=
    ⟨programName ++ "-" ++ name, debug :: switches, takesOperands⟩
  match name with
  | "extract" => some (usage [schema, values, overrides] false)
  | "construct" => some (usage [schema, params, fromInput, json] false)
  | "defaults" => some (usage [schema, values, json] false)
  | "lint" => some (usage [schema, values, strict] false)
  | "merge" => some (usage [overrides, deleteNull, json] true)
  | _ => none

end Usage

structure Reading where
  command : Option String
  usage : Usage
  /-- The options with their values, from the last to the first. -/
  given : List (String × String)
  /-- The operands, from the last to the first. -/
  operands : List String
  /-- An option whose value is the next argument. -/
  pending : Option Switch
  /-- Whether everything that follows is an operand. -/
  onlyOperands : Bool

namespace Reading

def start : Reading := ⟨none, Usage.program, [], [], none, false⟩

def give (reading : Reading) (switch : Switch) (value : String) : Except Stop Reading :=
  if switch.isPath ∧ value.isEmpty then
    .error (.misuse (.emptyPath switch.name))
  else if switch.arity ≠ .repeated ∧ (reading.given.lookup switch.name).isSome then
    .error (.misuse (.repeatedOption switch.name))
  else
    .ok { reading with given := (switch.name, value) :: reading.given, pending := none }

def option (reading : Reading) (name : String) (value : Option String) : Except Stop Reading :=
  if name == "version" ∨ name == "help" then
    match value with
    | some _ => .error (.misuse (.unexpectedValue name))
    | none => .error (if name == "version" then .version reading.usage.name else .help)
  else
    match reading.usage.switches.find? (·.name == name) with
    | none => .error (.misuse (.unknownOption name))
    | some switch =>
        match switch.arity, value with
        | .flag, some _ => .error (.misuse (.unexpectedValue name))
        | .flag, none => reading.give switch ""
        | _, some value => reading.give switch value
        | _, none => .ok { reading with pending := some switch }

/-- Take an option by its letter. What follows the letter is its value. -/
def letters (reading : Reading) (text : List Char) : Except Stop Reading :=
  match text with
  | [] => .ok reading
  | 'V' :: _ => .error (.version reading.usage.name)
  | 'h' :: _ => .error .help
  | letter :: rest =>
      match reading.usage.switches.find? (·.letter == some letter) with
      | none => .error (.misuse (.unknownOption (String.ofList [letter])))
      | some switch =>
          match rest with
          | [] => .ok { reading with pending := some switch }
          | '=' :: value => reading.give switch (String.ofList value)
          | value => reading.give switch (String.ofList value)

def operand (reading : Reading) (argument : String) : Except Stop Reading :=
  match reading.command with
  | none =>
      if reading.onlyOperands then
        .error (.misuse (.unexpectedOperand argument))
      else if argument == "help" then
        .error .help
      else
        match Usage.command? argument with
        | some usage => .ok { start with command := some argument, usage := usage }
        | none => .error (.misuse (.unknownCommand argument))
  | some _ =>
      if !reading.usage.takesOperands then
        .error (.misuse (.unexpectedOperand argument))
      else if argument.isEmpty then
        .error (.misuse (.emptyPath "base"))
      else
        .ok { reading with operands := argument :: reading.operands }

def splitValue (text : List Char) : String × Option String :=
  (String.ofList (text.takeWhile (· != '=')),
    match text.dropWhile (· != '=') with
    | _ :: value => some (String.ofList value)
    | [] => none)

/-- Whether an argument cannot be the value of the option before it. -/
def isOption (argument : String) : Bool := argument.startsWith "-" && argument != "-"

def next (reading : Reading) (argument : String) : Except Stop Reading :=
  match reading.pending with
  | some switch =>
      if isOption argument then
        .error (.misuse (.missingValue switch.name))
      else
        reading.give switch argument
  | none =>
      if reading.onlyOperands then
        reading.operand argument
      else
        match argument.toList with
        | ['-'] => reading.operand argument
        | ['-', '-'] => .ok { reading with onlyOperands := true }
        | '-' :: '-' :: text =>
            let (name, value) := splitValue text
            reading.option name value
        | '-' :: text => reading.letters text
        | _ => reading.operand argument

def all (reading : Reading) (switch : Switch) : List String :=
  (reading.given.filter (·.1 == switch.name)).reverse.map (·.2)

def has (reading : Reading) (switch : Switch) : Bool :=
  (reading.given.lookup switch.name).isSome

def required (reading : Reading) (switch : Switch) : Except Stop String :=
  match reading.given.lookup switch.name with
  | some value => .ok value
  | none => .error (.misuse (.missingArgument switch.name))

def finish (reading : Reading) : Except Stop Command := do
  if let some switch := reading.pending then
    throw (.misuse (.missingValue switch.name))
  match reading.command with
  | some "extract" =>
      return .extract (← reading.required Usage.schema) (reading.all Usage.values)
        (reading.all Usage.overrides)
  | some "construct" =>
      return .construct (← reading.required Usage.schema) (← reading.required Usage.params)
        (reading.has Usage.fromInput) (reading.has Usage.json)
  | some "defaults" =>
      return .defaults (← reading.required Usage.schema) (reading.all Usage.values)
        (reading.has Usage.json)
  | some "lint" =>
      return .lint (← reading.required Usage.schema) (reading.all Usage.values)
        (reading.has Usage.strict)
  | some "merge" =>
      match reading.operands.reverse with
      | base :: overlays =>
          return .merge base overlays (reading.all Usage.overrides)
            (reading.has Usage.deleteNull) (reading.has Usage.json)
      | [] => throw (.misuse (.missingArgument "base"))
  | _ => throw (.misuse .noCommand)

end Reading

def Command.ofArguments (arguments : List String) : Except Stop Command := do
  let reading ← arguments.foldlM Reading.next Reading.start
  reading.finish

end ChartParams.CommandLine
