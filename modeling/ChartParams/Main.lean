import ChartParams.CommandLine.Commands

/-!
# The program

Reads the files that the arguments name, runs the command and prints what it shows.
-/

open ChartParams CommandLine

def readText? (path : String) : IO (Option String) := do
  try
    let text ← IO.FS.readFile path
    return some text
  catch _ =>
    return none

/-- The texts of files under their paths. Files that cannot be read are left out. -/
def readTexts (paths : List String) : IO (List (String × String)) :=
  paths.filterMapM fun path => do
    let text ← readText? path
    return text.map fun text => (path, text)

def namedPaths (arguments : List String) : List String :=
  match Command.ofArguments arguments with
  | .ok command => command.paths
  | .error _ => []

def main (arguments : List String) : IO UInt32 := do
  let texts ← readTexts (namedPaths arguments)
  let outcome := run (fun path => texts.lookup path) arguments
  for line in outcome.lines do
    match line with
    | .output text => IO.println text
    | .note text => IO.eprintln text
  if let some complaint := outcome.complaint then
    IO.eprintln ("error: " ++ complaint)
  return UInt32.ofNat outcome.exitCode
