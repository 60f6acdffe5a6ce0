import QueryFilter.CommandLine.Run

/-!
# The program

Reads the settings from the environment and the rest from the command line, and prints
the filter of the query. Without valid settings nothing is read from the command line.
-/

open QueryFilter QueryFilter.CommandLine

/-- The settings of the environment. -/
def environmentSettings : IO (Checked Settings) := do
  let names := ["LOG_LEVEL", "STRING_TO_BOOLEAN", "STRING_TO_NUMBER"]
  let env ← names.filterMapM fun name => do
    return (← IO.getEnv name).map fun value => (name, value)
  return Settings.ofEnvironment env

/-- Prints the end of a run, and tells whether it was a success. -/
def report : Ending → IO UInt32
  | .usage e => do
    IO.eprint e.text
    return 2
  | .help => do
    IO.print helpText
    return 0
  | .printed code text => do
    IO.print text
    return code.toUInt32
  | .broken b => do
    IO.eprintln b.message
    return 1

/-- Runs a command line. -/
def main (args : List String) : IO UInt32 := do
  match ← environmentSettings with
  | .error flaws =>
    for flaw in flaws do
      IO.eprintln flaw.text
    return 1
  | .ok settings => report (run settings args)
