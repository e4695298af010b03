import StorageFleet.CommandLine

/-!
# The program

Reads the arguments and the configuration file, and reports why the fleet could not be started.
-/

section

open StorageFleet

/-- The content of a file, if it can be read. -/
def readBytes (path : String) : IO (Option (List UInt8)) := do
  try
    return some (← IO.FS.readBinFile path).toList
  catch _ =>
    return none

/-- The variables of the environment that the program looks at. -/
def readEnvironment : IO (List (String × String)) := do
  let names := CommandLine.logJsonVariable :: CommandLine.valueOptions.map (·.envName)
  let values ← names.mapM fun name => do return (← IO.getEnv name).map fun value => (name, value)
  return values.filterMap id

/-- Starts the fleet and exits with the code that tells how that went. -/
def main (arguments : List String) : IO UInt32 := do
  let environment ← readEnvironment
  let invocation := CommandLine.parse arguments fun name =>
    List.lookup name environment
  let file ← match invocation with
    | .run settings => readBytes settings.config
    | _ => pure none
  match CommandLine.ending invocation fun _ => file with
  | .exit code => return code.toUInt32
  | .failed fault =>
    IO.eprintln ("Error: " ++ fault.message)
    return 1
  | .listening d _ =>
    for line in d.log do IO.eprintln line.render
    return 0

end
