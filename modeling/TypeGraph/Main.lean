import TypeGraph.CommandLine

/-!
# TypeGraph.Main

The program: reads the two files, prints and sets the exit code, which is 2
for arguments that are not understood and 1 for anything else that fails.
-/

/-- The bytes of a file, if it can be read. -/
def fileBytes? (path : String) : IO (Option ByteArray) := do
  try
    return some (← IO.FS.readBinFile path)
  catch _ =>
    return none

/-- Runs the command that the arguments ask for. -/
def main (arguments : List String) : IO UInt32 := do
  match TypeGraph.Invocation.parse? arguments with
  | none =>
    IO.eprintln "usage: [-c FILE] [-v] summary|cycles|report FILE or inspect FILE NAME"
    return 2
  | some invocation =>
    let config ← fileBytes? invocation.configPath
    let declarations ← fileBytes? invocation.command.file
    match invocation.run config declarations with
    | .ok output =>
      IO.print output
      return 0
    | .error error =>
      IO.eprintln error.message
      return 1
