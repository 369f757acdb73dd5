import PgCollections.CommandLine.Program

/-!
# The program

Reads the environment and the configuration file, runs the command line and prints its outcome.
This program has no transport to a server, so that only dry runs execute statements.
-/

open PgCollections PgCollections.CommandLine

/-- The contents of a file, if it can be read. -/
def readContents (file : String) : IO (Option Bytes) := do
  try
    return some (← IO.FS.readBinFile file).toList
  catch _ => return none

def main (arguments : List String) : IO UInt32 := do
  let home := (← IO.getEnv "HOME").getD ""
  let places : Environment :=
    { configFile := ← IO.getEnv "PGDBS_CONFIG"
      defaultFile := Config.defaultPath home (← IO.getEnv "XDG_CONFIG_HOME")
      contents := fun _ => none }
  let contents ← match Invocation.ofArguments arguments with
    | .ok invocation => readContents (places.file invocation.options)
    | .error _ => pure none
  let env := { places with contents := fun _ => contents }
  let server := Server.unreachable (.io "no transport to a server")
  let (outcome, _) := (run server env arguments).run ⟨⟨(), []⟩, []⟩
  let out ← IO.getStdout
  let err ← IO.getStderr
  outcome.out.forM out.putStrLn
  outcome.err.forM err.putStrLn
  return outcome.exitCode.toUInt32
