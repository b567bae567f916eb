import Telemetry.Program

/-!
# Command line

Collects what the program looks at, runs it and leaves its output. Variables are those that the program
knows; the environment file is looked for in the working directory and then in those above it. Nothing
is reached from here over a network, so every call ends as one to a server that does not listen. No
subscriber writes the log.
-/
namespace Telemetry.Main

/-- What can be read at a path. -/
def source (path : String) : IO Settings.Source := do
  try
    let content ← IO.FS.readBinFile path
    return .bytes content.toList
  catch e =>
    match e with
    | .noFileOrDirectory .. => return .absent
    | _ => return .directory

/-- The text of the first environment file in a directory or in as many above it. -/
def environmentFile (directory : String) : Nat → IO (Option String)
  | 0 => return none
  | n + 1 => do
    match ← source (directory ++ "/.env") with
    | .bytes content => return Text.ofUtf8? content
    | _ => environmentFile (directory ++ "/..") n

/-- The variables that the program knows and that are set. -/
def environment : IO Environment := do
  let names := [Environment.targetName, Environment.tokenName, Environment.logName]
  let values ← names.mapM fun name => return (← IO.getEnv name).map (name, ·)
  return values.filterMap id

/-- As many directories as are looked through for an environment file. -/
def depth : Nat := 64

end Telemetry.Main

def main (args : List String) : IO UInt32 := do
  let home := (← IO.getEnv "HOME").getD ""
  let exit := Telemetry.Program.execute (fun _ _ => "") args (← Telemetry.Main.environment)
    (← Telemetry.Main.environmentFile "." Telemetry.Main.depth) home
    (← Telemetry.Main.source (Telemetry.Settings.File.path home)) .silent
  IO.print exit.stdout
  IO.eprint exit.stderr
  return (exit.code.getD 1).toUInt32
