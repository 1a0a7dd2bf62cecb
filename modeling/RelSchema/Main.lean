import RelSchema.Command.Run

/-!
The program: it reads the files that its arguments name, carries out the command, and shows what
comes of it. It has no drivers for databases, so every attempt to connect is refused.
-/
namespace RelSchema.Main

/-- The path with the text of its file, if there is such a file. -/
def readFile? (path : String) : IO (Option (String × String)) := do
  try
    return some (path, ← IO.FS.readFile path)
  catch _ =>
    return none

def readFiles (paths : List String) : IO Files := do
  return (← paths.mapM readFile?).reduceOption

/-- The setting of the environment that selects the profile, if it is there. -/
def readEnvironment (invocation : Invocation) : IO (Keyed String) := do
  let name := profileSetting invocation.start
  return ((← IO.getEnv name).map (name, ·)).toList

/-- What the program finds around it. -/
def readSurroundings (invocation : Invocation) : IO Surroundings := do
  let found : Surroundings :=
    { files := ← readFiles invocation.paths
      here := (← IO.currentDir).toString
      environment := ← readEnvironment invocation
      catalog := { refusal := some "No database driver is available" } }
  return { found with files := found.files ++ (← readFiles (invocation.morePaths found)) }

def usage : String :=
  "usage: [--env-prefix START] [--config FILE] [-v]\n" ++
  "       profiles\n" ++
  "     | inspect [-p NAME] [--models FILE] [--json]\n" ++
  "     | convert FILE --to ddl|models|json|yaml [--dialect sqlite|postgres|mysql]\n" ++
  "         [--if-not-exists] [--package NAME] [--tag NAME] [-o FILE]\n" ++
  "     | validate FILE [-p NAME] [--tag NAME]"

end RelSchema.Main

open RelSchema in
def main (arguments : List String) : IO UInt32 := do
  match Invocation.read arguments with
  | .error .help =>
    IO.println Main.usage
    return 0
  | .error .usage =>
    IO.eprintln Main.usage
    return 2
  | .ok invocation =>
    let effect := invocation.run (← Main.readSurroundings invocation)
    IO.print effect.output
    if let some (path, text) := effect.written then
      IO.FS.writeFile path text
      IO.eprintln ("Wrote " ++ path)
    match effect.status with
    | .ok status => return status.toUInt32
    | .error failure =>
      IO.eprintln failure.message
      return 1
