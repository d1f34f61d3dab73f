import ContainerWatch.Session
/-!
# The program

Loads the settings and reports the changes of container states in the messages of the engine, which are
piped in, one in a line.  The lines of the session go to the standard output and those of the watcher to
the standard error output.
-/

namespace ContainerWatch

/-- The variable of the surroundings that gives the path of the settings. -/
def pathVariable : String := "DOCKERAPI_CONFIG"

/-- What there is at a path. -/
def entryAt (path : String) : IO Entry := do
  try
    return .file (← IO.FS.readBinFile path)
  catch
    | .noFileOrDirectory .. => return .nothing
    | .inappropriateType .. => return .directory
    | e => throw e

/-- The text that is left in a stream. -/
partial def readRest (input : IO.FS.Stream) (read : String) : IO String := do
  let line ← input.getLine
  if line.isEmpty then return read else readRest input (read ++ line)

/-- Writes log lines. -/
def writeLines (output : IO.FS.Stream) (lines : List Log.Line) : IO Unit := do
  for line in lines do
    output.putStrLn line.text

/-- Runs a session whose engine has its messages piped in. -/
def runSession : IO UInt32 := do
  let settingsPath ← IO.getEnv pathVariable
  let entry ← entryAt (settingsPath.getD Config.defaultPath)
  let messages ← readRest (← IO.getStdin) ""
  let session := Session.run
    { files := fun _ => entry
      settingsPath
      engineAddress := "unix:///var/run/docker.sock"
      peer := fun _ => .engine ⟨200, messages⟩ }
  writeLines (← IO.getStdout) session.mainLog
  writeLines (← IO.getStderr) session.watcherLog
  match session.outcome with
  | .finished => return 0
  | .failed e =>
    for text in e.chain do
      IO.eprintln text
    return 1
  | .noChannel =>
    IO.eprintln "No channel has so much room"
    return 1

end ContainerWatch

/-- The program. -/
def main : IO UInt32 := ContainerWatch.runSession
