import SqlLoom.CommandLine.Run

/-! The program: reads the files that its command names, and puts out what the command says. -/
namespace SqlLoom.Main

def fileState (path : String) : IO FileState := do
  try return .text (← IO.FS.readFile path)
  catch
    | .noFileOrDirectory _ _ _ => return .missing
    | _ => return .unreadable

/-- Where settings are kept when no file is named. -/
def settingsPath : IO String := do
  let directory ← match ← IO.getEnv "XDG_CONFIG_HOME" with
    | some d => pure d
    | none => do
      match ← IO.getEnv "HOME" with
      | some home => pure (home ++ "/.config")
      | none => pure "."
  return directory ++ "/" ++ Config.fileName

/-- The files a command may read, read before it runs. -/
def surroundings (words : List String) : IO Surroundings := do
  let settings ← settingsPath
  match CommandLine.parse words with
  | .error _ => return { file := fun _ => .missing, input := "", settings }
  | .ok i =>
    let paths := i.config.getD settings :: i.paths
    let states ← (paths.filter (· ≠ "-")).mapM fun p => return (p, ← fileState p)
    let input ← if paths.contains "-" then (← IO.getStdin).readToEnd else pure ""
    return { file := fun p => ((states.find? fun s => s.1 == p).map (·.2)).getD .missing
             input, settings }

end SqlLoom.Main

def main (words : List String) : IO UInt32 := do
  let outcome := SqlLoom.CommandLine.run words (← SqlLoom.Main.surroundings words)
  (← IO.getStdout).putStr outcome.stdout
  (← IO.getStderr).putStr outcome.stderr
  return outcome.code.toUInt32
