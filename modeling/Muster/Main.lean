import Muster.Bytes
import Muster.Daemon.CommandLine

/-!
# The program

Everything that touches the machine: variables of the environment, files, the name of the machine and
the end of the program. What is decided is decided by `CommandLine.run`, on the files that it may
look at; those that it changes are written back. The program has no connections, so a server or an
agent that has come up waits until it is interrupted.
-/

set_option autoImplicit false

namespace Muster.Program

/-- The variables of the environment that matter. -/
def variableNames : List String :=
  ["HOME", "HOSTNAME", "XDG_CONFIG_HOME", "XDG_DATA_HOME", "FLEET_CONFIG"]
    ++ Config.overrides.map (·.1)

/-- The environment, as far as it matters. -/
def environment : IO Environment := do
  let found ← variableNames.filterMapM fun name => do
    return (← IO.getEnv name).map fun value => (name, value)
  return .ofList found

/-- The content of a file; none if there is no such file. -/
def content? (path : String) : IO (Option ByteArray) := do
  match ← (IO.FS.readBinFile path).toBaseIO with
  | .ok data => return some data
  | .error _ => return none

/-- The name of the machine. -/
def machineName (env : Environment) : IO String := do
  let known := (← content? "/proc/sys/kernel/hostname").map fun data => Text.trim (Text.lossy data)
  return ((known.filter (· ≠ "")).orElse fun _ => env.get? "HOSTNAME").getD "localhost"

/-- The files at some paths as they stand. -/
def snapshot (paths : List String) : IO FileTree :=
  paths.foldlM (fun (files : FileTree) (path : String) => do
    match ← (IO.FS.readBinFile path).toBaseIO with
    | .ok data => return (files.performWrite path data none).2
    | .error (.noFileOrDirectory ..) => return files
    | .error _ => return (files.makeDirectories path).2) .empty

/-- Writes the files that have changed. -/
def writeBack (before after : FileTree) (paths : List String) : IO Unit :=
  for path in paths do
    if let some data := (after.read path).toOption then
      if (before.read path).toOption ≠ some data then
        if let some parent := Path.parent? path then
          discard (IO.FS.createDirAll (if parent = "" then "." else parent)).toBaseIO
        discard (IO.FS.writeBinFile path data).toBaseIO

/-- The paths that the program may look at. -/
def paths (env : Environment) (c : Config) (words : List String) : List String :=
  [env.configFile, c.server.statePath] ++ match CommandLine.Mode.ofWords words with
    | .ok (.submit path) => [path]
    | _ => []

/-- Waits until the program is interrupted. -/
partial def wait : IO Unit := do
  IO.sleep 60000
  wait

/-- Runs the program and gives its exit code. -/
def run (words : List String) : IO UInt32 := do
  let env ← environment
  let machine ← machineName env
  let (c, _) := Config.prepare env (← snapshot [env.configFile])
  let paths := paths env c words
  let before ← snapshot paths
  let (outcome, after) := CommandLine.run ⟨env, .isolated, machine⟩ words before
  writeBack before after paths
  match outcome with
  | .error e =>
    IO.eprintln e.report
    return 1
  | .ok () =>
    wait
    return 0

end Muster.Program

/-- The entry point. -/
def main (words : List String) : IO UInt32 := Muster.Program.run words
