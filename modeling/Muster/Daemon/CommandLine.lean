import Muster.Config.File
import Muster.Daemon.Agent
import Muster.Daemon.Server

/-!
# The command line

The first word says what the program is to be: a server, an agent, or the bearer of a request. The
settings file is seen to before anything else, whatever the words are.
-/

set_option autoImplicit false

namespace Muster.CommandLine

/-- What the program is to be. -/
inductive Mode where
  | server
  | agent
  | submit (path : String)
  deriving DecidableEq, Repr

/-- The mode that the words of a command line ask for: a server if there are none. -/
def Mode.ofWords : List String → Except DaemonError Mode
  | [] => .ok .server
  | "server" :: _ => .ok .server
  | "agent" :: _ => .ok .agent
  | "submit" :: path :: _ => .ok (.submit path)
  | ["submit"] => .error .noRequest
  | mode :: _ => .error (.unknownMode mode)

/-- Where the program runs: the environment, the network and the name of the machine. -/
structure Surroundings where
  env : Environment
  net : Network
  machine : String

/-- Runs the program: why it ends in a failure, and the files it leaves. A server or an agent that
has come up runs until it is interrupted, and then ends well. -/
def run (at_ : Surroundings) (words : List String) (files : FileTree) :
    Except DaemonError Unit × FileTree :=
  let (c, files) := Config.prepare at_.env files
  match Mode.ofWords words with
  | .error e => (.error e, files)
  | .ok .server =>
    match Server.start at_.net at_.machine c files with
    | .error e => (.error e, files)
    | .ok server => (.ok (), (server.sweep at_.net files).2)
  | .ok .agent => (.ok (), Agent.prepare c files)
  | .ok (.submit path) =>
    ((Submission.prepare at_.net c.bus.serverAddress files path).map fun _ => (), files)

/-- The code that the program ends with. -/
def exitCode : Except DaemonError Unit → Nat
  | .ok () => 0
  | .error _ => 1

end Muster.CommandLine
