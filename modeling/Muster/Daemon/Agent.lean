import Muster.Config.Register
import Muster.Daemon.Network
import Muster.Dispatcher

/-!
# The agent as a program

An agent makes its directory, finds out what its machine can do, and tries to connect until it is
connected or stopped.
-/

set_option autoImplicit false

namespace Muster.Agent

/-- The id of a node on a machine of the given name. -/
def nodeId (machine : String) (c : Config) : String :=
  if c.node.nodeId.isEmpty then machine else c.node.nodeId

/-- Makes the directory of an agent; without it the agent goes on all the same. -/
def prepare (c : Config) (files : FileTree) : FileTree :=
  (files.makeDirectories c.agent.workDir).2

/-- What the machine of an agent can do. -/
def provider (c : Config) (files : FileTree) : Except ProviderError Provider :=
  (Platform.detect files c.agent.osReleasePath).bind fun platform =>
    Provider.resolve platform c.retryPolicy c.commandTimeout? "/"

/-- The agent of a node once it is connected. -/
def dispatcher (machine : String) (c : Config) (files : FileTree) : Dispatcher where
  nodeId := nodeId machine c
  provider := ((provider c files).map Provider.invoke).mapError ProviderError.message
  workDir := some c.agent.workDir

/-- The moments at which an agent tries to connect in vain: at once, and then again each time its
interval has passed, until it is stopped. -/
def attempts (c : Config) (stop : Nat) : List Nat :=
  let interval := c.reconnectInterval
  (List.range ((stop + interval - 1) / interval)).map (· * interval)

end Muster.Agent
