import Muster.Config

/-!
# The register of settings

What agents and the orchestrator are set up with, taken from the configuration once at the start.
An agent finds its settings under its own id; there is one record for the orchestrator.
-/

set_option autoImplicit false

namespace Muster

/-- What an agent is set up with. -/
structure AgentSettings where
  nodeId : String
  group : String
  workDir : String
  /-- The milliseconds that a command may take, if they are limited. -/
  commandTimeout : Option Nat
  retry : Kubeadm.RetryPolicy
  deriving DecidableEq, Repr

/-- What the agent of a node is set up with. -/
def Config.agentSettings (c : Config) (nodeId : String) : AgentSettings :=
  ⟨nodeId, c.node.group, c.agent.workDir, c.commandTimeout?, c.retryPolicy⟩

/-- The settings of agents, by node, and those of the orchestrator. -/
structure Register where
  agents : Dict AgentSettings
  server : Option Engine.Settings

namespace Register

/-- Nothing is known yet. -/
def empty : Register := ⟨.empty, none⟩

/-- Notes what an agent is set up with, in place of what was noted before. -/
def setAgent (r : Register) (s : AgentSettings) : Register :=
  { r with agents := r.agents.insert s.nodeId s }

/-- What the agent of a node is set up with. -/
def agent? (r : Register) (nodeId : String) : Option AgentSettings := r.agents.get? nodeId

/-- Notes what the orchestrator is set up with, in place of what was noted before. -/
def setServer (r : Register) (s : Engine.Settings) : Register := { r with server := some s }

end Register

end Muster
