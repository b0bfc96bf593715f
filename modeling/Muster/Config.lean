import Muster.Config.Environment
import Muster.Engine.Exchange
import Muster.Liveness
import Muster.Provider.Kubeadm
import Muster.Toml.Document
import Muster.Toml.Setting
import Muster.Toml.Writing

/-!
# Configuration

One record holds the settings of an orchestrator and of its agents. Each setting has a default, may
be set in a settings file, and some of them may be overridden by the environment. The lists of
settings are the only places where the names in the file stand, so that what is written can be read.
-/

set_option autoImplicit false

namespace Muster

open Toml (Setting)

/-- The settings of a node. -/
structure NodeConfig where
  /-- The id of the node; the name of the machine if empty. -/
  nodeId : String
  group : String
  deriving DecidableEq, Repr

/-- The addresses of the bus. -/
structure BusConfig where
  /-- Where the orchestrator listens. -/
  listenAddress : String
  /-- Where agents find the orchestrator. -/
  serverAddress : String
  /-- The seconds between two attempts of an agent to connect. -/
  reconnectSecs : UInt64
  deriving DecidableEq, Repr

/-- The settings of the orchestrator. -/
structure ServerConfig where
  /-- The name of the engine; the name of the machine if empty. -/
  host : String
  nodeStepTimeoutSecs : UInt64
  /-- How many node steps run at a time; 0 for all of them. -/
  maxParallelNodeSteps : UInt32
  resourceServerUrl : String
  /-- The record file; nothing is kept if empty. -/
  statePath : String
  deriving DecidableEq, Repr

/-- The settings of an agent. -/
structure AgentConfig where
  workDir : String
  osReleasePath : String
  /-- The seconds that a command may take; 0 for as long as it likes. -/
  commandTimeoutSecs : UInt64
  /-- The seconds that tasks have to end in when the agent is stopped. -/
  shutdownGraceSecs : UInt64
  signalPort : UInt16
  deriving DecidableEq, Repr

/-- The settings of the liveness detector. -/
structure LivenessConfig where
  enabled : Bool
  intervalSecs : UInt64
  probeTimeoutMs : UInt64
  signalPort : UInt16
  deriving DecidableEq, Repr

/-- How often `kubeadm` is tried. -/
structure KubeadmConfig where
  retryAttempts : UInt32
  retryBackoffSecs : UInt64
  deriving DecidableEq, Repr

/-- The whole configuration. -/
structure Config where
  node : NodeConfig
  bus : BusConfig
  server : ServerConfig
  agent : AgentConfig
  liveness : LivenessConfig
  kubeadm : KubeadmConfig
  deriving DecidableEq, Repr

/-! ## Settings by name -/

/-- The settings of a node. -/
def NodeConfig.settings : List (Setting NodeConfig) :=
  [.text "node_id" (·.nodeId) fun c v => { c with nodeId := v },
    .text "group" (·.group) fun c v => { c with group := v }]

/-- The settings of the bus. -/
def BusConfig.settings : List (Setting BusConfig) :=
  [.text "listen_addr" (·.listenAddress) fun c v => { c with listenAddress := v },
    .text "server_addr" (·.serverAddress) fun c v => { c with serverAddress := v },
    .nat64 "reconnect_secs" (·.reconnectSecs) fun c v => { c with reconnectSecs := v }]

/-- The settings of the orchestrator. -/
def ServerConfig.settings : List (Setting ServerConfig) :=
  [.text "host" (·.host) fun c v => { c with host := v },
    .nat64 "node_step_timeout_secs" (·.nodeStepTimeoutSecs)
      fun c v => { c with nodeStepTimeoutSecs := v },
    .nat32 "max_parallel_node_steps" (·.maxParallelNodeSteps)
      fun c v => { c with maxParallelNodeSteps := v },
    .text "resource_server_url" (·.resourceServerUrl) fun c v => { c with resourceServerUrl := v },
    .text "state_path" (·.statePath) fun c v => { c with statePath := v }]

/-- The settings of an agent. -/
def AgentConfig.settings : List (Setting AgentConfig) :=
  [.text "work_dir" (·.workDir) fun c v => { c with workDir := v },
    .text "os_release_path" (·.osReleasePath) fun c v => { c with osReleasePath := v },
    .nat64 "command_timeout_secs" (·.commandTimeoutSecs)
      fun c v => { c with commandTimeoutSecs := v },
    .nat64 "shutdown_grace_secs" (·.shutdownGraceSecs) fun c v => { c with shutdownGraceSecs := v },
    .nat16 "signal_port" (·.signalPort) fun c v => { c with signalPort := v }]

/-- The settings of the liveness detector. -/
def LivenessConfig.settings : List (Setting LivenessConfig) :=
  [.boolean "enabled" (·.enabled) fun c v => { c with enabled := v },
    .nat64 "interval_secs" (·.intervalSecs) fun c v => { c with intervalSecs := v },
    .nat64 "probe_timeout_ms" (·.probeTimeoutMs) fun c v => { c with probeTimeoutMs := v },
    .nat16 "signal_port" (·.signalPort) fun c v => { c with signalPort := v }]

/-- How often `kubeadm` is tried. -/
def KubeadmConfig.settings : List (Setting KubeadmConfig) :=
  [.nat32 "retry_attempts" (·.retryAttempts) fun c v => { c with retryAttempts := v },
    .nat64 "retry_backoff_secs" (·.retryBackoffSecs) fun c v => { c with retryBackoffSecs := v }]

namespace Config

/-- The sections of the configuration. -/
def settings : List (Setting Config) :=
  [.group "node" NodeConfig.settings (·.node) fun c v => { c with node := v },
    .group "bus" BusConfig.settings (·.bus) fun c v => { c with bus := v },
    .group "server" ServerConfig.settings (·.server) fun c v => { c with server := v },
    .group "agent" AgentConfig.settings (·.agent) fun c v => { c with agent := v },
    .group "liveness" LivenessConfig.settings (·.liveness) fun c v => { c with liveness := v },
    .group "kubeadm" KubeadmConfig.settings (·.kubeadm) fun c v => { c with kubeadm := v }]

/-- The port that agents answer on. -/
def signalPort : UInt16 := 7421

/-- The configuration without any settings; data goes where the environment says. -/
def standard (env : Environment) : Config where
  node := { nodeId := "", group := "default" }
  bus :=
    { listenAddress := "0.0.0.0:7420", serverAddress := "127.0.0.1:7420", reconnectSecs := 3 }
  server :=
    { host := "", nodeStepTimeoutSecs := 600, maxParallelNodeSteps := 0, resourceServerUrl := ""
      statePath := Path.join env.dataDirectory "state.json" }
  agent :=
    { workDir := "/tmp/fleet-agent", osReleasePath := "/etc/os-release", commandTimeoutSecs := 0
      shutdownGraceSecs := 30, signalPort }
  liveness := { enabled := true, intervalSecs := 30, probeTimeoutMs := 2000, signalPort }
  kubeadm := { retryAttempts := 5, retryBackoffSecs := 3 }

/-- The configuration as the text of a settings file. -/
def text (c : Config) : String :=
  Text.join "\n" ((Setting.entries settings c).map fun
    | (name, .table _ entries) => Toml.writeSection name entries
    | _ => "")

/-- The configuration with the settings of a file taken over, if the text is one. -/
def ofText? (env : Environment) (s : String) : Option Config :=
  (Toml.read s).bind fun entries => Setting.take settings (.table .header entries) (standard env)

/-! ## Variables of the environment -/

/-- A setting by a natural number; one that is none, or too large, changes nothing. -/
def setNat (bound : Nat) (set : Nat → Config) (c : Config) (v : String) : Config :=
  ((Text.natOf? bound v).map set).getD c

/-- The variables that override settings, and what their values do. -/
def overrides : List (String × (Config → String → Config)) :=
  [("FLEET_NODE__NODE_ID", fun c v => { c with node.nodeId := v }),
    ("FLEET_NODE__GROUP", fun c v => { c with node.group := v }),
    ("FLEET_BUS__LISTEN_ADDR", fun c v => { c with bus.listenAddress := v }),
    ("FLEET_BUS__SERVER_ADDR", fun c v => { c with bus.serverAddress := v }),
    ("FLEET_SERVER__HOST", fun c v => { c with server.host := v }),
    ("FLEET_SERVER__NODE_STEP_TIMEOUT_SECS", fun c =>
      setNat (UInt64.size - 1) (fun n => { c with server.nodeStepTimeoutSecs := n.toUInt64 }) c),
    ("FLEET_SERVER__RESOURCE_SERVER_URL", fun c v => { c with server.resourceServerUrl := v }),
    ("FLEET_AGENT__SIGNAL_PORT", fun c =>
      setNat (UInt16.size - 1) (fun n => { c with agent.signalPort := n.toUInt16 }) c),
    ("FLEET_LIVENESS__ENABLED", fun c v =>
      { c with liveness.enabled := v = "true" || v = "1" }),
    ("FLEET_LIVENESS__INTERVAL_SECS", fun c =>
      setNat (UInt64.size - 1) (fun n => { c with liveness.intervalSecs := n.toUInt64 }) c),
    ("FLEET_LIVENESS__SIGNAL_PORT", fun c =>
      setNat (UInt16.size - 1) (fun n => { c with liveness.signalPort := n.toUInt16 }) c)]

/-- The configuration with the settings that the environment overrides. -/
def overridden (env : Environment) (c : Config) : Config :=
  overrides.foldl (fun c (name, set) => ((env.get? name).map (set c)).getD c) c

/-! ## What the parts of the program are set up with -/

/-- The milliseconds that a command may take, if they are limited. -/
def commandTimeout? (c : Config) : Option Nat :=
  if c.agent.commandTimeoutSecs = 0 then none
  else some (c.agent.commandTimeoutSecs.toNat * 1000)

/-- How the engine is set up on a host. -/
def engineSettings (c : Config) (host : String) : Engine.Settings where
  host
  nodeStepTimeout := c.server.nodeStepTimeoutSecs.toNat * 1000
  maxParallel := c.server.maxParallelNodeSteps.toNat
  resourceServerUrl := c.server.resourceServerUrl

/-- How the liveness detector is set up; a sweep takes place once a second at most. -/
def livenessSettings (c : Config) : Liveness.Settings where
  interval := max 1 c.liveness.intervalSecs.toNat * 1000
  probeTimeout := c.liveness.probeTimeoutMs.toNat
  signalPort := c.liveness.signalPort

/-- How `kubeadm` is retried. -/
def retryPolicy (c : Config) : Kubeadm.RetryPolicy :=
  ⟨c.kubeadm.retryAttempts.toNat, c.kubeadm.retryBackoffSecs.toNat * 1000⟩

/-- The milliseconds between two attempts of an agent to connect: a second at least. -/
def reconnectInterval (c : Config) : Nat := max 1 c.bus.reconnectSecs.toNat * 1000

end Config

end Muster
