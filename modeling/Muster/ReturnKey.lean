import Muster.Text.Decimal

/-!
# The keys of returned data

Data that tasks return is merged over all nodes of a step, so keys carry the name of what they are
about.
-/

set_option autoImplicit false

namespace Muster.ReturnKey

/-- The command that other masters join with. -/
def joinControlPlane : String := "joinControlPlaneCMD"

/-- The command that workers join with. -/
def joinWorker : String := "joinWorkerCMD"

/-- Whether a container runtime was left as it was. -/
def criSkipped : String := "cri.skipped"

/-- The service of the container runtime. -/
def criRuntime : String := "cri.runtime"

/-- The host name that a machine was given. -/
def hostname : String := "node.hostname"

/-- The status that a probed URL answered with. -/
def curlStatus : String := "curl.status"

/-- Where the cluster configuration was written. -/
def clusterConfigPath : String := "cluster_config.path"

/-- The number of the attempt that succeeded. -/
def kubeadmAttempts : String := "kubeadm.attempts"

/-- What the command at a position printed. -/
def commandStdout (index : Nat) : String := "command." ++ Text.decimal index ++ ".stdout"

/-- How the command at a position failed. -/
def commandError (index : Nat) : String := "command." ++ Text.decimal index ++ ".error"

end Muster.ReturnKey
