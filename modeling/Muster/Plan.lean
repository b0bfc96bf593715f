import Muster.Engine.Error
import Muster.Provider.Kubeadm
import Muster.ReturnKey
import Muster.Step

/-!
# Plans

`Plan.ofRequest` turns a request into the steps that carry it out. A cluster is created by preparing
every machine, starting the control plane on the first master, joining the other masters and then the
workers; the join commands are what the first master returned.
-/

set_option autoImplicit false

namespace Muster.Plan

/-- The parameter that names the machines an operation is about, separated by commas. -/
def nodesParameter : String := "nodes"

/-- The kernel modules that every machine loads. -/
def kernelModules : List String := ["overlay", "br_netfilter"]

/-- The packages that every machine has. -/
def kubePackages : List String := ["kubelet", "kubeadm", "kubectl"]

/-- The kernel settings that let machines forward what containers send. -/
def forwardingKeys : List String :=
  ["net.bridge.bridge-nf-call-iptables", "net.bridge.bridge-nf-call-ip6tables",
    "net.ipv4.ip_forward"]

/-- The machine of the cluster with an id. -/
def target (c : Cluster) (id : String) : Except EngineError Machine :=
  match c.machine? id with
  | some m => .ok m
  | none => .error (.invalidRequest ("unknown node " ++ Text.quoted id))

/-- The ids that a text names, separated by commas. -/
def idsIn (s : String) : List String :=
  ((Text.splitOn ',' s).map Text.trim).filter fun id => !id.isEmpty

/-- The machines that a request is about, each as often as it is named. -/
def targets (c : Cluster) (parameters : Dict String) : Except EngineError (List Machine) :=
  match idsIn ((parameters.get? nodesParameter).getD "") with
  | [] => .error (.invalidRequest ("missing " ++ Text.quoted nodesParameter ++ " parameter"))
  | ids => ids.mapM (target c)

/-- The master that the control plane starts on. -/
def firstMaster (c : Cluster) : Except EngineError Machine :=
  match c.masters with
  | [] => .error (.invalidRequest "cluster has no master node")
  | first :: _ => .ok first

/-- One node step for each machine. -/
def perMachine (name : String) (machines : List Machine) (tasks : Machine → List Task) : Step :=
  .fixed name (machines.map fun m => .forNode name m.id (tasks m))

/-- The address that workers reach the control plane at. -/
def localEndpoint (c : Cluster) : String :=
  if c.spec.lbEnabled then "127.0.0.1:" ++ Text.decimal c.spec.lbPort.toNat else c.apiEndpoint

/-! ### Tasks -/

/-- Prepares a machine. -/
def bootstrap : Task :=
  .bootstrap
    { info := .creating
      kernelModules
      sysctl := Dict.ofList (forwardingKeys.map fun key => (key, "1"))
      packages := kubePackages }

/-- Gives a machine the host name that it has in its cluster. -/
def rename (m : Machine) : Task := .rename ⟨.creating, m.name⟩

/-- Tells a machine the addresses of all machines. -/
def hosts (c : Cluster) : Task :=
  .hosts ⟨.creating, c.machines.map fun m => ⟨m.ip, [m.name]⟩⟩

/-- Installs or removes the container runtime of a cluster. -/
def runtime (c : Cluster) (info : TaskMeta) : Task :=
  .cri
    { info
      runtime :=
        { kind := (CriKind.ofName? c.spec.cri).getD .containerd
          version := c.spec.criVersion
          reinstall := false
          dataRoot := none } }

/-- The configuration of a balancer in front of every master. -/
def haproxyConfig (c : Cluster) : String :=
  "global\n    maxconn 4000\n\n"
    ++ "defaults\n    mode tcp\n    timeout connect 5s\n    timeout client 1h\n"
    ++ "    timeout server 1h\n\n"
    ++ "frontend kube-apiserver\n    bind 127.0.0.1:" ++ Text.decimal c.spec.lbPort.toNat
    ++ "\n    default_backend masters\n\n"
    ++ "backend masters\n    balance roundrobin\n"
    ++ String.join (c.masters.map fun m =>
        "    server " ++ m.name ++ " " ++ m.ip ++ ":" ++ Text.decimal c.spec.apiPort.toNat
          ++ " check\n")

/-- Installs or removes the balancer in front of the masters. -/
def loadBalancer (c : Cluster) (info : TaskMeta) : Task :=
  .loadBalancer
    { info, config := (haproxyConfig c).toUTF8, vip := c.spec.apiVip, port := c.spec.lbPort }

/-- Takes a machine out of its cluster. -/
def destroy (m : Machine) : Task := .kubeadmDestroy ⟨.deleting, m.role⟩

/-- The documents that the control plane starts from. -/
def controlPlaneConfig (c : Cluster) (first : Machine) : String :=
  Kubeadm.initConfiguration first.ip c.spec.apiPort first.name ++ "---\n"
    ++ Kubeadm.clusterConfiguration c.name c.version c.apiEndpoint c.spec.podCidr c.spec.serviceCidr

/-! ### Joins -/

/-- The command that was returned under a key. -/
def returned (data : ReturnData) (key : String) : Except String String :=
  match data.get? key with
  | some command => .ok command
  | none => .error ("no " ++ key ++ " returned")

/-- Joins every master but the first. -/
def joinMasters (firstId : String) : Builder := fun data c _ =>
  match c.masters.filter fun m => m.id ≠ firstId with
  | [] => .ok []
  | others => do
    let command ← returned data ReturnKey.joinControlPlane
    return others.map fun m =>
      .forNode "join-control-plane" m.id [.joinControlPlane ⟨.creating, command⟩]

/-- Joins the workers with these ids. -/
def joinWorkers (data : ReturnData) (c : Cluster) (ids : List String) :
    Except String (List NodeStep) :=
  if ids.isEmpty then .ok []
  else do
    let command ← returned data ReturnKey.joinWorker
    return ids.map fun id =>
      .forNode "join-worker" id [.joinWorker ⟨.creating, command, localEndpoint c⟩]

/-! ### Plans by type -/

/-- The balancer on every machine, for clusters that have one. -/
def balancerSteps (c : Cluster) (machines : List Machine) : List Step :=
  if c.spec.lbEnabled then
    [perMachine "load-balancer" machines fun _ => [loadBalancer c .creating]]
  else []

/-- Sets up a whole cluster. -/
def createCluster (c : Cluster) : Except EngineError (List Step) := do
  let first ← firstMaster c
  let preparation :=
    [perMachine "bootstrap" c.machines fun _ => [bootstrap],
      perMachine "rename" c.machines fun m => [rename m],
      perMachine "hosts" c.machines fun _ => [hosts c],
      perMachine "container-runtime" c.machines fun _ => [runtime c .creating]]
  let start :=
    (Step.fixed "init-control-plane"
      [.forNode "kubeadm-init" first.id
        [.kubeadmInit ⟨.creating, (controlPlaneConfig c first).toUTF8⟩]]).withPolicy (.strict true)
  let masters := Step.built "join-control-plane" (joinMasters first.id)
  let workers :=
    (Step.built "join-workers" fun data c _ =>
      joinWorkers data c (c.workers.map Machine.id)).withPolicy .minority
  return preparation ++ balancerSteps c c.machines ++ [start, masters, workers]

/-- Adds workers to a running cluster. -/
def addWorkers (c : Cluster) (machines : List Machine) : Except EngineError (List Step) := do
  match machines.find? fun m => m.role = .master with
  | some m => .error (.invalidRequest (m.id ++ " is a master node"))
  | none => pure ()
  let first ← firstMaster c
  let preparation :=
    [perMachine "bootstrap" machines fun _ => [bootstrap],
      perMachine "rename" machines fun m => [rename m],
      (perMachine "hosts" c.machines fun _ => [hosts c]).skippingUnreachable,
      perMachine "container-runtime" machines fun _ => [runtime c .creating]]
  let token :=
    (Step.fixed "print-join-token"
      [.forNode "print-join-token" first.id
        [.printJoinToken ⟨.creating, none, none⟩]]).withPolicy (.strict false)
  let workers := Step.built "join-workers" fun data c _ =>
    joinWorkers data c (machines.map Machine.id)
  return preparation ++ balancerSteps c machines ++ [token, workers]

/-- The commands that take one machine out of a running cluster. -/
def drainCommands (m : Machine) : List String :=
  ["kubectl drain " ++ m.name
      ++ " --ignore-daemonsets --delete-emptydir-data --force --timeout=120s",
    "kubectl delete node " ++ m.name]

/-- Takes machines out of a running cluster: a master that stays drains them, then they are reset. -/
def removeNodes (c : Cluster) (machines : List Machine) : List Step :=
  let drain := match c.masters.find? fun m => (machines.map Machine.id).contains m.id = false with
    | some survivor =>
      [(Step.fixed "drain"
        [.forNode "drain" survivor.id
          [.runCommand ⟨.creating, machines.flatMap drainCommands, true⟩]]).skippingUnreachable]
    | none => []
  drain ++ [((perMachine "reset-nodes" machines fun m => [destroy m]).skippingUnreachable).withPolicy
    .minority]

/-- Takes a whole cluster down. -/
def destroyCluster (c : Cluster) : List Step :=
  [(perMachine "reset-nodes" c.machines fun m =>
      destroy m :: (if c.spec.lbEnabled then [loadBalancer c .deleting] else [])).skippingUnreachable,
    (perMachine "remove-runtime" c.machines fun _ => [runtime c .deleting]).skippingUnreachable]

/-- The steps that carry out a request. -/
def ofRequest (r : OperationRequest) : Except EngineError (List Step) :=
  match r.type with
  | .createCluster => createCluster r.cluster
  | .addWorkers => do addWorkers r.cluster (← targets r.cluster r.parameters)
  | .removeNodes => do return removeNodes r.cluster (← targets r.cluster r.parameters)
  | .destroyCluster => .ok (destroyCluster r.cluster)
  | .deployAddons => .error (.noPlan "deploy-addons")
  | .upgrade => .error (.noPlan "upgrade")

end Muster.Plan
