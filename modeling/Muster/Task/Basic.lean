import Muster.Bytes
import Muster.Cluster

/-!
# Tasks

A `Task` is one thing that an agent does on its machine. Every task carries a `TaskMeta`: whether it
creates or deletes, and how many seconds it may take. The kind of a task fixes the shape of its
payload, its name on the wire, and whether the agent replies when it is done or detaches it.
-/

set_option autoImplicit false

namespace Muster

/-- Whether a task sets something up or takes it away. -/
inductive Action where
  | create
  | delete
  deriving DecidableEq, Repr, Inhabited

/-- What every task carries. -/
structure TaskMeta where
  action : Action
  /-- The seconds that the task may take; 0 for any time. -/
  timeoutSeconds : UInt32
  deriving DecidableEq, Repr, Inhabited

namespace TaskMeta

/-- A task that sets something up and may take any time. -/
def creating : TaskMeta := ⟨.create, 0⟩

/-- A task that takes something away and may take any time. -/
def deleting : TaskMeta := ⟨.delete, 0⟩

/-- The milliseconds that the task may take, if they are limited. -/
def timeout? (m : TaskMeta) : Option Nat :=
  if m.timeoutSeconds = 0 then none else some (m.timeoutSeconds.toNat * 1000)

end TaskMeta

/-- The container runtimes. -/
inductive CriKind where
  | containerd
  | docker
  | crio
  deriving DecidableEq, Repr, Inhabited

namespace CriKind

/-- The system service of a container runtime, which is also its wire name. -/
def service : CriKind → String
  | .containerd => "containerd"
  | .docker => "docker"
  | .crio => "crio"

/-- The container runtime of a name. -/
def ofName? (name : String) : Option CriKind :=
  if name = "containerd" then some .containerd
  else if name = "docker" then some .docker
  else if name = "crio" ∨ name = "cri-o" then some .crio
  else none

end CriKind

namespace Task

/-- Prepares a fresh machine. -/
structure Bootstrap where
  info : TaskMeta
  kernelModules : List String
  sysctl : Dict String
  packages : List String
  deriving DecidableEq, Repr

/-- Gives a machine its host name. -/
structure Rename where
  info : TaskMeta
  hostname : String
  deriving DecidableEq, Repr

/-- A container runtime as it is to be installed. -/
structure Runtime where
  kind : CriKind
  version : String
  /-- Whether a running one is removed first. -/
  reinstall : Bool
  dataRoot : Option String
  deriving DecidableEq, Repr

/-- Installs or removes a container runtime. -/
structure Cri where
  info : TaskMeta
  runtime : Runtime
  deriving DecidableEq, Repr

/-- Installs or removes the load balancer in front of the masters. -/
structure LoadBalancer where
  info : TaskMeta
  config : ByteArray
  vip : String
  port : UInt16
  deriving DecidableEq

/-- Starts the control plane on its first master. -/
structure KubeadmInit where
  info : TaskMeta
  config : ByteArray
  deriving DecidableEq

/-- Joins another master. -/
structure JoinControlPlane where
  info : TaskMeta
  joinCommand : String
  deriving DecidableEq, Repr

/-- Joins a worker through an endpoint on the worker itself. -/
structure JoinWorker where
  info : TaskMeta
  joinCommand : String
  localEndpoint : String
  deriving DecidableEq, Repr

/-- Takes a machine out of its cluster. -/
structure KubeadmDestroy where
  info : TaskMeta
  role : Role
  deriving DecidableEq, Repr

/-- Runs shell commands in order. -/
structure RunCommand where
  info : TaskMeta
  commands : List String
  /-- Whether a failure is recorded instead of ending the task. -/
  ignoreErrors : Bool
  deriving DecidableEq, Repr

/-- Writes files by absolute path. -/
structure WriteFiles where
  info : TaskMeta
  files : Dict String
  mode : Option UInt32
  deriving DecidableEq, Repr

/-- Fetches packages without installing them. -/
structure DownloadDeps where
  info : TaskMeta
  packages : List String
  targetDir : Option String
  deriving DecidableEq, Repr

/-- Installs or removes a virtual kubelet. -/
structure VirtualKubelet where
  info : TaskMeta
  provider : String
  image : String
  deriving DecidableEq, Repr

/-- Prints a command that workers join with. -/
structure PrintJoinToken where
  info : TaskMeta
  ttl : Option String
  localEndpoint : Option String
  deriving DecidableEq, Repr

/-- A symbolic link. -/
structure Symlink where
  link : String
  target : String
  deriving DecidableEq, Repr

/-- Creates symbolic links. -/
structure Symlinks where
  info : TaskMeta
  links : List Symlink
  deriving DecidableEq, Repr

/-- Probes a URL. -/
structure Curl where
  info : TaskMeta
  url : String
  expectStatus : UInt16
  deriving DecidableEq, Repr

/-- Writes a cluster configuration document. -/
structure ClusterConfig where
  info : TaskMeta
  clusterName : String
  kubernetesVersion : String
  apiEndpoint : String
  podCidr : String
  serviceCidr : String
  outputPath : String
  deriving DecidableEq, Repr

/-- Configures the log shipper. -/
structure LogShipper where
  info : TaskMeta
  config : ByteArray
  destination : String
  deriving DecidableEq

/-- Pulls container images ahead of time. -/
structure PreloadImages where
  info : TaskMeta
  images : List String
  deriving DecidableEq, Repr

/-- An address and the names it goes by. -/
structure HostEntry where
  ip : String
  names : List String
  deriving DecidableEq, Repr

/-- Sets the managed part of the hosts file. -/
structure Hosts where
  info : TaskMeta
  entries : List HostEntry
  deriving DecidableEq, Repr

end Task

/-- One thing that an agent does on its machine. -/
inductive Task where
  | bootstrap (payload : Task.Bootstrap)
  | rename (payload : Task.Rename)
  | cri (payload : Task.Cri)
  | loadBalancer (payload : Task.LoadBalancer)
  | kubeadmInit (payload : Task.KubeadmInit)
  | joinControlPlane (payload : Task.JoinControlPlane)
  | joinWorker (payload : Task.JoinWorker)
  | kubeadmDestroy (payload : Task.KubeadmDestroy)
  | runCommand (payload : Task.RunCommand)
  | asyncRunCommand (payload : Task.RunCommand)
  | writeFiles (payload : Task.WriteFiles)
  | downloadDeps (payload : Task.DownloadDeps)
  | asyncDownloadDeps (payload : Task.DownloadDeps)
  | virtualKubelet (payload : Task.VirtualKubelet)
  | printJoinToken (payload : Task.PrintJoinToken)
  | symlinks (payload : Task.Symlinks)
  | curl (payload : Task.Curl)
  | clusterConfig (payload : Task.ClusterConfig)
  | logShipper (payload : Task.LogShipper)
  | preloadImages (payload : Task.PreloadImages)
  | hosts (payload : Task.Hosts)
  deriving DecidableEq

/-- The kinds of tasks. -/
inductive TaskKind where
  | bootstrap
  | rename
  | cri
  | loadBalancer
  | kubeadmInit
  | joinControlPlane
  | joinWorker
  | kubeadmDestroy
  | runCommand
  | asyncRunCommand
  | writeFiles
  | downloadDeps
  | asyncDownloadDeps
  | virtualKubelet
  | printJoinToken
  | symlinks
  | curl
  | clusterConfig
  | logShipper
  | preloadImages
  | hosts
  deriving DecidableEq, Repr

/-- How an agent runs a task. -/
inductive Execution where
  /-- The reply is sent to whoever asked, once the task is done. -/
  | sync
  /-- The task runs on its own and its reply goes to the shared reply subject. -/
  | detached
  deriving DecidableEq, Repr

namespace TaskKind

/-- Every kind, in the order of the registry. -/
def all : List TaskKind :=
  [.bootstrap, .rename, .cri, .loadBalancer, .kubeadmInit, .joinControlPlane, .joinWorker,
    .kubeadmDestroy, .runCommand, .asyncRunCommand, .writeFiles, .downloadDeps, .asyncDownloadDeps,
    .virtualKubelet, .printJoinToken, .symlinks, .curl, .clusterConfig, .logShipper, .preloadImages,
    .hosts]

/-- The wire name of a kind. -/
def name : TaskKind → String
  | .bootstrap => "bootstrap"
  | .rename => "rename"
  | .cri => "cri"
  | .loadBalancer => "load_balancer"
  | .kubeadmInit => "kubeadm_init"
  | .joinControlPlane => "join_control_plane"
  | .joinWorker => "join_worker"
  | .kubeadmDestroy => "kubeadm_destroy"
  | .runCommand => "run_command"
  | .asyncRunCommand => "async_run_command"
  | .writeFiles => "write_files"
  | .downloadDeps => "download_deps"
  | .asyncDownloadDeps => "async_download_deps"
  | .virtualKubelet => "virtual_kubelet"
  | .printJoinToken => "print_join_token"
  | .symlinks => "symlinks"
  | .curl => "curl"
  | .clusterConfig => "cluster_config"
  | .logShipper => "log_shipper"
  | .preloadImages => "preload_images"
  | .hosts => "hosts"

/-- The kind of a wire name. -/
def ofName? (name : String) : Option TaskKind := all.find? fun kind => kind.name = name

/-- How an agent runs tasks of a kind. -/
def execution : TaskKind → Execution
  | .asyncRunCommand => .detached
  | .asyncDownloadDeps => .detached
  | _ => .sync

end TaskKind

namespace Task

/-- The kind of a task. -/
def kind : Task → TaskKind
  | .bootstrap _ => .bootstrap
  | .rename _ => .rename
  | .cri _ => .cri
  | .loadBalancer _ => .loadBalancer
  | .kubeadmInit _ => .kubeadmInit
  | .joinControlPlane _ => .joinControlPlane
  | .joinWorker _ => .joinWorker
  | .kubeadmDestroy _ => .kubeadmDestroy
  | .runCommand _ => .runCommand
  | .asyncRunCommand _ => .asyncRunCommand
  | .writeFiles _ => .writeFiles
  | .downloadDeps _ => .downloadDeps
  | .asyncDownloadDeps _ => .asyncDownloadDeps
  | .virtualKubelet _ => .virtualKubelet
  | .printJoinToken _ => .printJoinToken
  | .symlinks _ => .symlinks
  | .curl _ => .curl
  | .clusterConfig _ => .clusterConfig
  | .logShipper _ => .logShipper
  | .preloadImages _ => .preloadImages
  | .hosts _ => .hosts

/-- The wire name of a task's kind. -/
def type (t : Task) : String := t.kind.name

/-- What every task carries. -/
def info : Task → TaskMeta
  | .bootstrap t => t.info
  | .rename t => t.info
  | .cri t => t.info
  | .loadBalancer t => t.info
  | .kubeadmInit t => t.info
  | .joinControlPlane t => t.info
  | .joinWorker t => t.info
  | .kubeadmDestroy t => t.info
  | .runCommand t => t.info
  | .asyncRunCommand t => t.info
  | .writeFiles t => t.info
  | .downloadDeps t => t.info
  | .asyncDownloadDeps t => t.info
  | .virtualKubelet t => t.info
  | .printJoinToken t => t.info
  | .symlinks t => t.info
  | .curl t => t.info
  | .clusterConfig t => t.info
  | .logShipper t => t.info
  | .preloadImages t => t.info
  | .hosts t => t.info

/-- How an agent runs the task. -/
def execution (t : Task) : Execution := t.kind.execution

end Task

end Muster
