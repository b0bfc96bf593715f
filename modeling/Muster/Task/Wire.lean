import Muster.Json.Flattened
import Muster.Task.Basic

/-!
# Tasks on the wire

A task travels as the name of its kind and the bytes of its payload. `Task.encode` writes the
payload, `Task.decode` reads it by the name that came with it.
-/

set_option autoImplicit false

namespace Muster

open Json (Codec Record Reading Mismatch Lexeme Node)

namespace Action

/-- The actions by wire name. -/
def table : List (String × Action) := [("create", .create), ("delete", .delete)]

/-- The wire name of an action. -/
def name : Action → String
  | .create => "create"
  | .delete => "delete"

end Action

namespace CriKind

/-- The container runtimes by wire name. -/
def table : List (String × CriKind) :=
  [("containerd", .containerd), ("docker", .docker), ("crio", .crio)]

/-- Container runtimes on the wire. -/
def codec : Codec CriKind := .choice table service

end CriKind

namespace TaskMeta

/-- The members that every payload begins with. -/
def members (m : TaskMeta) : List (String × Json) :=
  [("action", .str m.action.name), ("timeout_seconds", .nat m.timeoutSeconds.toUInt64)]

/-- What every task carries, as a document of its own. -/
def write (m : TaskMeta) : Json := .obj m.members

/-- Reads what every task carries from the members that a payload set aside, in their order. -/
def gather (action : Option Action) (timeout : Option UInt32) :
    List (Lexeme String × Node) → Reading TaskMeta
  | [] => .ok ⟨action.getD .create, timeout.getD 0⟩
  | (key, node) :: rest => do
    let name ← key.read
    if name = "action" then
      if action.isSome then .error (.duplicate "action")
      else
        let a ← Json.readKeptChoice Action.table node
        gather (some a) timeout rest
    else if name = "timeout_seconds" then
      if timeout.isSome then .error (.duplicate "timeout_seconds")
      else
        let n ← Codec.nat32.read node
        gather action (some n) rest
    else gather action timeout rest

/-- Reads what every task carries from the members that a payload set aside. -/
def read (kept : List (Lexeme String × Node)) : Reading TaskMeta := gather none none kept

end TaskMeta

/-- Why a task or its envelope cannot be read. -/
inductive TaskError where
  /-- No kind of task has this name. -/
  | unknownTaskType (type : String)
  /-- The payload does not fit the kind. -/
  | malformed (type : String) (cause : Mismatch)
  /-- The envelope or reply itself cannot be read. -/
  | envelope (cause : Mismatch)
  deriving DecidableEq, Repr

/-- The wording of a task error. -/
def TaskError.message : TaskError → String
  | .unknownTaskType type => "unknown task type " ++ Text.quoted type
  | .malformed type cause => "malformed " ++ type ++ " payload: " ++ cause.message
  | .envelope cause => "malformed envelope: " ++ cause.message

namespace Task

/-- The codec of a payload of the kind called `kind`. -/
def payload {ρ : Type} (kind : String) (common : ρ → TaskMeta) (own : Record ρ (TaskMeta → ρ)) :
    Codec ρ :=
  own.flattened kind (fun x => (common x).members) TaskMeta.read

namespace Bootstrap

/-- Payloads that prepare a machine. -/
def codec : Codec Bootstrap := payload "BootstrapTask" info <|
  (fun modules sysctl packages common => ⟨common, modules, sysctl, packages⟩)
    <$> .memberOr "kernel_modules" [] (.list .text) kernelModules
    <*> .memberOr "sysctl" .empty (.dict .text) sysctl
    <*> .memberOr "packages" [] (.list .text) packages

end Bootstrap

namespace Rename

/-- Payloads that give a host name. -/
def codec : Codec Rename := payload "RenameTask" info <|
  (fun hostname common => ⟨common, hostname⟩)
    <$> .member "hostname" .text hostname

end Rename

namespace Runtime

/-- Container runtimes as they are to be installed. -/
def codec : Codec Runtime := Record.codec "ContainerRuntime" <|
  Runtime.mk
    <$> .member "kind" CriKind.codec kind
    <*> .memberOr "version" "" .text version
    <*> .memberOr "reinstall" false .bool reinstall
    <*> .memberOr "data_root" none (.option .text) dataRoot

end Runtime

namespace Cri

/-- Payloads about container runtimes. -/
def codec : Codec Cri := payload "CriTask" info <|
  (fun runtime common => ⟨common, runtime⟩)
    <$> .member "runtime" Runtime.codec runtime

end Cri

namespace LoadBalancer

/-- Payloads about load balancers. -/
def codec : Codec LoadBalancer := payload "LoadBalancerTask" info <|
  (fun config vip port common => ⟨common, config, vip, port⟩)
    <$> .memberOr "config" .empty .hex config
    <*> .memberOr "vip" "" .text vip
    <*> .member "port" .nat16 port

end LoadBalancer

namespace KubeadmInit

/-- Payloads that start a control plane. -/
def codec : Codec KubeadmInit := payload "KubeadmInitTask" info <|
  (fun config common => ⟨common, config⟩)
    <$> .member "config" .hex config

end KubeadmInit

namespace JoinControlPlane

/-- Payloads that join a master. -/
def codec : Codec JoinControlPlane := payload "JoinControlPlaneTask" info <|
  (fun command common => ⟨common, command⟩)
    <$> .member "join_command" .text joinCommand

end JoinControlPlane

namespace JoinWorker

/-- Payloads that join a worker. -/
def codec : Codec JoinWorker := payload "JoinWorkerTask" info <|
  (fun command endpoint common => ⟨common, command, endpoint⟩)
    <$> .member "join_command" .text joinCommand
    <*> .member "local_endpoint" .text localEndpoint

end JoinWorker

namespace KubeadmDestroy

/-- Payloads that take a machine out. -/
def codec : Codec KubeadmDestroy := payload "KubeadmDestroyTask" info <|
  (fun role common => ⟨common, role⟩)
    <$> .member "role" Role.codec role

end KubeadmDestroy

namespace RunCommand

/-- Payloads with commands. -/
def codec : Codec RunCommand := payload "RunCommandTask" info <|
  (fun commands ignore common => ⟨common, commands, ignore⟩)
    <$> .member "commands" (.list .text) commands
    <*> .memberOr "ignore_errors" false .bool ignoreErrors

end RunCommand

namespace WriteFiles

/-- Payloads with files. -/
def codec : Codec WriteFiles := payload "WriteFilesTask" info <|
  (fun files mode common => ⟨common, files, mode⟩)
    <$> .member "files" (.dict .text) files
    <*> .memberOr "mode" none (.option .nat32) mode

end WriteFiles

namespace DownloadDeps

/-- Payloads with packages to fetch. -/
def codec : Codec DownloadDeps := payload "DownloadDepsTask" info <|
  (fun packages dir common => ⟨common, packages, dir⟩)
    <$> .member "packages" (.list .text) packages
    <*> .memberOr "target_dir" none (.option .text) targetDir

end DownloadDeps

namespace VirtualKubelet

/-- Payloads about virtual kubelets. -/
def codec : Codec VirtualKubelet := payload "VirtualKubeletTask" info <|
  (fun provider image common => ⟨common, provider, image⟩)
    <$> .member "provider" .text provider
    <*> .member "image" .text image

end VirtualKubelet

namespace PrintJoinToken

/-- Payloads that ask for a join command. -/
def codec : Codec PrintJoinToken := payload "PrintJoinTokenTask" info <|
  (fun ttl endpoint common => ⟨common, ttl, endpoint⟩)
    <$> .memberOr "ttl" none (.option .text) ttl
    <*> .memberOr "local_endpoint" none (.option .text) localEndpoint

end PrintJoinToken

namespace Symlink

/-- Symbolic links. -/
def codec : Codec Symlink := Record.codec "Symlink" <|
  Symlink.mk
    <$> .member "link" .text link
    <*> .member "target" .text target

end Symlink

namespace Symlinks

/-- Payloads with symbolic links. -/
def codec : Codec Symlinks := payload "SymlinksTask" info <|
  (fun links common => ⟨common, links⟩)
    <$> .member "links" (.list Symlink.codec) links

end Symlinks

namespace Curl

/-- Payloads with a URL to probe. -/
def codec : Codec Curl := payload "CurlTask" info <|
  (fun url status common => ⟨common, url, status⟩)
    <$> .member "url" .text url
    <*> .memberOr "expect_status" 200 .nat16 expectStatus

end Curl

namespace ClusterConfig

/-- Payloads for a configuration document. -/
def codec : Codec ClusterConfig := payload "ClusterConfigTask" info <|
  (fun name version endpoint pods services path common =>
      ⟨common, name, version, endpoint, pods, services, path⟩)
    <$> .member "cluster_name" .text clusterName
    <*> .member "kubernetes_version" .text kubernetesVersion
    <*> .member "api_endpoint" .text apiEndpoint
    <*> .member "pod_cidr" .text podCidr
    <*> .member "service_cidr" .text serviceCidr
    <*> .member "output_path" .text outputPath

end ClusterConfig

namespace LogShipper

/-- Payloads for the log shipper. -/
def codec : Codec LogShipper := payload "LogShipperTask" info <|
  (fun config destination common => ⟨common, config, destination⟩)
    <$> .member "config" .hex config
    <*> .member "destination" .text destination

end LogShipper

namespace PreloadImages

/-- Payloads with images to pull. -/
def codec : Codec PreloadImages := payload "PreloadImagesTask" info <|
  (fun images common => ⟨common, images⟩)
    <$> .member "images" (.list .text) images

end PreloadImages

namespace HostEntry

/-- Addresses with their names. -/
def codec : Codec HostEntry := Record.codec "HostEntry" <|
  HostEntry.mk
    <$> .member "ip" .text ip
    <*> .member "names" (.list .text) names

end HostEntry

namespace Hosts

/-- Payloads for the hosts file. -/
def codec : Codec Hosts := payload "HostsTask" info <|
  (fun entries common => ⟨common, entries⟩)
    <$> .member "entries" (.list HostEntry.codec) entries

end Hosts

/-- The payload of a task as a document. -/
def write : Task → Json
  | .bootstrap t => Bootstrap.codec.write t
  | .rename t => Rename.codec.write t
  | .cri t => Cri.codec.write t
  | .loadBalancer t => LoadBalancer.codec.write t
  | .kubeadmInit t => KubeadmInit.codec.write t
  | .joinControlPlane t => JoinControlPlane.codec.write t
  | .joinWorker t => JoinWorker.codec.write t
  | .kubeadmDestroy t => KubeadmDestroy.codec.write t
  | .runCommand t => RunCommand.codec.write t
  | .asyncRunCommand t => RunCommand.codec.write t
  | .writeFiles t => WriteFiles.codec.write t
  | .downloadDeps t => DownloadDeps.codec.write t
  | .asyncDownloadDeps t => DownloadDeps.codec.write t
  | .virtualKubelet t => VirtualKubelet.codec.write t
  | .printJoinToken t => PrintJoinToken.codec.write t
  | .symlinks t => Symlinks.codec.write t
  | .curl t => Curl.codec.write t
  | .clusterConfig t => ClusterConfig.codec.write t
  | .logShipper t => LogShipper.codec.write t
  | .preloadImages t => PreloadImages.codec.write t
  | .hosts t => Hosts.codec.write t

/-- Reads the payload of a task of a kind. -/
def read (kind : TaskKind) (node : Node) : Reading Task :=
  match kind with
  | .bootstrap => (Bootstrap.codec.read node).map .bootstrap
  | .rename => (Rename.codec.read node).map .rename
  | .cri => (Cri.codec.read node).map .cri
  | .loadBalancer => (LoadBalancer.codec.read node).map .loadBalancer
  | .kubeadmInit => (KubeadmInit.codec.read node).map .kubeadmInit
  | .joinControlPlane => (JoinControlPlane.codec.read node).map .joinControlPlane
  | .joinWorker => (JoinWorker.codec.read node).map .joinWorker
  | .kubeadmDestroy => (KubeadmDestroy.codec.read node).map .kubeadmDestroy
  | .runCommand => (RunCommand.codec.read node).map .runCommand
  | .asyncRunCommand => (RunCommand.codec.read node).map .asyncRunCommand
  | .writeFiles => (WriteFiles.codec.read node).map .writeFiles
  | .downloadDeps => (DownloadDeps.codec.read node).map .downloadDeps
  | .asyncDownloadDeps => (DownloadDeps.codec.read node).map .asyncDownloadDeps
  | .virtualKubelet => (VirtualKubelet.codec.read node).map .virtualKubelet
  | .printJoinToken => (PrintJoinToken.codec.read node).map .printJoinToken
  | .symlinks => (Symlinks.codec.read node).map .symlinks
  | .curl => (Curl.codec.read node).map .curl
  | .clusterConfig => (ClusterConfig.codec.read node).map .clusterConfig
  | .logShipper => (LogShipper.codec.read node).map .logShipper
  | .preloadImages => (PreloadImages.codec.read node).map .preloadImages
  | .hosts => (Hosts.codec.read node).map .hosts

/-- The bytes of a task's payload. -/
def encode (t : Task) : ByteArray := t.write.compact.toUTF8

/-- Reads a task by the name of its kind and the bytes of its payload. -/
def decode (type : String) (bytes : ByteArray) : Except TaskError Task :=
  match TaskKind.ofName? type with
  | none => .error (.unknownTaskType type)
  | some kind =>
    match (Json.Document.read bytes).decode (read kind) with
    | .ok task => .ok task
    | .error cause => .error (.malformed type cause)

end Task

end Muster
