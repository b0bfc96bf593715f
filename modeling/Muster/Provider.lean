import Muster.Provider.Linux

/-!
# Who does tasks on a machine

A `Provider` is chosen by the platform of the machine. A platform under trial has one that does
nothing yet and says so. `Provider.invoke` leads each task to the operation that does it; some tasks
have one operation for creating and one for deleting.
-/

set_option autoImplicit false

namespace Muster

/-- The operations on a machine. -/
inductive HostOperation where
  | bootstrapNode
  | renameNode
  | installCri
  | removeCri
  | installLoadBalancer
  | removeLoadBalancer
  | kubeadmInit
  | joinControlPlane
  | joinWorker
  | kubeadmDestroy
  | runCommand
  | writeFiles
  | downloadDeps
  | installVirtualKubelet
  | removeVirtualKubelet
  | printJoinToken
  | createSymlinks
  | curlProbe
  | generateClusterConfig
  | configureLogShipper
  | preloadImages
  | editHosts
  deriving DecidableEq, Repr

/-- The name of an operation in messages. -/
def HostOperation.name : HostOperation → String
  | .bootstrapNode => "bootstrap_node"
  | .renameNode => "rename_node"
  | .installCri => "install_cri"
  | .removeCri => "remove_cri"
  | .installLoadBalancer => "install_load_balancer"
  | .removeLoadBalancer => "remove_load_balancer"
  | .kubeadmInit => "kubeadm_init"
  | .joinControlPlane => "join_control_plane"
  | .joinWorker => "join_worker"
  | .kubeadmDestroy => "kubeadm_destroy"
  | .runCommand => "run_command"
  | .writeFiles => "write_files"
  | .downloadDeps => "download_deps"
  | .installVirtualKubelet => "install_virtual_kubelet"
  | .removeVirtualKubelet => "remove_virtual_kubelet"
  | .printJoinToken => "print_join_token"
  | .createSymlinks => "create_symlinks"
  | .curlProbe => "curl_probe"
  | .generateClusterConfig => "generate_cluster_config"
  | .configureLogShipper => "configure_log_shipper"
  | .preloadImages => "preload_images"
  | .editHosts => "edit_hosts"

/-- The operation that does a task. -/
def Task.operation (t : Task) : HostOperation :=
  let deleting := t.info.action = .delete
  match t with
  | .bootstrap _ => .bootstrapNode
  | .rename _ => .renameNode
  | .cri _ => if deleting then .removeCri else .installCri
  | .loadBalancer _ => if deleting then .removeLoadBalancer else .installLoadBalancer
  | .kubeadmInit _ => .kubeadmInit
  | .joinControlPlane _ => .joinControlPlane
  | .joinWorker _ => .joinWorker
  | .kubeadmDestroy _ => .kubeadmDestroy
  | .runCommand _ => .runCommand
  | .asyncRunCommand _ => .runCommand
  | .writeFiles _ => .writeFiles
  | .downloadDeps _ => .downloadDeps
  | .asyncDownloadDeps _ => .downloadDeps
  | .virtualKubelet _ => if deleting then .removeVirtualKubelet else .installVirtualKubelet
  | .printJoinToken _ => .printJoinToken
  | .symlinks _ => .createSymlinks
  | .curl _ => .curlProbe
  | .clusterConfig _ => .generateClusterConfig
  | .logShipper _ => .configureLogShipper
  | .preloadImages _ => .preloadImages
  | .hosts _ => .editHosts

/-- What a task does on a machine of a supported platform. -/
def Linux.invoke (l : Linux) (c : TaskContext) (t : Task) : Procedure ReturnData :=
  match t with
  | .bootstrap p => l.bootstrap p
  | .rename p => l.rename p
  | .cri p => if p.info.action = .delete then l.removeCri p else l.installCri p
  | .loadBalancer p =>
    if p.info.action = .delete then l.removeLoadBalancer else l.installLoadBalancer p
  | .kubeadmInit p => l.kubeadmInit p
  | .joinControlPlane p => l.joinControlPlane p
  | .joinWorker p => l.joinWorker p
  | .kubeadmDestroy p => l.kubeadmDestroy p
  | .runCommand p => l.runCommand p
  | .asyncRunCommand p => l.runCommand p
  | .writeFiles p => l.writeFiles p
  | .downloadDeps p => l.downloadDeps c p
  | .asyncDownloadDeps p => l.downloadDeps c p
  | .virtualKubelet p =>
    if p.info.action = .delete then l.removeVirtualKubelet else l.installVirtualKubelet c p
  | .printJoinToken p => l.printJoinToken p
  | .symlinks p => l.symlinks p
  | .curl p => l.curl p
  | .clusterConfig p => l.clusterConfig p
  | .logShipper p => l.logShipper p
  | .preloadImages p => l.preloadImages c p
  | .hosts p => l.hosts p

/-- Who does tasks on a machine. -/
inductive Provider where
  | linux (l : Linux)
  /-- The platform is known and no operation is done on it yet. -/
  | unimplemented (platform : Platform)
  deriving DecidableEq, Repr

namespace Provider

/-- The platform of the machine. -/
def platform : Provider → Platform
  | .linux l => l.platform
  | .unimplemented p => p

/-- The provider for a platform. -/
def resolve (platform : Platform) (retry : Kubeadm.RetryPolicy) (commandTimeout : Option Nat)
    (root : String) : Except ProviderError Provider :=
  match platform.support? with
  | none => .error (.unsupportedPlatform platform.vendor platform.major)
  | some (.supported packages) =>
    .ok (.linux
      { platform, packages, retry := { retry with attempts := max retry.attempts 1 }, commandTimeout
        root })
  | some .experimental => .ok (.unimplemented platform)

/-- What a task does on the machine. -/
def invoke (p : Provider) (c : TaskContext) (t : Task) : Procedure ReturnData :=
  match p with
  | .linux l => l.invoke c t
  | .unimplemented platform =>
    Procedure.fail (.notImplemented platform.display t.operation.name)

end Provider

end Muster
