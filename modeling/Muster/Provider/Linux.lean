import Muster.Operation
import Muster.Provider.Kubeadm
import Muster.Provider.Platform
import Muster.ReturnKey
import Muster.Task.Wire

/-!
# Tasks on Linux machines

What each task does on a machine of a supported platform. Platforms differ in their package manager
and their firewall only; everything else is a sequence of commands and a few files below `root`.
-/

set_option autoImplicit false

namespace Muster

/-- What a task may look at besides its payload. -/
structure TaskContext where
  nodeId : String
  cluster : Cluster
  resourceServerUrl : String
  returnData : ReturnData
  /-- The agent's directory for its own files. -/
  workDir : String
  deriving DecidableEq

/-- The name of the machine in its cluster, or its id when the cluster does not know it. -/
def TaskContext.nodeName (c : TaskContext) : String :=
  match c.cluster.machine? c.nodeId with
  | some machine => machine.name
  | none => c.nodeId

/-- A machine of a supported platform, and how commands are run on it. -/
structure Linux where
  platform : Platform
  packages : PackageManager
  retry : Kubeadm.RetryPolicy
  /-- The milliseconds that a command may take, if they are limited. -/
  commandTimeout : Option Nat
  /-- The directory that files are written below. -/
  root : String
  deriving DecidableEq, Repr

namespace Linux

/-- The configuration of the load balancer. -/
def haproxyConfig : String := "/etc/haproxy/haproxy.cfg"

/-- What a control plane is started from. -/
def kubeadmInitConfig : String := "/etc/fleet/kubeadm-init.yaml"

/-- The service definition of the virtual kubelet. -/
def virtualKubeletUnit : String := "/etc/systemd/system/virtual-kubelet.service"

/-- The kernel modules that are loaded at boot. -/
def modulesConfig : String := "/etc/modules-load.d/fleet.conf"

/-- The kernel settings that are made at boot. -/
def sysctlConfig : String := "/etc/sysctl.d/99-fleet.conf"

/-- The names of other machines. -/
def hostsFile : String := "/etc/hosts"

/-- The configuration of containerd. -/
def containerdConfigFile : String := "/etc/containerd/config.toml"

/-- The configuration of docker. -/
def dockerConfig : String := "/etc/docker/daemon.json"

/-- The line in front of the managed part of the hosts file. -/
def hostsBegin : String := "# BEGIN fleet managed hosts"

/-- The line behind the managed part of the hosts file. -/
def hostsEnd : String := "# END fleet managed hosts"

/-- Where a file of the machine stands below the root directory. -/
def hostPath (l : Linux) (path : String) : String := Path.join l.root (Text.trimStartOf '/' path)

/-- Runs a command that has to end with code 0. -/
def sh (l : Linux) (command : String) : Procedure CommandOutput :=
  Procedure.runChecked command l.commandTimeout

/-- Runs a command that may fail. -/
def shLenient (l : Linux) (command : String) : Procedure Unit :=
  Procedure.runAnyway command l.commandTimeout

/-- Writes a file of the machine. -/
def writeFile (l : Linux) (path : String) (data : ByteArray) (mode : Option UInt32) :
    Procedure Unit := do
  let _ ← Procedure.file path (.write (l.hostPath path) data mode)
  return ()

/-- Removes a file of the machine, if it is there. -/
def removeFile (l : Linux) (path : String) : Procedure Unit := do
  let _ ← Procedure.file path (.remove (l.hostPath path))
  return ()

/-- The package of a container runtime. -/
def criPackage (l : Linux) (kind : CriKind) : String :=
  match kind, l.packages with
  | .containerd, .apt => "containerd"
  | .containerd, _ => "containerd.io"
  | .docker, .apt => "docker.io"
  | .docker, _ => "docker-ce"
  | .crio, _ => "cri-o"

/-- Where a container runtime keeps its data unless it is told otherwise. -/
def defaultDataRoot : CriKind → String
  | .containerd => "/var/lib/containerd"
  | .docker => "/var/lib/docker"
  | .crio => "/var/lib/containers"

/-- Removes a container runtime and its data. -/
def uninstallRuntime (l : Linux) (runtime : Task.Runtime) : Procedure Unit := do
  l.shLenient ("systemctl disable --now " ++ runtime.kind.service)
  let _ ← l.sh (l.packages.remove [l.criPackage runtime.kind])
  let dataRoot := runtime.dataRoot.getD (defaultDataRoot runtime.kind)
  let _ ← l.sh ("rm -rf " ++ Shell.quote dataRoot)
  return ()

/-- One line of the containerd configuration: the system's cgroup driver and, if one is given, the
data directory. -/
def containerdLine (dataRoot : Option String) (line : String) : String :=
  let trimmed := Text.trimStart line
  if Text.startsWith "SystemdCgroup = " trimmed then
    String.ofList (line.toList.takeWhile Text.isBlank) ++ "SystemdCgroup = true"
  else
    match dataRoot with
    | some root =>
      if Text.startsWith "root = " line then "root = " ++ Text.quoted root else line
    | none => line

/-- The containerd configuration, from the one that containerd prints. -/
def containerdConfig (defaults : String) (dataRoot : Option String) : String :=
  String.join ((Text.lines defaults).map fun line => containerdLine dataRoot line ++ "\n")

/-- The docker configuration. -/
def dockerDaemon (dataRoot : Option String) : Json :=
  let driver := ("exec-opts", Json.arr [.str "native.cgroupdriver=systemd"])
  match dataRoot with
  | some root => .obj [("data-root", .str root), driver]
  | none => .obj [driver]

/-- Writes the configuration of a container runtime that has just been installed. -/
def configureRuntime (l : Linux) (runtime : Task.Runtime) : Procedure Unit :=
  match runtime.kind with
  | .containerd => do
    let defaults ← l.sh "containerd config default"
    l.writeFile containerdConfigFile (containerdConfig defaults.stdout runtime.dataRoot).toUTF8 none
  | .docker => l.writeFile dockerConfig (dockerDaemon runtime.dataRoot).compact.toUTF8 none
  | .crio => return ()

/-- Runs a kubeadm command, again after a reset if it fails. -/
def kubeadmWithRetry (l : Linux) (command : String) : Procedure (CommandOutput × Nat) :=
  Kubeadm.retry l.retry (l.sh command)

/-- The command that pulls an image. -/
def pullCommand (kind : CriKind) (image : String) : String :=
  match kind with
  | .containerd => "ctr -n k8s.io images pull " ++ Shell.quote image
  | .docker => "docker pull " ++ Shell.quote image
  | .crio => "crictl pull " ++ Shell.quote image

/-- The container runtime of a cluster. -/
def runtimeOf (c : Cluster) : CriKind := (CriKind.ofName? c.spec.cri).getD .containerd

/-- Runs commands one after the other; each has to end with code 0. -/
def shAll (l : Linux) : List String → Procedure Unit
  | [] => return ()
  | command :: rest => do
    let _ ← l.sh command
    l.shAll rest

/-- Prepares a fresh machine. -/
def bootstrap (l : Linux) (t : Task.Bootstrap) : Procedure ReturnData := do
  let _ ← l.sh "swapoff -a"
  let _ ← l.sh "sed -ri '/\\sswap\\s/s/^#?/#/' /etc/fstab"
  match l.packages with
  | .apt => l.shLenient "systemctl disable --now ufw"
  | _ =>
    l.shLenient "systemctl disable --now firewalld"
    l.shLenient "setenforce 0"
  if !t.kernelModules.isEmpty then
    l.writeFile modulesConfig (Text.join "\n" t.kernelModules ++ "\n").toUTF8 none
    l.shAll (t.kernelModules.map fun module => "modprobe " ++ Shell.quote module)
  if !t.sysctl.isEmpty then
    let conf := String.join (t.sysctl.toList.map fun (k, v) => k ++ " = " ++ v ++ "\n")
    l.writeFile sysctlConfig conf.toUTF8 none
    let _ ← l.sh "sysctl --system"
  if !t.packages.isEmpty then
    let _ ← l.sh (l.packages.install t.packages)
  return .single "bootstrap.modules" (Text.decimal t.kernelModules.length)

/-- Gives a machine its host name. -/
def rename (l : Linux) (t : Task.Rename) : Procedure ReturnData := do
  if (Text.trim t.hostname).isEmpty then
    Procedure.fail (.invalidTask "empty hostname")
  else
    let _ ← l.sh ("hostnamectl set-hostname " ++ Shell.quote t.hostname)
    return .single ReturnKey.hostname t.hostname

/-- What installing a container runtime reports. -/
def criReport (skipped service : String) : ReturnData :=
  .ofList [(ReturnKey.criSkipped, skipped), (ReturnKey.criRuntime, service)]

/-- Installs a container runtime, unless it runs already and is not to be installed anew. -/
def installCri (l : Linux) (t : Task.Cri) : Procedure ReturnData := do
  let runtime := t.runtime
  let service := runtime.kind.service
  let probe ← Procedure.run ("systemctl is-active --quiet " ++ service) l.commandTimeout
  if probe.success && !runtime.reinstall then
    return criReport "true" service
  else
    if probe.success then
      l.uninstallRuntime runtime
    let package := l.packages.pinned (l.criPackage runtime.kind) runtime.version
    let _ ← l.sh (l.packages.install [package])
    l.configureRuntime runtime
    let _ ← l.sh ("systemctl daemon-reload && systemctl enable --now " ++ service)
    return criReport "false" service

/-- Removes a container runtime. -/
def removeCri (l : Linux) (t : Task.Cri) : Procedure ReturnData := do
  l.uninstallRuntime t.runtime
  return .single ReturnKey.criRuntime t.runtime.kind.service

/-- Installs the load balancer. -/
def installLoadBalancer (l : Linux) (t : Task.LoadBalancer) : Procedure ReturnData := do
  let _ ← l.sh (l.packages.install ["haproxy"])
  if !t.config.isEmpty then
    l.writeFile haproxyConfig t.config none
  let _ ← l.sh "systemctl enable haproxy && systemctl restart haproxy"
  return .single "lb.port" (Text.decimal t.port.toNat)

/-- Removes the load balancer. -/
def removeLoadBalancer (l : Linux) : Procedure ReturnData := do
  l.shLenient "systemctl disable --now haproxy"
  let _ ← l.sh (l.packages.remove ["haproxy"])
  l.removeFile haproxyConfig
  return .empty

/-- The command that gives the machine's administrator access to the cluster. -/
def adminAccess : String :=
  "mkdir -p /root/.kube && cp -f /etc/kubernetes/admin.conf /root/.kube/config"

/-- The command that prints a join command for workers. -/
def printJoinCommand : String := "kubeadm token create --print-join-command"

/-- Starts the control plane on its first master. -/
def kubeadmInit (l : Linux) (t : Task.KubeadmInit) : Procedure ReturnData := do
  l.writeFile kubeadmInitConfig t.config (some 0o600)
  let command := "kubeadm init --config " ++ l.hostPath kubeadmInitConfig ++ " --upload-certs"
  let (output, attempts) ← l.kubeadmWithRetry command
  let _ ← l.sh adminAccess
  let joins := Kubeadm.JoinCommands.parse output.stdout
  let worker ← match joins.worker with
    | some command => pure command
    | none => do
      let printed ← l.sh printJoinCommand
      pure (Kubeadm.normalize printed.stdout)
  let result := Dict.ofList
    [(ReturnKey.joinWorker, worker), (ReturnKey.kubeadmAttempts, Text.decimal attempts)]
  return match joins.controlPlane with
    | some command => result.insert ReturnKey.joinControlPlane command
    | none => result

/-- Joins another master. -/
def joinControlPlane (l : Linux) (t : Task.JoinControlPlane) : Procedure ReturnData := do
  let command := Kubeadm.normalize t.joinCommand
  if command.isEmpty then
    Procedure.fail (.invalidTask "empty join command")
  else
    let (_, attempts) ← l.kubeadmWithRetry command
    let _ ← l.sh adminAccess
    return .single ReturnKey.kubeadmAttempts (Text.decimal attempts)

/-- Joins a worker. -/
def joinWorker (l : Linux) (t : Task.JoinWorker) : Procedure ReturnData := do
  let command := Kubeadm.normalize t.joinCommand
  if command.isEmpty then
    Procedure.fail (.invalidTask "empty join command")
  else
    let command :=
      if t.localEndpoint.isEmpty then command else Kubeadm.rewriteEndpoint command t.localEndpoint
    let (_, attempts) ← l.kubeadmWithRetry command
    return .single ReturnKey.kubeadmAttempts (Text.decimal attempts)

/-- Takes a machine out of its cluster. -/
def kubeadmDestroy (l : Linux) (t : Task.KubeadmDestroy) : Procedure ReturnData := do
  l.shLenient "kubeadm reset -f"
  l.shLenient "ipvsadm --clear"
  l.shLenient "iptables -F && iptables -t nat -F"
  let _ ← l.sh "rm -rf /etc/cni/net.d /root/.kube"
  if t.role = .master then
    let _ ← l.sh "rm -rf /var/lib/etcd"
  return .single "kubeadm.reset" "true"

/-- Runs commands from a position on and adds to what they returned so far. -/
def runCommands (l : Linux) (ignoreErrors : Bool) (result : ReturnData) (index : Nat) :
    List String → Procedure ReturnData
  | [] => return result
  | command :: rest => do
    match ← (l.sh command).attempt with
    | .ok output =>
      let result := result.insert (ReturnKey.commandStdout index) (Text.trim output.stdout)
      l.runCommands ignoreErrors result (index + 1) rest
    | .error e =>
      if ignoreErrors then
        l.runCommands ignoreErrors (result.insert (ReturnKey.commandError index) e.message)
          (index + 1) rest
      else Procedure.fail e

/-- Runs shell commands in order. -/
def runCommand (l : Linux) (t : Task.RunCommand) : Procedure ReturnData :=
  l.runCommands t.ignoreErrors .empty 0 t.commands

/-- Writes files one after the other. -/
def writeEach (l : Linux) (mode : Option UInt32) : List (String × String) → Procedure Unit
  | [] => return ()
  | (path, contents) :: rest => do
    l.writeFile path contents.toUTF8 mode
    l.writeEach mode rest

/-- Writes files by absolute path. -/
def writeFiles (l : Linux) (t : Task.WriteFiles) : Procedure ReturnData := do
  l.writeEach t.mode t.files.toList
  return .single "files.written" (Text.decimal t.files.size)

/-- The command that fetches a package: from the artifact server if there is one. -/
def fetchCommand (l : Linux) (base directory package : String) : String :=
  if base.isEmpty then l.packages.download package directory
  else
    "curl -fsSL -o " ++ Shell.quote (directory ++ "/" ++ package) ++ " " ++
      Shell.quote (base ++ "/packages/" ++ package)

/-- Fetches packages without installing them. -/
def downloadDeps (l : Linux) (c : TaskContext) (t : Task.DownloadDeps) : Procedure ReturnData := do
  let directory := t.targetDir.getD (Path.join c.workDir "deps")
  let _ ← l.sh ("mkdir -p " ++ Shell.quote directory)
  let base := Text.trimEndOf '/' c.resourceServerUrl
  l.shAll (t.packages.map (l.fetchCommand base directory))
  return .ofList [("deps.dir", directory), ("deps.count", Text.decimal t.packages.length)]

/-- The service definition of a virtual kubelet. -/
def virtualKubeletService (provider node : String) : String :=
  "[Unit]\n" ++
  "Description=virtual-kubelet (" ++ provider ++ ")\n" ++
  "After=network-online.target\n\n" ++
  "[Service]\n" ++
  "ExecStart=/usr/local/bin/virtual-kubelet --provider " ++ provider ++ " --nodename " ++ node ++ "\n" ++
  "Restart=always\n\n" ++
  "[Install]\n" ++
  "WantedBy=multi-user.target\n"

/-- Installs a virtual kubelet. -/
def installVirtualKubelet (l : Linux) (c : TaskContext) (t : Task.VirtualKubelet) :
    Procedure ReturnData := do
  let _ ← l.sh (pullCommand (runtimeOf c.cluster) t.image)
  l.writeFile virtualKubeletUnit (virtualKubeletService t.provider c.nodeName).toUTF8 (some 0o644)
  let _ ← l.sh "systemctl daemon-reload && systemctl enable --now virtual-kubelet"
  return .single "virtual_kubelet.provider" t.provider

/-- Removes a virtual kubelet. -/
def removeVirtualKubelet (l : Linux) : Procedure ReturnData := do
  l.shLenient "systemctl disable --now virtual-kubelet"
  l.removeFile virtualKubeletUnit
  let _ ← l.sh "systemctl daemon-reload"
  return .empty

/-- Prints a command that workers join with. -/
def printJoinToken (l : Linux) (t : Task.PrintJoinToken) : Procedure ReturnData := do
  let command := match t.ttl with
    | some ttl => printJoinCommand ++ " --ttl " ++ Shell.quote ttl
    | none => printJoinCommand
  let output ← l.sh command
  let join := Kubeadm.normalize output.stdout
  if join.isEmpty then
    Procedure.fail (.commandFailed command output.code "no join command printed")
  else
    let join := match t.localEndpoint with
      | some endpoint => Kubeadm.rewriteEndpoint join endpoint
      | none => join
    return .single ReturnKey.joinWorker join

/-- Creates symbolic links one after the other. -/
def linkEach (l : Linux) : List Task.Symlink → Procedure Unit
  | [] => return ()
  | s :: rest => do
    let _ ← Procedure.file s.link (.link (l.hostPath s.link) s.target)
    l.linkEach rest

/-- Creates symbolic links. -/
def symlinks (l : Linux) (t : Task.Symlinks) : Procedure ReturnData := do
  l.linkEach t.links
  return .single "symlinks.created" (Text.decimal t.links.length)

/-- Probes a URL. -/
def curl (l : Linux) (t : Task.Curl) : Procedure ReturnData := do
  let command :=
    "curl -sk -o /dev/null -w '%\x7bhttp_code\x7d' --max-time 10 " ++ Shell.quote t.url
  let output ← Procedure.run command l.commandTimeout
  let status := (Text.natOf? 65535 (Text.trim output.stdout)).getD 0
  if status = t.expectStatus.toNat then
    return .single ReturnKey.curlStatus (Text.decimal status)
  else
    Procedure.fail (.commandFailed command output.code
      ("expected HTTP " ++ Text.decimal t.expectStatus.toNat ++ ", got " ++ Text.decimal status))

/-- Writes a cluster configuration document. -/
def clusterConfig (l : Linux) (t : Task.ClusterConfig) : Procedure ReturnData := do
  let document := Kubeadm.clusterConfiguration t.clusterName t.kubernetesVersion t.apiEndpoint
    t.podCidr t.serviceCidr
  l.writeFile t.outputPath document.toUTF8 (some 0o600)
  return .single ReturnKey.clusterConfigPath t.outputPath

/-- Configures the log shipper. -/
def logShipper (l : Linux) (t : Task.LogShipper) : Procedure ReturnData := do
  l.writeFile t.destination t.config (some 0o644)
  let _ ← l.sh "systemctl enable fluent-bit && systemctl restart fluent-bit"
  return .single "log_shipper.config" t.destination

/-- Pulls container images ahead of time. -/
def preloadImages (l : Linux) (c : TaskContext) (t : Task.PreloadImages) : Procedure ReturnData := do
  l.shAll (t.images.map (pullCommand (runtimeOf c.cluster)))
  return .single "images.pulled" (Text.decimal t.images.length)

/-- The lines of a hosts file that nobody manages; `managed` holds between the two markers. -/
def unmanagedLines (managed : Bool) : List String → List String
  | [] => []
  | line :: rest =>
    let marker := Text.trim line
    if marker = hostsBegin then unmanagedLines true rest
    else if marker = hostsEnd then unmanagedLines false rest
    else if managed then unmanagedLines managed rest
    else line :: unmanagedLines managed rest

/-- An entry of the hosts file. -/
def hostsLine (e : Task.HostEntry) : String := e.ip ++ "\t" ++ Text.join " " e.names

/-- A hosts file with the managed part set to some entries. -/
def editedHosts (existing : String) (entries : List Task.HostEntry) : String :=
  let lines := unmanagedLines false (Text.lines existing) ++ [hostsBegin] ++ entries.map hostsLine
    ++ [hostsEnd]
  String.join (lines.map fun line => line ++ "\n")

/-- Sets the managed part of the hosts file. -/
def hosts (l : Linux) (t : Task.Hosts) : Procedure ReturnData := do
  let existing ← match ← Procedure.readText (l.hostPath hostsFile) with
    | .ok text => pure text
    | .error .notFound => pure ""
    | .error e => Procedure.fail (.io hostsFile e.message)
  l.writeFile hostsFile (editedHosts existing t.entries).toUTF8 none
  return .single "hosts.entries" (Text.decimal t.entries.length)

end Linux

end Muster
