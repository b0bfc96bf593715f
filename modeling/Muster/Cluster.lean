import Muster.Json.Record
import Muster.Text.Decimal

/-!
# Clusters and their machines

A `Cluster` is a snapshot: whoever receives one never sees later changes to it. The wire names of
roles and statuses are an external contract.
-/

set_option autoImplicit false

namespace Muster

open Json (Codec Record)

/-- What a machine does in its cluster. -/
inductive Role where
  | master
  | worker
  deriving DecidableEq, Repr, Inhabited

/-- Whether the agent of a machine can be reached, as far as is known. -/
inductive AgentStatus where
  | unknown
  | running
  | unreachable
  deriving DecidableEq, Repr, Inhabited

/-- A machine of a cluster. -/
structure Machine where
  id : String
  name : String
  ip : String
  role : Role
  /-- Membership, as operations record it. -/
  status : String
  agentStatus : AgentStatus
  deriving DecidableEq, Repr, Inhabited

/-- How a cluster is set up. -/
structure ClusterSpec where
  /-- The container runtime, by name. -/
  cri : String
  criVersion : String
  /-- The address of the control plane; when empty, that of the first master. -/
  apiVip : String
  apiPort : UInt16
  /-- The port of the load balancer that every machine runs in front of the masters. -/
  lbPort : UInt16
  lbEnabled : Bool
  podCidr : String
  serviceCidr : String
  deriving DecidableEq, Repr, Inhabited

/-- A cluster as it was when the snapshot was taken. -/
structure Cluster where
  id : String
  name : String
  version : String
  spec : ClusterSpec
  machines : List Machine
  deriving DecidableEq, Repr, Inhabited

namespace Role

/-- The roles by wire name. -/
def table : List (String × Role) := [("master", .master), ("worker", .worker)]

/-- The wire name of a role. -/
def name : Role → String
  | .master => "master"
  | .worker => "worker"

/-- Roles on the wire. -/
def codec : Codec Role := .choice table name

end Role

namespace AgentStatus

/-- The agent statuses by wire name. -/
def table : List (String × AgentStatus) :=
  [("unknown", .unknown), ("running", .running), ("unreachable", .unreachable)]

/-- The wire name of an agent status. -/
def name : AgentStatus → String
  | .unknown => "unknown"
  | .running => "running"
  | .unreachable => "unreachable"

/-- Agent statuses on the wire. -/
def codec : Codec AgentStatus := .choice table name

end AgentStatus

namespace Machine

/-- The members of a machine. -/
def record : Record Machine Machine :=
  Machine.mk
    <$> .member "id" .text id
    <*> .member "name" .text name
    <*> .member "ip" .text ip
    <*> .member "role" Role.codec role
    <*> .memberOr "status" "" .text status
    <*> .memberOr "agent_status" .unknown AgentStatus.codec agentStatus

/-- Machines on the wire. -/
def codec : Codec Machine := record.codec "Node"

/-- The machine with another agent status. -/
def withAgentStatus (m : Machine) (status : AgentStatus) : Machine := { m with agentStatus := status }

end Machine

namespace ClusterSpec

/-- What holds for a cluster that says nothing else. -/
def standard : ClusterSpec where
  cri := "containerd"
  criVersion := ""
  apiVip := ""
  apiPort := 6443
  lbPort := 8443
  lbEnabled := true
  podCidr := "10.244.0.0/16"
  serviceCidr := "10.96.0.0/12"

/-- The members of a cluster's set-up. -/
def record : Record ClusterSpec ClusterSpec :=
  ClusterSpec.mk
    <$> .memberOr "cri" standard.cri .text cri
    <*> .memberOr "cri_version" standard.criVersion .text criVersion
    <*> .memberOr "api_vip" standard.apiVip .text apiVip
    <*> .memberOr "api_port" standard.apiPort .nat16 apiPort
    <*> .memberOr "lb_port" standard.lbPort .nat16 lbPort
    <*> .memberOr "lb_enabled" standard.lbEnabled .bool lbEnabled
    <*> .memberOr "pod_cidr" standard.podCidr .text podCidr
    <*> .memberOr "service_cidr" standard.serviceCidr .text serviceCidr

/-- Cluster set-ups on the wire. -/
def codec : Codec ClusterSpec := record.codec "ClusterSpec"

end ClusterSpec

namespace Cluster

/-- The members of a cluster. -/
def record : Record Cluster Cluster :=
  Cluster.mk
    <$> .member "id" .text id
    <*> .member "name" .text name
    <*> .member "version" .text version
    <*> .memberOr "spec" .standard ClusterSpec.codec spec
    <*> .memberOr "nodes" [] (.list Machine.codec) machines

/-- Clusters on the wire. -/
def codec : Codec Cluster := record.codec "Cluster"

/-- The first machine with this id. -/
def machine? (c : Cluster) (id : String) : Option Machine := c.machines.find? fun m => m.id = id

/-- The masters, in the order of the machines. -/
def masters (c : Cluster) : List Machine := c.machines.filter fun m => m.role = .master

/-- The workers, in the order of the machines. -/
def workers (c : Cluster) : List Machine := c.machines.filter fun m => m.role = .worker

/-- The address that the control plane is reached at. -/
def apiEndpoint (c : Cluster) : String :=
  let host :=
    if c.spec.apiVip.isEmpty then
      match c.masters with
      | [] => ""
      | first :: _ => first.ip
    else c.spec.apiVip
  host ++ ":" ++ Text.decimal c.spec.apiPort.toNat

end Cluster

end Muster
