import Muster.Cluster
import Muster.StepState

/-!
# Operations on clusters

An `Operation` is one request to change a cluster and how far it has got. Its record is what is
stored and what a caller sees.
-/

set_option autoImplicit false

namespace Muster

open Json (Codec Record)

/-- Data that tasks return and later tasks receive. -/
abbrev ReturnData := Dict String

/-- What an operation does to its cluster. -/
inductive OperationType where
  | createCluster
  | addWorkers
  | removeNodes
  | destroyCluster
  | deployAddons
  | upgrade
  deriving DecidableEq, Repr, Inhabited

/-- The progress of an operation. -/
inductive OperationStatus where
  | pending
  | processing
  | addingNodes
  | deletingNodes
  | deployAddons
  | upgrading
  | successful
  | error
  deriving DecidableEq, Repr, Inhabited

namespace OperationType

/-- The operation types by wire name. -/
def table : List (String × OperationType) :=
  [("create-cluster", .createCluster), ("add-workers", .addWorkers),
    ("remove-nodes", .removeNodes), ("destroy-cluster", .destroyCluster),
    ("deploy-addons", .deployAddons), ("upgrade", .upgrade)]

/-- The wire name of an operation type. -/
def name : OperationType → String
  | .createCluster => "create-cluster"
  | .addWorkers => "add-workers"
  | .removeNodes => "remove-nodes"
  | .destroyCluster => "destroy-cluster"
  | .deployAddons => "deploy-addons"
  | .upgrade => "upgrade"

/-- Operation types on the wire. -/
def codec : Codec OperationType := .choice table name

/-- The status of an operation of this type while it runs. -/
def runningStatus : OperationType → OperationStatus
  | .createCluster => .processing
  | .destroyCluster => .processing
  | .addWorkers => .addingNodes
  | .removeNodes => .deletingNodes
  | .deployAddons => .deployAddons
  | .upgrade => .upgrading

end OperationType

namespace OperationStatus

/-- The operation statuses by wire name. -/
def table : List (String × OperationStatus) :=
  [("pending", .pending), ("processing", .processing), ("adding-nodes", .addingNodes),
    ("deleting-nodes", .deletingNodes), ("deploy-addons", .deployAddons),
    ("upgrading", .upgrading), ("successful", .successful), ("error", .error)]

/-- The wire name of an operation status. -/
def name : OperationStatus → String
  | .pending => "pending"
  | .processing => "processing"
  | .addingNodes => "adding-nodes"
  | .deletingNodes => "deleting-nodes"
  | .deployAddons => "deploy-addons"
  | .upgrading => "upgrading"
  | .successful => "successful"
  | .error => "error"

/-- Operation statuses on the wire. -/
def codec : Codec OperationStatus := .choice table name

/-- Whether an operation with this status has ended. -/
def isTerminal : OperationStatus → Bool
  | .successful => true
  | .error => true
  | _ => false

end OperationStatus

/-- A request to change a cluster and how far it has got. -/
structure Operation where
  id : String
  name : String
  status : OperationStatus
  /-- The index of the step in progress. -/
  currentStep : UInt64
  clusterId : String
  type : OperationType
  steps : List StepState
  /-- What the steps so far have returned. -/
  returnData : ReturnData
  parameters : Dict String
  /-- The engine that drives the operation; empty when there is none. -/
  host : String
  message : String
  /-- What went wrong, by node. -/
  issues : Dict String
  createdAt : UInt64
  updatedAt : UInt64
  deriving DecidableEq, Repr, Inhabited

/-- A request for an operation, as a caller hands it in. -/
structure OperationRequest where
  name : String
  type : OperationType
  cluster : Cluster
  parameters : Dict String
  deriving DecidableEq, Repr, Inhabited

namespace Operation

/-- The members of an operation. -/
def record : Record Operation Operation :=
  Operation.mk
    <$> .member "id" .text id
    <*> .member "name" .text name
    <*> .member "status" OperationStatus.codec status
    <*> .member "current_step" .size currentStep
    <*> .member "cluster_id" .text clusterId
    <*> .member "operation_type" OperationType.codec type
    <*> .member "steps" (.list StepState.codec) steps
    <*> .member "pre_step_return_data" (.dict .text) returnData
    <*> .member "request_parameter" (.dict .text) parameters
    <*> .member "host" .text host
    <*> .member "message" .text message
    <*> .member "issues" (.dict .text) issues
    <*> .member "created_at" .nat64 createdAt
    <*> .member "updated_at" .nat64 updatedAt

/-- Operations on the wire. -/
def codec : Codec Operation := record.codec "Operation"

/-- An operation that has just been requested, at time `now`. -/
def create (id name : String) (type : OperationType) (clusterId : String) (parameters : Dict String)
    (now : UInt64) : Operation where
  id
  name
  status := .pending
  currentStep := 0
  clusterId
  type
  steps := []
  returnData := .empty
  parameters
  host := ""
  message := ""
  issues := .empty
  createdAt := now
  updatedAt := now

/-- The operation changed at time `now`. -/
def touch (op : Operation) (now : UInt64) : Operation := { op with updatedAt := now }

/-- The operation moved on to a step; moving back is ignored. -/
def advanceTo (op : Operation) (step : UInt64) (now : UInt64) : Operation :=
  { op with currentStep := if op.currentStep < step then step else op.currentStep, updatedAt := now }

/-- The operation with one of its steps changed. -/
def modifyStep (op : Operation) (index : Nat) (f : StepState → StepState) : Operation :=
  { op with steps := op.steps.modify index f }

end Operation

namespace OperationRequest

/-- The members of an operation request. -/
def record : Record OperationRequest OperationRequest :=
  OperationRequest.mk
    <$> .member "name" .text name
    <*> .member "operation_type" OperationType.codec type
    <*> .member "cluster" Cluster.codec cluster
    <*> .memberOr "parameters" .empty (.dict .text) parameters

/-- Operation requests on the wire. -/
def codec : Codec OperationRequest := record.codec "OperationRequest"

end OperationRequest

/-- The first twelve characters of an identifier. -/
def shortId (id : String) : String := String.ofList (id.toList.take 12)

end Muster
