import Muster.Bytes
import Muster.Operation
import Muster.Task.Wire

/-!
# What engine and agents send each other

An `Envelope` asks the agent of a node to do one task for one node step; a `Reply` says how it went.
Replies are matched to those who wait for them by the identifier of the node step and the index of
the task in it, which together with the operation and the node make a `Correlation`.
-/

set_option autoImplicit false

namespace Muster

open Json (Codec Record)

/-! ### The bus subjects of the protocol -/

namespace Subject

/-- Replies that go to nobody in particular: those of detached tasks, and of requests that name no
subject to reply to. -/
def replies : String := "fleet.replies"

/-- Requests for operations. -/
def submit : String := "fleet.operations.submit"

/-- Requests to the agent of one node. -/
def node (id : String) : String := "fleet.node." ++ id

/-- Requests to any one agent of a group. -/
def group (name : String) : String := "fleet.group." ++ name

/-- Replies to one requester. -/
def inbox (owner : String) : String := "_INBOX." ++ owner

end Subject

/-- A request to do one task. -/
structure Envelope where
  operationId : String
  taskType : String
  /-- The cluster when the request was sent. -/
  cluster : Cluster
  nodeStepId : String
  /-- The position of the task in its node step. -/
  taskIndex : UInt64
  payload : ByteArray
  resourceServerUrl : String
  returnData : ReturnData
  deriving DecidableEq

/-- Whether a task went well. -/
inductive ReplyStatus where
  | successful
  | error
  deriving DecidableEq, Repr

/-- How a task went. -/
structure Reply where
  operationId : String
  status : ReplyStatus
  message : String
  returnData : ReturnData
  nodeId : String
  nodeStepId : String
  taskIndex : UInt64
  deriving DecidableEq, Repr

/-- What matches a reply to the one who waits for it. -/
structure Correlation where
  operationId : String
  nodeId : String
  nodeStepId : String
  taskIndex : UInt64
  deriving DecidableEq, Repr

namespace Envelope

/-- The members of an envelope. -/
def record : Record Envelope Envelope :=
  Envelope.mk
    <$> .member "operation_id" .text operationId
    <*> .member "task_type" .text taskType
    <*> .member "clusters" Cluster.codec cluster
    <*> .member "node_step_id" .text nodeStepId
    <*> .memberOr "task_index" 0 .size taskIndex
    <*> .member "task_data" .hex payload
    <*> .memberOr "resource_server_url" "" .text resourceServerUrl
    <*> .memberOr "step_return_data" .empty (.dict .text) returnData

/-- Envelopes on the wire. -/
def codec : Codec Envelope := record.codec "QueueBody"

/-- The envelope of a task that stands first in its node step and receives no data. -/
def ofTask (operationId nodeStepId : String) (cluster : Cluster) (task : Task) : Envelope where
  operationId
  taskType := task.type
  cluster
  nodeStepId
  taskIndex := 0
  payload := task.encode
  resourceServerUrl := ""
  returnData := .empty

/-- The task that an envelope asks for. -/
def task (e : Envelope) : Except TaskError Task := Task.decode e.taskType e.payload

/-- The bytes of an envelope. -/
def encode (e : Envelope) : ByteArray := codec.encode e

/-- Reads an envelope. -/
def decode (bytes : ByteArray) : Except TaskError Envelope :=
  (codec.decode bytes).mapError .envelope

end Envelope

namespace ReplyStatus

/-- The reply statuses by wire name. -/
def table : List (String × ReplyStatus) := [("successful", .successful), ("error", .error)]

/-- The wire name of a reply status. -/
def name : ReplyStatus → String
  | .successful => "successful"
  | .error => "error"

/-- Reply statuses on the wire. -/
def codec : Codec ReplyStatus := .choice table name

end ReplyStatus

namespace Reply

/-- The members of a reply. -/
def record : Record Reply Reply :=
  Reply.mk
    <$> .member "operation_id" .text operationId
    <*> .member "stat" ReplyStatus.codec status
    <*> .memberOr "message" "" .text message
    <*> .memberOr "return_data" .empty (.dict .text) returnData
    <*> .member "node-id" .text nodeId
    <*> .member "node_step_id" .text nodeStepId
    <*> .memberOr "task_index" 0 .size taskIndex

/-- Replies on the wire. -/
def codec : Codec Reply := record.codec "QueueReply"

/-- The reply to a task that went well. -/
def ofData (c : Correlation) (data : ReturnData) : Reply where
  operationId := c.operationId
  status := .successful
  message := ""
  returnData := data
  nodeId := c.nodeId
  nodeStepId := c.nodeStepId
  taskIndex := c.taskIndex

/-- The reply to a task that failed. -/
def ofError (c : Correlation) (message : String) : Reply where
  operationId := c.operationId
  status := .error
  message
  returnData := .empty
  nodeId := c.nodeId
  nodeStepId := c.nodeStepId
  taskIndex := c.taskIndex

/-- Whether the task went well. -/
def isSuccess (r : Reply) : Bool := r.status = .successful

/-- The bytes of a reply. -/
def encode (r : Reply) : ByteArray := codec.encode r

/-- Reads a reply. -/
def decode (bytes : ByteArray) : Except TaskError Reply :=
  (codec.decode bytes).mapError .envelope

end Reply

namespace Correlation

/-- The correlation of an envelope that was delivered to a node. -/
def ofEnvelope (e : Envelope) (nodeId : String) : Correlation where
  operationId := e.operationId
  nodeId
  nodeStepId := e.nodeStepId
  taskIndex := e.taskIndex

/-- The value of the last member with this name. -/
def lastMember? (name : String) : List (Json.Lexeme String × Json.Node) → Option Json.Node
  | [] => none
  | (key, node) :: rest =>
    match lastMember? name rest with
    | some found => some found
    | none =>
      match key.value with
      | .ok found => if found = name then some node else none
      | .error _ => none

/-- The text of a member, empty when it is none. -/
def textMember (name : String) (members : List (Json.Lexeme String × Json.Node)) : String :=
  match lastMember? name members with
  | some (.str s) =>
    match s.value with
    | .ok text => text
    | .error _ => ""
  | _ => ""

/-- The number of a member, 0 when it is none. -/
def sizeMember (name : String) (members : List (Json.Lexeme String × Json.Node)) : UInt64 :=
  match lastMember? name members with
  | some (.num n) =>
    match n.value with
    | .ok (.nat value) => value
    | _ => 0
  | _ => 0

/-- What can be told of the correlation of an envelope that may be unreadable: its members as far as
the bytes are a sound document with such members. -/
def recover (bytes : ByteArray) (nodeId : String) : Correlation :=
  let document := Json.Document.read bytes
  let members := match document.root, document.root.check Json.nestingLimit, document.trailing with
    | .obj members _, .ok (), false => members
    | _, _, _ => []
  { operationId := textMember "operation_id" members
    nodeId
    nodeStepId := textMember "node_step_id" members
    taskIndex := sizeMember "task_index" members }

end Correlation

end Muster
