import Muster.ReplyRouter
import Muster.Step

/-!
# The exchange of one node step

An `Exchange` sends the tasks of a node step to their node one at a time: the next one goes out only
after the one before it was answered with success. All of them share one deadline. Answers to other
tasks than the outstanding one are dropped, and so is everything that came before a task went out.

A node step may be put aside when it has sent an envelope and when it has found no answer. What it
does from one such point to the next is one move, and nothing else comes in between. The deadline is
the moment of the beginning with the time limit added; it is taken to be one that a clock can show.
-/

set_option autoImplicit false

namespace Muster.Engine

/-- How an engine is set up. -/
structure Settings where
  /-- The name of the engine; it is recorded on every operation it drives. -/
  host : String
  /-- The milliseconds that a node step may take if it does not say otherwise. -/
  nodeStepTimeout : Nat
  /-- How many node steps of a round run at a time; 0 for all of them. -/
  maxParallel : Nat
  resourceServerUrl : String
  deriving DecidableEq, Repr

/-- The subject that agents reply on. -/
def Settings.inbox (s : Settings) : String := Subject.inbox ("engine." ++ s.host)

/-- What the engine sees of the world at one moment. -/
structure Scene where
  /-- Milliseconds on the clock. -/
  now : Nat
  /-- Whether the bus takes messages on a subject. -/
  accepts : String → Bool
  /-- Whether the agent of a node is recorded as unreachable. -/
  unreachable : String → Bool

/-- What the engine does to the world. -/
inductive Effect where
  /-- Hands a record to the store. -/
  | save (op : Operation)
  /-- Sends an envelope to the agent of a node. -/
  | send (nodeId : String) (envelope : Envelope)
  /-- The operation has ended with this record. -/
  | finish (op : Operation)
  deriving DecidableEq

/-- What every envelope of a round carries: the state of things when the round began. -/
structure RoundContext where
  operationId : String
  cluster : Cluster
  returnData : ReturnData
  deriving DecidableEq

/-- How a node step ended. -/
inductive Outcome where
  | succeeded (data : ReturnData)
  | failed (message : String)
  | timedOut
  /-- The agent was known to be unreachable, so nothing was sent. -/
  | unreachable
  /-- The dispatch was stopped before the node step began. -/
  | notDispatched
  deriving DecidableEq

namespace Outcome

/-- What is recorded for the node. -/
def disposition : Outcome → Disposition
  | .succeeded _ => .succeeded
  | .failed message => .failed message
  | .timedOut => .timedOut
  | .unreachable => .unreachable
  | .notDispatched => .failed "not dispatched"

/-- The data that the node step returned. -/
def data? : Outcome → Option ReturnData
  | .succeeded data => some data
  | _ => none

/-- Whether the node step had begun. -/
def begun : Outcome → Bool
  | .unreachable => false
  | .notDispatched => false
  | _ => true

end Outcome

/-- A node step that waits for the answer to one of its tasks. -/
structure Exchange where
  nodeStepId : String
  nodeId : String
  /-- The mailbox that the answers come to. -/
  handle : Nat
  deadline : Nat
  /-- The position of the outstanding task. -/
  index : Nat
  /-- The tasks after the outstanding one. -/
  rest : List Task
  /-- What the tasks so far have returned. -/
  data : ReturnData
  deriving DecidableEq

/-- How far a node step has got. -/
inductive Standing where
  | waiting (e : Exchange)
  | ended (outcome : Outcome)
  deriving DecidableEq

/-- What one move of a node step leads to. -/
structure Move where
  standing : Standing
  router : ReplyRouter
  effects : List Effect

namespace Exchange

/-- The envelope of a task. -/
def envelope (s : Settings) (c : RoundContext) (nodeStepId : String) (index : Nat) (task : Task) :
    Envelope :=
  { Envelope.ofTask c.operationId nodeStepId c.cluster task with
    taskIndex := index.toUInt64
    resourceServerUrl := s.resourceServerUrl
    returnData := c.returnData }

/-- Ends a node step: nobody waits for its answers any more. -/
def conclude (router : ReplyRouter) (handle : Nat) (outcome : Outcome) : Move :=
  ⟨.ended outcome, router.release handle, []⟩

/-- Sends the first of the tasks that are left, if there is one. -/
def dispatch (s : Settings) (c : RoundContext) (scene : Scene) (router : ReplyRouter) (e : Exchange)
    (index : Nat) : List Task → Move
  | [] => conclude router e.handle (.succeeded e.data)
  | task :: rest =>
    if scene.accepts (Subject.node e.nodeId) then
      ⟨.waiting { e with index, rest }, router.discard e.handle,
        [.send e.nodeId (envelope s c e.nodeStepId index task)]⟩
    else conclude router e.handle (.failed "dispatch failed: bus connection closed")

/-- Begins a node step. -/
def begin (s : Settings) (c : RoundContext) (scene : Scene) (router : ReplyRouter)
    (nodeStepId : String) (n : NodeStep) : Move :=
  let (router, handle) := router.register nodeStepId
  let e : Exchange :=
    { nodeStepId
      nodeId := n.nodeId
      handle
      deadline := scene.now + n.timeout.getD s.nodeStepTimeout
      index := 0
      rest := []
      data := .empty }
  dispatch s c scene router e 0 n.tasks

/-- Looks for the answer to the outstanding task. -/
def resume (s : Settings) (c : RoundContext) (scene : Scene) (router : ReplyRouter) (e : Exchange) :
    Move :=
  match (router.replies e.handle).dropWhile fun r => r.taskIndex.toNat ≠ e.index with
  | [] =>
    let router := router.discard e.handle
    if router.reaches e.handle = false then
      conclude router e.handle (.failed "reply channel closed")
    else if e.deadline ≤ scene.now then conclude router e.handle .timedOut
    else ⟨.waiting e, router, []⟩
  | reply :: _ =>
    if reply.isSuccess then
      dispatch s c scene router { e with data := e.data.merge reply.returnData } (e.index + 1) e.rest
    else conclude router e.handle (.failed reply.message)

/-- Whether a look into the mailbox would change anything. -/
def isReady (scene : Scene) (router : ReplyRouter) (e : Exchange) : Bool :=
  (router.replies e.handle).isEmpty = false || router.reaches e.handle = false
    || decide (e.deadline ≤ scene.now)

end Exchange

end Muster.Engine
