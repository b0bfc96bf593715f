import Muster.Bus
import Muster.Envelope
import Muster.Host.Machine
import Muster.Provider

/-!
# The agent of a node

A `Dispatcher` answers every message it gets with one reply. What can be told at once is replied at
once; otherwise a `Call` does the task, and its reply says how it ended. Tasks that are done in the
background reply on the shared reply subject and are the only ones that a stop of the agent cuts
short with a reply.
-/

set_option autoImplicit false

namespace Muster

/-- The agent of a node, as far as it does not change. -/
structure Dispatcher where
  nodeId : String
  /-- What does a task, or why nothing does. -/
  provider : Except String (TaskContext → Task → Procedure ReturnData)
  /-- The directory that the agent's settings name; none when there are no settings for the node. -/
  workDir : Option String

/-- A task that is being done. -/
structure Call where
  correlation : Correlation
  taskType : String
  /-- Whether the reply goes to the shared subject and the task runs in the background. -/
  detached : Bool
  /-- The milliseconds that the task may take, if they are limited. -/
  limit : Option Nat
  procedure : Procedure ReturnData

/-- How a call ended. -/
inductive Ending where
  | returned (result : Except ProviderError ReturnData)
  /-- It took too long. -/
  | overran
  /-- The agent was stopped. -/
  | stopped

/-- What follows from a message. -/
inductive Handling where
  /-- A reply at once, on the shared subject or to whoever asked. -/
  | reply (shared : Bool) (r : Reply)
  | call (c : Call)

namespace Call

/-- The reply to a call. -/
def reply (c : Call) : Ending → Reply
  | .returned (.ok data) => .ofData c.correlation data
  | .returned (.error e) => .ofError c.correlation e.message
  | .overran =>
    .ofError c.correlation (ProviderError.commandTimeout c.taskType (c.limit.getD 0 / 1000)).message
  | .stopped => .ofError c.correlation "agent shutting down"

end Call

namespace Dispatcher

/-- The subject of a reply to a message that names one or does not. -/
def replySubject (shared : Bool) (replyTo : Option String) : String :=
  if shared then Subject.replies else replyTo.getD Subject.replies

/-- What a task is told besides its payload. -/
def context (d : Dispatcher) (e : Envelope) (workDir : String) : TaskContext where
  nodeId := d.nodeId
  cluster := e.cluster
  resourceServerUrl := e.resourceServerUrl
  returnData := e.returnData
  workDir

/-- What follows from a task that can be done. -/
def accept (d : Dispatcher) (c : Correlation) (e : Envelope) (task : Task)
    (invoke : TaskContext → Task → Procedure ReturnData) : Handling :=
  let detached : Bool := task.execution = .detached
  match d.workDir with
  | none => .reply detached (.ofError c ("no runtime configuration for node " ++ d.nodeId))
  | some workDir =>
    .call
      { correlation := c, taskType := task.type, detached, limit := task.info.timeout?
        procedure := invoke (d.context e workDir) task }

/-- What follows from a message. -/
def handle (d : Dispatcher) (payload : ByteArray) : Handling :=
  match Envelope.decode payload with
  | .error e => .reply false (.ofError (.recover payload d.nodeId) e.message)
  | .ok envelope =>
    let c := Correlation.ofEnvelope envelope d.nodeId
    match envelope.task with
    | .error e => .reply false (.ofError c e.message)
    | .ok task =>
      match d.provider with
      | .error reason => .reply false (.ofError c reason)
      | .ok invoke => d.accept c envelope task invoke

/-! ### Calls on their way -/

/-- A call that is being carried out, and the subject of its reply. -/
structure Job where
  call : Call
  subject : String
  /-- The moment at which the task has taken too long. -/
  deadline : Option Nat
  /-- The moment until which time has to pass, and what comes then. -/
  due : Nat
  rest : Script (Except ProviderError ReturnData)

/-- Whether a job goes on or has ended with a reply. -/
inductive JobStanding where
  | waiting (j : Job)
  | ended (r : Reply)

namespace Job

/-- A job that has to wait ends if its time is over. -/
def park (now : Nat) (j : Job) : JobStanding :=
  match j.deadline with
  | some deadline => if deadline ≤ now then .ended (j.call.reply .overran) else .waiting j
  | none => .waiting j

/-- Carries out a job at a moment as far as no time has to pass. -/
def advance (now : Nat) (h : HostState) (j : Job) : JobStanding × HostState :=
  if now < j.due then (park now j, h)
  else
    match j.rest.advance now h with
    | (.done result, h) => (.ended (j.call.reply (.returned result)), h)
    | (.waiting due rest, h) => (park now { j with due, rest }, h)

/-- A job for a call that is taken up at a moment. -/
def ofCall (now : Nat) (c : Call) (subject : String) : Job where
  call := c
  subject
  deadline := c.limit.map (now + ·)
  due := now
  rest := ExceptT.run c.procedure

/-- The moment at which a job goes on. -/
def next (j : Job) : Nat :=
  match j.deadline with
  | some deadline => min j.due deadline
  | none => j.due

end Job

end Dispatcher

/-! ### Messages on their way -/

/-- A message on its way through an agent. -/
inductive Errand where
  | arrived (m : Message)
  /-- A call that runs in the background, not begun yet. -/
  | background (c : Call)
  | running (j : Dispatcher.Job)

namespace Errand

/-- What comes of an errand that an agent goes on with. -/
inductive Course where
  /-- The call is left to the background. -/
  | detached (c : Call)
  | waiting (j : Dispatcher.Job)
  /-- The errand is over, and this is said. -/
  | replied (m : Message)

/-- What comes of a job that goes on at a moment. -/
def pursue (now : Nat) (h : HostState) (j : Dispatcher.Job) : Course × HostState :=
  match j.advance now h with
  | (.waiting j, h) => (.waiting j, h)
  | (.ended r, h) => (.replied ⟨j.subject, r.encode, none⟩, h)

/-- What comes of an errand that goes on at a moment. -/
def proceed (d : Dispatcher) (now : Nat) (h : HostState) : Errand → Course × HostState
  | .arrived m =>
    match d.handle m.payload with
    | .reply shared r => (.replied ⟨Dispatcher.replySubject shared m.replyTo, r.encode, none⟩, h)
    | .call c =>
      if c.detached then (.detached c, h)
      else pursue now h (.ofCall now c (Dispatcher.replySubject false m.replyTo))
  | .background c => pursue now h (.ofCall now c Subject.replies)
  | .running j => pursue now h j

/-- What is said for a call that a stop of the agent cuts short. -/
def farewell (c : Call) : Message := ⟨Subject.replies, (c.reply .stopped).encode, none⟩

/-- What is said when the agent is stopped: only a call in the background is cut short. -/
def cut : Errand → Option Message
  | .arrived _ => none
  | .background c => some (farewell c)
  | .running j => if j.call.detached then some (farewell j.call) else none

/-- Whether the agent waits for the errand when it ends. -/
def inFlight (e : Errand) : Bool := e.cut.isNone

end Errand

end Muster
