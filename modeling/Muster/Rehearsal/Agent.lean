import Muster.Bus
import Muster.Dispatcher

/-!
# Agents of a rehearsal

A rehearsal runs a fleet on a clock of its own. Its agents either answer by rules, or are real agents
on machines whose commands are rehearsed.
-/

set_option autoImplicit false

namespace Muster.Rehearsal

/-- One answer of an agent that answers by rules. -/
structure Answer where
  afterMs : Nat
  /-- What the answer says. -/
  content : Except String ReturnData
  /-- The position of the task that the answer pretends to be about. -/
  taskIndex : Option UInt64
  /-- The node step that the answer pretends to be about. -/
  nodeStepId : Option String
  /-- Bytes that are sent in place of the answer. -/
  raw : Option ByteArray
  /-- Whether the answer goes to the shared subject. -/
  shared : Bool

namespace Answer

/-- Success without data after a moment. -/
def prompt : Answer := ⟨1, .ok .empty, none, none, none, false⟩

/-- The reply that an answer makes. -/
def reply (a : Answer) (c : Correlation) : Reply :=
  let c :=
    { c with taskIndex := a.taskIndex.getD c.taskIndex, nodeStepId := a.nodeStepId.getD c.nodeStepId }
  match a.content with
  | .ok data => .ofData c data
  | .error message => .ofError c message

/-- What is sent, and on which subject. -/
def message (a : Answer) (c : Correlation) (replyTo : Option String) : Message :=
  ⟨Dispatcher.replySubject a.shared replyTo, a.raw.getD (a.reply c).encode, none⟩

end Answer

/-- The answers to tasks whose key begins with a text. -/
structure AnswerRule where
  head : String
  /-- How often the rule may still be used, if that is limited. -/
  left : Option Nat
  answers : List Answer

/-- What rules look at: the commands of a task that runs commands, the type of any other. -/
def keyOf : Task → String
  | .runCommand t => Text.join ";" t.commands
  | t => t.type

/-- Uses the first rule that fits a key. -/
def useAnswerRule (key : String) : List AnswerRule → Option (List Answer) × List AnswerRule
  | [] => (none, [])
  | rule :: rest =>
    if Text.startsWith rule.head key && rule.left ≠ some 0 then
      (some rule.answers, { rule with left := rule.left.map (· - 1) } :: rest)
    else
      let (found, rest) := useAnswerRule key rest
      (found, rule :: rest)

/-- A task as an agent that answers by rules saw it. -/
structure Observation where
  time : Nat
  nodeId : String
  envelope : Envelope
  task : Task
  replyTo : Option String

/-- What a real agent is doing. -/
inductive Serving where
  | serving
  /-- It ends, and waits for its errands until a moment. -/
  | ending (stopped : Bool) (grace : Nat)
  /-- It has ended. -/
  | ended (stopped : Bool) (time : Nat)
  deriving DecidableEq

/-- A real agent on a machine with a rehearsed shell. -/
structure RealAgent where
  dispatcher : Dispatcher
  group : String
  host : HostState
  graceMs : Nat
  errands : List (Nat × Errand)
  state : Serving

/-- An agent of a rehearsal. -/
inductive Performer where
  | ruled (rules : List AnswerRule)
  | real (agent : RealAgent)

/-- An agent and what it is subscribed to. -/
structure Agent where
  performer : Performer
  subscriptions : List (String × Nat)

end Muster.Rehearsal
