import Muster.Json.Record

/-!
# How the nodes of a step ended

A `StepState` sorts the nodes of a step by how they ended. A node stands in at most one of the four
sets: `classify` takes it out of all of them before it puts it into one.
-/

set_option autoImplicit false

namespace Muster

open Json (Codec Record)

/-- The progress of a step. -/
inductive StepStatus where
  | pending
  | running
  | successful
  | error
  | skipped
  deriving DecidableEq, Repr, Inhabited

namespace StepStatus

/-- The step statuses by wire name. -/
def table : List (String × StepStatus) :=
  [("pending", .pending), ("running", .running), ("successful", .successful), ("error", .error),
    ("skipped", .skipped)]

/-- The wire name of a step status. -/
def name : StepStatus → String
  | .pending => "pending"
  | .running => "running"
  | .successful => "successful"
  | .error => "error"
  | .skipped => "skipped"

/-- Step statuses on the wire. -/
def codec : Codec StepStatus := .choice table name

end StepStatus

/-- How a node of a step ended. -/
inductive Disposition where
  | succeeded
  | failed (message : String)
  | timedOut
  | unreachable
  deriving DecidableEq, Repr

/-- A step as it is recorded: its progress and how its nodes ended. -/
structure StepState where
  name : String
  status : StepStatus
  succeeded : NameSet
  failed : Dict String
  timedOut : NameSet
  unreachable : NameSet
  /-- The rounds of dispatch begun so far, retries included. -/
  attempts : UInt32
  deriving DecidableEq, Repr, Inhabited

namespace StepState

/-- The members of a recorded step. -/
def record : Record StepState StepState :=
  StepState.mk
    <$> .member "name" .text name
    <*> .member "status" StepStatus.codec status
    <*> .member "on_success_nodes" .names succeeded
    <*> .member "on_failed_nodes" (.dict .text) failed
    <*> .member "on_timeout_nodes" .names timedOut
    <*> .member "unreachable_nodes" .names unreachable
    <*> .member "attempts" .nat32 attempts

/-- Recorded steps on the wire. -/
def codec : Codec StepState := record.codec "StepState"

/-- A step that has not been started. -/
def named (name : String) : StepState where
  name
  status := .pending
  succeeded := .empty
  failed := .empty
  timedOut := .empty
  unreachable := .empty
  attempts := 0

/-- The node taken out of every set. -/
def forget (s : StepState) (node : String) : StepState :=
  { s with
    succeeded := s.succeeded.erase node
    failed := s.failed.erase node
    timedOut := s.timedOut.erase node
    unreachable := s.unreachable.erase node }

/-- Records how a node ended, in place of what was recorded for it before. -/
def classify (s : StepState) (node : String) (d : Disposition) : StepState :=
  let s := s.forget node
  match d with
  | .succeeded => { s with succeeded := s.succeeded.add node }
  | .failed message => { s with failed := s.failed.insert node message }
  | .timedOut => { s with timedOut := s.timedOut.add node }
  | .unreachable => { s with unreachable := s.unreachable.add node }

/-- How a node ended, if it has. -/
def disposition (s : StepState) (node : String) : Option Disposition :=
  if s.succeeded.contains node then some .succeeded
  else match s.failed.get? node with
    | some message => some (.failed message)
    | none =>
      if s.timedOut.contains node then some .timedOut
      else if s.unreachable.contains node then some .unreachable
      else none

/-- The number of nodes that have ended. -/
def settled (s : StepState) : Nat :=
  s.succeeded.size + s.failed.size + s.timedOut.size + s.unreachable.size

/-- The number of nodes that have ended and did not succeed. -/
def unsuccessful (s : StepState) : Nat := s.settled - s.succeeded.size

/-- The nodes that another round may be tried on: the failed and the timed out ones. -/
def retryable (s : StepState) : NameSet :=
  NameSet.ofNames (s.failed.keys ++ s.timedOut.keys)

end StepState

end Muster
