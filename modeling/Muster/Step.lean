import Muster.Policy
import Muster.Task.Basic
import Muster.Text.Quoted

/-!
# Steps

An operation runs its steps one after the other. A `Step` fans out into node steps, each the tasks
of one node in their order. The node steps are fixed beforehand or built when the step starts, out
of the data that earlier steps have returned.
-/

set_option autoImplicit false

namespace Muster

/-- The tasks that one node does for one step, in order. -/
structure NodeStep where
  name : String
  nodeId : String
  /-- The milliseconds until all tasks have to be answered, where it is not the engine's own. -/
  timeout : Option Nat
  tasks : List Task
  deriving DecidableEq

namespace NodeStep

/-- Tasks for a node, to be answered in the engine's own time. -/
def forNode (name nodeId : String) (tasks : List Task) : NodeStep := ⟨name, nodeId, none, tasks⟩

end NodeStep

/-- Builds node steps out of returned data; a failure says why there are none. -/
abbrev Builder := ReturnData → Cluster → Operation → Except String (List NodeStep)

/-- What the nodes of a step do. -/
inductive Workload where
  | fixed (nodeSteps : List NodeStep)
  | built (builder : Builder)

/-- One step of an operation. -/
structure Step where
  name : String
  workload : Workload
  /-- The milliseconds that pass before the step starts. -/
  waitMs : Nat
  /-- Whether the step is left out when its node steps cannot be built. -/
  ignoreDynamicError : Bool
  /-- Whether nodes that are known to be unreachable are left out. -/
  skipUnreachable : Bool
  maxRetries : UInt32
  /-- Where it is not the standard policy of the operation. -/
  policy : Option Policy

namespace Step

/-- A step that starts at once and is tried once. -/
def ofWorkload (name : String) (workload : Workload) : Step where
  name
  workload
  waitMs := 0
  ignoreDynamicError := false
  skipUnreachable := false
  maxRetries := 0
  policy := none

/-- A step whose node steps are known. -/
def fixed (name : String) (nodeSteps : List NodeStep) : Step := ofWorkload name (.fixed nodeSteps)

/-- A step whose node steps are built when it starts. -/
def built (name : String) (builder : Builder) : Step := ofWorkload name (.built builder)

/-- The step with nodes that are known to be unreachable left out. -/
def skippingUnreachable (s : Step) : Step := { s with skipUnreachable := true }

/-- The step with a policy of its own. -/
def withPolicy (s : Step) (policy : Policy) : Step := { s with policy := some policy }

/-- The node steps that are known before the step starts. -/
def nodeSteps (s : Step) : List NodeStep :=
  match s.workload with
  | .fixed nodeSteps => nodeSteps
  | .built _ => []

/-- Whether the node steps are built when the step starts. -/
def isBuilt (s : Step) : Bool :=
  match s.workload with
  | .fixed _ => false
  | .built _ => true

/-- The policy of the step in an operation of a type. -/
def policyIn (s : Step) (type : OperationType) : Policy := s.policy.getD (.standard type)

/-- The text of a truth value. -/
def truth (b : Bool) : String := if b then "true" else "false"

/-- A short description for people who look into the engine. -/
def description (s : Step) : String :=
  "Step \x7b name: " ++ Text.quoted s.name
    ++ ", node_steps: " ++ Text.decimal s.nodeSteps.length
    ++ ", dynamic: " ++ truth s.isBuilt
    ++ ", skip_unreachable: " ++ truth s.skipUnreachable
    ++ ", max_retries: " ++ Text.decimal s.maxRetries.toNat ++ " \x7d"

end Step

end Muster
