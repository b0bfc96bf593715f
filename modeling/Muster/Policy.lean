import Muster.Operation

/-!
# Step policies

A `Policy` decides three things about a step: whether to stop dispatching once a node has ended,
whether to stop waiting after so many timeouts in a row, and what follows when a round of dispatch
is over. `strict` wants every node to succeed, `tolerant` puts up with some that do not. Both try
again only while the budget of retries lasts and a node is left to try again on.
-/

set_option autoImplicit false

namespace Muster

/-- What follows a round of dispatch. -/
inductive Decision where
  | proceed
  /-- Another round on the failed and timed out nodes. -/
  | retry
  | abort (reason : String)
  deriving DecidableEq, Repr

/-- How a step deals with the nodes that do not succeed. -/
structure Policy where
  /-- Whether to stop dispatching after a node has ended: the nodes not yet begun never are. -/
  halts : (state : StepState) → (node : String) → Bool
  /-- Whether to stop waiting after a timeout, the last of this many in a row. -/
  finalizes : (state : StepState) → (consecutive : Nat) → Bool
  /-- What follows a round of a step with so many node steps. -/
  decision : (state : StepState) → (total : Nat) → (maxRetries : UInt32) → Decision

namespace StepState

/-- An account of the nodes that did not succeed. -/
def summary (s : StepState) : String :=
  let failed := s.failed.toList.map fun entry => entry.1 ++ " (" ++ entry.2 ++ ")"
  let part (title : String) (items : List String) : List String :=
    if items.isEmpty then [] else [title ++ Text.join ", " items]
  Text.join "; "
    (part "failed: " failed ++ part "timed out: " s.timedOut.keys
      ++ part "unreachable: " s.unreachable.keys)

/-- Another round while the budget lasts and a node is left for it, otherwise the end. -/
def retryOrAbort (s : StepState) (maxRetries : UInt32) : Decision :=
  if s.attempts ≤ maxRetries ∧ s.retryable.isEmpty = false then .retry else .abort s.summary

end StepState

namespace Policy

/-- Every node has to succeed. With `abortFirst` the first one that does not stops the dispatch. -/
def strict (abortFirst : Bool) : Policy where
  halts s node :=
    abortFirst && match s.disposition node with
      | none => false
      | some .succeeded => false
      | some _ => true
  finalizes _ _ := false
  decision s _ maxRetries :=
    if s.unsuccessful = 0 then .proceed else s.retryOrAbort maxRetries

/-- The nodes that may not succeed: so many, or fewer than half of all. -/
def allowance (limit : Option Nat) (total : Nat) : Nat := limit.getD ((total - 1) / 2)

/-- Some nodes may not succeed. Waiting stops after `finalizeAfter` timeouts in a row, never if that
is 0. -/
def tolerant (limit : Option Nat) (finalizeAfter : Nat) : Policy where
  halts _ _ := false
  finalizes _ consecutive := decide (0 < finalizeAfter ∧ finalizeAfter ≤ consecutive)
  decision s total maxRetries :=
    if s.unsuccessful ≤ allowance limit total then .proceed else s.retryOrAbort maxRetries

/-- Fewer than half of the nodes may not succeed. -/
def minority : Policy := tolerant none 0

/-- More nodes than any step has. -/
def anyNumber : Nat := UInt64.size - 1

/-- The policy of steps that have none of their own. -/
def standard : OperationType → Policy
  | .addWorkers => minority
  | .removeNodes => tolerant (some anyNumber) 0
  | .destroyCluster => tolerant (some anyNumber) 0
  | .createCluster => strict false
  | .deployAddons => strict false
  | .upgrade => strict false

end Policy

end Muster
