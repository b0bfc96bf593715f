import Muster.Text.Quoted

/-!
# Failures of operations

What ends an operation without success, and what keeps one from being started.
-/

set_option autoImplicit false

namespace Muster

/-- Why an operation failed or was not started. -/
inductive EngineError where
  /-- The policy of a step gave up. -/
  | policyAbort (step reason : String)
  | cancelled
  /-- The node steps of a step could not be built. -/
  | dynamicStep (step reason : String)
  /-- The operation is being driven already. -/
  | alreadyRunning (id : String)
  /-- The operation belongs to another engine. -/
  | foreignHost (id host : String)
  /-- There is nothing to do. -/
  | emptyPlan
  /-- Operations of this type cannot be planned. -/
  | noPlan (type : String)
  | invalidRequest (reason : String)
  | bus (cause : String)
  | store (cause : String)
  deriving DecidableEq, Repr

namespace EngineError

/-- The wording of a failure. -/
def message : EngineError → String
  | .policyAbort step reason => "step " ++ Text.quoted step ++ " aborted: " ++ reason
  | .cancelled => "operation cancelled"
  | .dynamicStep step reason =>
    "failed to build node steps for " ++ Text.quoted step ++ ": " ++ reason
  | .alreadyRunning id => "operation " ++ id ++ " is already running on this host"
  | .foreignHost id host => "operation " ++ id ++ " is owned by engine host " ++ Text.quoted host
  | .emptyPlan => "operation has no steps"
  | .noPlan type => "no plan for " ++ type ++ " operations"
  | .invalidRequest reason => "invalid request: " ++ reason
  | .bus cause => "bus error: " ++ cause
  | .store cause => "store error: " ++ cause

end EngineError

end Muster
