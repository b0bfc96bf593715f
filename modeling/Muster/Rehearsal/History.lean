import Muster.Rehearsal.Agent

/-!
# What a rehearsal leaves behind

Saves of a record matter only where they change it; in a short form, only the last change of an
operation in each millisecond counts. Observations are told in the order of time, node and task.
-/

set_option autoImplicit false

namespace Muster.Rehearsal

/-- A record as it was saved at a moment. -/
structure Save where
  time : Nat
  op : Operation
  deriving DecidableEq

namespace Save

/-- A record without the moments that it names. -/
def untimed (op : Operation) : Operation := { op with createdAt := 0, updatedAt := 0 }

/-- The saves that changed the record of their operation; `seen` is what each record was before. -/
def changes (seen : Dict Operation) : List Save → List Save
  | [] => []
  | s :: rest =>
    if seen.get? s.op.id = some (untimed s.op) then changes seen rest
    else s :: changes (seen.insert s.op.id (untimed s.op)) rest

/-- The last saves of each operation in each millisecond. -/
def lastOfTicks : List Save → List Save
  | [] => []
  | s :: rest =>
    if rest.any fun later => later.time = s.time ∧ later.op.id = s.op.id then lastOfTicks rest
    else s :: lastOfTicks rest

/-- The order of time, then of ids. -/
def before (a b : Save) : Bool := decide (a.time < b.time ∨ a.time = b.time ∧ a.op.id ≤ b.op.id)

/-- All changes. -/
def history (saves : List Save) : List Save := changes .empty saves

/-- The last change of each operation in each millisecond, in the order of time and ids. -/
def ticks (saves : List Save) : List Save := (lastOfTicks (history saves)).mergeSort before

end Save

namespace Observation

/-- The order of time, then of nodes, then of tasks. -/
def before (a b : Observation) : Bool :=
  decide (a.time < b.time ∨ a.time = b.time ∧ (a.nodeId < b.nodeId ∨ a.nodeId = b.nodeId
    ∧ a.envelope.taskIndex ≤ b.envelope.taskIndex))

end Observation

end Muster.Rehearsal
