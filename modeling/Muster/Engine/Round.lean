import Muster.Engine.Exchange
import Muster.Identifier

/-!
# Rounds of dispatch

A `Round` runs the node steps of a step side by side, as many at a time as there are permits. Every
node step runs on its own and hands in its outcome; outcomes are settled one by one in the order in
which they were handed in. A permit comes back only when its outcome is settled, so whoever settles
it may stop the dispatch before the next node step begins.

What a node step does from one point at which it may be put aside to the next is one move (`work`), and
so is the settling of one outcome. The permits of a round, as many as its node steps or as the settings
say, are taken to be no more than a semaphore takes.
-/

set_option autoImplicit false

namespace Muster.Engine

/-- Where a node step of a round stands. -/
inductive Slot where
  /-- It has not asked for a permit yet. -/
  | spawned
  /-- It stands in line for a permit. -/
  | queued
  /-- It has been given a permit and has not begun. -/
  | granted
  | running (e : Exchange)
  /-- It has handed in its outcome. -/
  | ended (outcome : Outcome)
  /-- Its outcome has been settled. -/
  | settled (data : Option ReturnData)
  deriving DecidableEq

namespace Slot

/-- Whether the node step has begun: it holds a permit then until its outcome is settled. -/
def begun : Slot → Bool
  | .running _ => true
  | .ended outcome => outcome.begun
  | _ => false

/-- Whether the outcome has been settled. -/
def isSettled : Slot → Bool
  | .settled _ => true
  | _ => false

/-- The data of a node step that succeeded. -/
def data? : Slot → Option ReturnData
  | .settled data => data
  | _ => none

end Slot

/-- A node step of a round, under the identifier that its answers carry. -/
structure Lane where
  id : String
  nodeStep : NodeStep
  slot : Slot
  deriving DecidableEq

/-- What the engine works with: its mailboxes, its identifiers, and what it has done to the world, the
oldest first. -/
structure Desk where
  router : ReplyRouter
  identifiers : Identifiers
  effects : List Effect

namespace Desk

/-- Does something to the world. -/
def emit (desk : Desk) (effect : Effect) : Desk := { desk with effects := desk.effects ++ [effect] }

/-- Takes over what a move of a node step did. -/
def follow (desk : Desk) (move : Move) : Desk :=
  { desk with router := move.router, effects := desk.effects ++ move.effects }

end Desk

/-- The node steps of a step that are run side by side. -/
structure Round where
  context : RoundContext
  lanes : List Lane
  /-- Permits that nobody holds. -/
  free : Nat
  /-- The positions of those who stand in line for a permit. -/
  line : List Nat
  /-- The positions of those whose outcome is not settled yet, in the order of handing in. -/
  outcomes : List Nat
  /-- Whether the dispatch has been stopped. -/
  halted : Bool
  /-- The timeouts since the last other outcome. -/
  timeouts : Nat
  deriving DecidableEq

namespace Round

/-- Where a node step stands when a round begins. -/
def firstSlot (scene : Scene) (skipUnreachable : Bool) (n : NodeStep) : Slot :=
  if skipUnreachable && scene.unreachable n.nodeId then .ended .unreachable else .spawned

/-- The positions of the lanes that have handed in an outcome. -/
def endedAt (start : Nat) : List Lane → List Nat
  | [] => []
  | lane :: rest =>
    match lane.slot with
    | .ended _ => start :: endedAt (start + 1) rest
    | _ => endedAt (start + 1) rest

/-- Begins a round. -/
def begin (s : Settings) (scene : Scene) (skipUnreachable : Bool) (context : RoundContext)
    (nodeSteps : List (String × NodeStep)) : Round :=
  let lanes := nodeSteps.map fun (id, n) => ⟨id, n, firstSlot scene skipUnreachable n⟩
  { context
    lanes
    free := if s.maxParallel = 0 then nodeSteps.length else s.maxParallel
    line := []
    outcomes := endedAt 0 lanes
    halted := false
    timeouts := 0 }

/-- Where the node step at a position stands. -/
def slot? (r : Round) (i : Nat) : Option Slot := (r.lanes[i]?).map Lane.slot

/-- Puts the node step at a position elsewhere. -/
def setSlot (r : Round) (i : Nat) (slot : Slot) : Round :=
  { r with lanes := r.lanes.modify i fun lane => { lane with slot } }

/-- Hands in an outcome. -/
def report (r : Round) (i : Nat) (outcome : Outcome) : Round :=
  { r.setSlot i (.ended outcome) with outcomes := r.outcomes ++ [i] }

/-- Gives a permit to the first in line, or back. -/
def release (r : Round) : Round :=
  match r.line with
  | [] => { r with free := r.free + 1 }
  | next :: line => { r.setSlot next .granted with line }

/-- Takes over where a move of a node step led to. -/
def follow (r : Round) (i : Nat) (move : Move) : Round :=
  match move.standing with
  | .waiting e => r.setSlot i (.running e)
  | .ended outcome => r.report i outcome

/-- Begins the node step at a position, which holds a permit. -/
def start (s : Settings) (scene : Scene) (desk : Desk) (r : Round) (i : Nat) : Round × Desk :=
  match r.lanes[i]? with
  | none => (r, desk)
  | some lane =>
    let move := Exchange.begin s r.context scene desk.router lane.id lane.nodeStep
    (r.follow i move, desk.follow move)

/-- Lets the node step at a position go on as far as it can. -/
def work (s : Settings) (scene : Scene) (desk : Desk) (r : Round) (i : Nat) : Round × Desk :=
  match r.slot? i with
  | some .spawned =>
    if r.halted then (r.report i .notDispatched, desk)
    else if r.free = 0 then ({ r.setSlot i .queued with line := r.line ++ [i] }, desk)
    else start s scene desk { r with free := r.free - 1 } i
  | some .queued =>
    if r.halted then
      ({ r with line := r.line.filter fun j => j ≠ i }.report i .notDispatched, desk)
    else (r, desk)
  | some .granted =>
    if r.halted then (r.release.report i .notDispatched, desk) else start s scene desk r i
  | some (.running e) =>
    let move := e.resume s r.context scene desk.router
    (r.follow i move, desk.follow move)
  | _ => (r, desk)

/-- Whether the node step at a position can go on. -/
def isReady (scene : Scene) (router : ReplyRouter) (r : Round) (slot : Slot) : Bool :=
  match slot with
  | .spawned => true
  | .queued => r.halted
  | .granted => true
  | .running e => e.isReady scene router
  | .ended _ => false
  | .settled _ => false

/-- Takes the outcome that was handed in first. -/
def take? (r : Round) : Option (Lane × Outcome × Round) :=
  match r.outcomes with
  | [] => none
  | i :: outcomes =>
    match r.lanes[i]? with
    | some lane =>
      match lane.slot with
      | .ended outcome =>
        some (lane, outcome, { r.setSlot i (.settled outcome.data?) with outcomes })
      | _ => none
    | none => none

/-- Counts an outcome that was settled: timeouts only as long as nothing else comes in between. -/
def count (r : Round) (outcome : Outcome) : Round :=
  { r with timeouts := if outcome = .timedOut then r.timeouts + 1 else 0 }

/-- Goes on after an outcome was settled: the dispatch may have to stop, and the permit comes back. -/
def passOn (r : Round) (halts : Bool) (outcome : Outcome) : Round :=
  let r := { r with halted := r.halted || halts }
  if outcome.begun then r.release else r

/-- Whether every outcome has been settled. -/
def isOver (r : Round) : Bool := r.lanes.all fun lane => lane.slot.isSettled

/-- The data of the node steps that succeeded, in their order. -/
def returned (r : Round) : List ReturnData := r.lanes.filterMap fun lane => lane.slot.data?

/-- The node steps of a round that another round may be tried on. -/
def again (r : Round) (state : StepState) : List NodeStep :=
  (r.lanes.map Lane.nodeStep).filter fun n => state.retryable.contains n.nodeId

/-- Records an ending for every node step that is not settled. -/
def sweep (ending : Slot → Disposition) (r : Round) (state : StepState) : StepState :=
  r.lanes.foldl (fun state lane =>
    if lane.slot.isSettled then state
    else state.classify lane.nodeStep.nodeId (ending lane.slot)) state

/-- How a node step ends when waiting is given up. -/
def givenUp (slot : Slot) : Disposition := if slot.begun then .timedOut else .failed "not dispatched"

/-- The mailboxes that node steps of the round wait at. -/
def handles (r : Round) : List Nat :=
  r.lanes.filterMap fun lane =>
    match lane.slot with
    | .running e => some e.handle
    | _ => none

/-- Ends the round for those who still wait. -/
def close (r : Round) (desk : Desk) : Desk :=
  { desk with router := r.handles.foldl ReplyRouter.release desk.router }

end Round

end Muster.Engine
