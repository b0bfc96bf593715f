import Muster.Engine.Drive

/-!
# The engine

An `Engine` drives any number of operations, each at most once at a time. Everything it does is one
of its moves: an operation is submitted or cancelled, a reply arrives, a drive takes its next step or
heeds a request to cancel, a node step goes on. A move takes no time and says what it does to the
world; which move comes next is not the engine's choice.

A move is all that is done between two points at which the engine may put aside what it is at, so
nothing else comes in between. Bounds of the machine are left out: a deadline, which is a moment and
a time limit added up, is taken to be one that a clock can show, and the permits of a round to be no
more than a semaphore takes.
-/

set_option autoImplicit false

namespace Muster

open Engine (Settings Scene Effect Drive Desk Phase Slot)

/-- An engine and the operations that it drives. -/
structure Engine where
  settings : Settings
  router : ReplyRouter
  identifiers : Identifiers
  /-- The running operations by id. -/
  drives : Dict Drive
  /-- Whether arriving replies are routed. -/
  routing : Bool

namespace Engine

/-- What may go on in an engine. -/
inductive Fiber where
  | drive (operationId : String)
  /-- The node step at a position of a round. -/
  | worker (operationId : String) (round index : Nat)
  deriving DecidableEq, Repr

/-- An engine that has just been started. -/
def started (settings : Settings) : Engine := ⟨settings, .idle, ⟨0⟩, .empty, true⟩

/-- The subject that agents reply on. -/
def inbox (e : Engine) : String := e.settings.inbox

/-- Whether an operation is being driven. -/
def isRunning (e : Engine) (operationId : String) : Bool := e.drives.contains operationId

/-- Starts driving an operation over steps. -/
def submit (e : Engine) (scene : Scene) (op : Operation) (cluster : Cluster) (steps : List Step) :
    Except EngineError (Engine × List Effect) :=
  if steps.isEmpty then .error .emptyPlan
  else if op.host ≠ "" ∧ op.host ≠ e.settings.host then .error (.foreignHost op.id op.host)
  else if e.isRunning op.id then .error (.alreadyRunning op.id)
  else
    let op := { op with host := e.settings.host, steps := steps.map fun s : Step => .named s.name }
    let op := op.touch (Drive.stamp scene)
    let drive : Drive :=
      { op, cluster, index := 0, later := steps, cancelRequested := false, rounds := 0
        phase := .starting }
    .ok ({ e with drives := e.drives.insert op.id drive }, [.save op])

/-- Asks for a running operation to end; says whether it is running. -/
def cancel (e : Engine) (operationId : String) : Bool × Engine :=
  (e.isRunning operationId,
    { e with drives := e.drives.modify operationId fun d => { d with cancelRequested := true } })

/-- Asks for every running operation to end and routes no more replies. -/
def shutdown (e : Engine) : Engine :=
  { e with drives := e.drives.map fun d => { d with cancelRequested := true }, routing := false }

/-- Takes in what arrived on a reply subject. -/
def receive (e : Engine) (payload : ByteArray) : Engine :=
  if e.routing then { e with router := e.router.receive payload } else e

/-- What the engine works with. -/
def desk (e : Engine) : Desk := ⟨e.router, e.identifiers, []⟩

/-- Puts a drive back after a move; one that has ended is forgotten. -/
def putBack (e : Engine) (id : String) (moved : Drive × Desk) : Engine × List Effect :=
  let (d, desk) := moved
  let drives := match d.phase with
    | .finished => e.drives.erase id
    | _ => e.drives.insert id d
  ({ e with router := desk.router, identifiers := desk.identifiers, drives }, desk.effects)

/-- A drive does what is next. -/
def step (e : Engine) (scene : Scene) (id : String) : Engine × List Effect :=
  match e.drives.get? id with
  | some d => e.putBack id (d.step e.settings scene e.desk)
  | none => (e, [])

/-- A drive heeds a request to cancel. -/
def heed (e : Engine) (scene : Scene) (id : String) : Engine × List Effect :=
  match e.drives.get? id with
  | some d => e.putBack id (d.heed scene e.desk)
  | none => (e, [])

/-- A node step goes on. -/
def work (e : Engine) (scene : Scene) (id : String) (round index : Nat) : Engine × List Effect :=
  match e.drives.get? id with
  | some d => e.putBack id (d.work e.settings scene e.desk round index)
  | none => (e, [])

/-- What may happen to an engine. -/
inductive Event where
  | submit (op : Operation) (cluster : Cluster) (steps : List Step)
  | cancel (operationId : String)
  | shutdown
  | receive (payload : ByteArray)
  | step (operationId : String)
  | heed (operationId : String)
  | work (operationId : String) (round index : Nat)

/-- What an event does; a submission that is refused does nothing. -/
def next (e : Engine) (scene : Scene) : Event → Engine × List Effect
  | .submit op cluster steps =>
    match e.submit scene op cluster steps with
    | .ok moved => moved
    | .error _ => (e, [])
  | .cancel id => ((e.cancel id).2, [])
  | .shutdown => (e.shutdown, [])
  | .receive payload => (e.receive payload, [])
  | .step id => e.step scene id
  | .heed id => e.heed scene id
  | .work id round index => e.work scene id round index

/-- What a sequence of events does, each at its own moment. -/
def run (e : Engine) : List (Scene × Event) → Engine × List Effect
  | [] => (e, [])
  | (scene, event) :: rest =>
    let (e, effects) := e.next scene event
    let (e, later) := e.run rest
    (e, effects ++ later)

/-! ### What can go on -/

/-- A fiber goes on as far as its next move: a request to cancel is heeded first. -/
def move (e : Engine) (scene : Scene) : Fiber → Engine × List Effect
  | .drive id =>
    match e.drives.get? id with
    | some d =>
      match d.cancelRequested, d.phase with
      | true, .starting => e.step scene id
      | true, _ => e.heed scene id
      | false, _ => e.step scene id
    | none => (e, [])
  | .worker id round index => e.work scene id round index

/-- Whether a drive can go on. -/
def canStep (scene : Scene) (d : Drive) : Bool :=
  match d.phase with
  | .starting => true
  | .pausing _ due => d.cancelRequested || decide (due ≤ scene.now)
  | .dispatching _ _ round => d.cancelRequested || !round.outcomes.isEmpty
  | .finished => false

/-- The fibers of a drive that can go on. -/
def readyIn (scene : Scene) (router : ReplyRouter) (id : String) (d : Drive) : List Fiber :=
  let workers := match d.phase with
    | .dispatching _ _ round =>
      (round.lanes.zipIdx.filter fun (lane, _) => round.isReady scene router lane.slot).map
        fun (_, i) => Fiber.worker id d.rounds i
    | _ => []
  if canStep scene d then .drive id :: workers else workers

/-- The fibers that can go on. -/
def ready (e : Engine) (scene : Scene) : List Fiber :=
  e.drives.toList.flatMap fun (id, d) => readyIn scene e.router id d

/-- The moment that a fiber waits for, if it waits for one. -/
def due? (e : Engine) : Fiber → Option Nat
  | .drive id =>
    match e.drives.get? id with
    | some d =>
      match d.phase with
      | .pausing _ due => some due
      | _ => none
    | none => none
  | .worker id round index =>
    match e.drives.get? id with
    | some d =>
      match d.phase with
      | .dispatching _ _ r =>
        match r.slot? index with
        | some (.running x) => if d.rounds = round then some x.deadline else none
        | _ => none
      | _ => none
    | none => none

end Engine

end Muster
