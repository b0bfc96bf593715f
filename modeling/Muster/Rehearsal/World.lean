import Muster.Engine
import Muster.Rehearsal.History
import Muster.Store

/-!
# The world of a rehearsal

A `World` is an engine, its store, a bus and agents on one clock that jumps to the next moment at
which something is due whenever nothing can go on. What can go on does so in the order in which it
became able to.
-/

set_option autoImplicit false

namespace Muster.Rehearsal

open Engine (Scene Effect)

/-- What can go on in a world. -/
inductive Fiber where
  | engine (fiber : Engine.Fiber)
  /-- Replies that came in on a subject are routed. -/
  | router (subject : String)
  /-- An agent looks at its messages. -/
  | agent (nodeId : String)
  /-- An answer is sent. -/
  | answer (id : Nat)
  /-- A real agent goes on with an errand. -/
  | errand (nodeId : String) (id : Nat)
  deriving DecidableEq, Repr

/-- A moment at which a fiber goes on. -/
structure Timer where
  due : Nat
  fiber : Fiber
  deriving DecidableEq, Repr

/-- An answer on its way: its message, and the time it takes or the moment it is due at. -/
structure Pending where
  id : Nat
  afterMs : Nat
  begun : Bool
  message : Message

/-- How an operation ended. -/
structure Result where
  submission : Nat
  time : Nat
  op : Operation

/-- A fleet on a clock. -/
structure World where
  now : Nat
  bus : Bus
  /-- The subjects that nothing can be published on. -/
  refused : List String
  /-- Whether the bus is gone. -/
  busLost : Bool
  engine : Engine
  /-- The subscriptions that replies come in on. -/
  routers : List (String × Nat)
  records : Records
  storeFails : Bool
  agents : Dict Agent
  pending : List Pending
  /-- The number of names given to answers and errands. -/
  named : Nat
  /-- In the order in which they were set. -/
  timers : List Timer
  /-- What can go on, the first first. -/
  queue : List Fiber
  /-- The number of operations submitted, and the number of each that runs. -/
  submissions : Nat
  running : Dict Nat
  /-- Everything below is newest first. -/
  saves : List Save
  results : List Result
  observations : List Observation
  published : List (Nat × Message)

namespace World

/-- A world in which nothing has happened. -/
def quiet (engine : Engine) : World where
  now := 0
  bus := .silent
  refused := []
  busLost := false
  engine
  routers := []
  records := .empty
  storeFails := false
  agents := .empty
  pending := []
  named := 0
  timers := []
  queue := []
  submissions := 0
  running := .empty
  saves := []
  results := []
  observations := []
  published := []

/-- Whether something can be published on a subject. -/
def accepts (w : World) (subject : String) : Bool := !w.busLost && !w.refused.contains subject

/-- What the engine sees. -/
def scene (w : World) : Scene := ⟨w.now, w.accepts, w.records.isUnreachable⟩

/-- Puts fibers at the end of the queue that are not in it. -/
def enqueue (w : World) (fibers : List Fiber) : World :=
  fibers.foldl (fun w f => if w.queue.contains f then w else { w with queue := w.queue ++ [f] }) w

/-- Whether a message waits at one of some subscriptions. -/
def hasMail (w : World) (subscriptions : List (String × Nat)) : Bool :=
  subscriptions.any fun (subject, id) => !(w.bus.pending subject id).isEmpty

/-- Puts everything into the queue that has become able to go on. -/
def refresh (w : World) : World :=
  let engine := (w.engine.ready w.scene).map Fiber.engine
  let routers := (w.routers.filter fun r => w.hasMail [r]).map fun r => Fiber.router r.1
  let agents := (w.agents.toList.filter fun a => w.hasMail a.2.subscriptions).map fun a =>
    Fiber.agent a.1
  w.enqueue (engine ++ routers ++ agents)

/-- Sets the timer of a fiber, in place of the one that it had. -/
def setTimer (w : World) (fiber : Fiber) (due : Option Nat) : World :=
  let others := w.timers.filter fun t => t.fiber ≠ fiber
  match due with
  | some due => if w.now < due then { w with timers := others ++ [⟨due, fiber⟩] } else { w with timers := others }
  | none => { w with timers := others }

/-- Publishes a message, if the bus takes it. -/
def publish (w : World) (m : Message) : World :=
  if w.accepts m.subject then
    { w with bus := w.bus.publish m, published := (w.now, m) :: w.published }
  else w

/-- Does what the engine does to the world. -/
def apply (w : World) : Effect → World
  | .save op =>
    let records := if w.storeFails then w.records else w.records.saveOperation op
    { w with records, saves := ⟨w.now, op⟩ :: w.saves }
  | .send nodeId envelope =>
    w.publish ⟨Subject.node nodeId, envelope.encode, some w.engine.inbox⟩
  | .finish op =>
    match w.running.get? op.id with
    | some submission =>
      { w with results := ⟨submission, w.now, op⟩ :: w.results, running := w.running.erase op.id }
    | none => w

/-- Takes over a move of the engine. -/
def take (w : World) (moved : Engine × List Effect) : World :=
  moved.2.foldl apply { w with engine := moved.1 }

/-- Lets a fiber of the engine go on as far as it can; `fuel` bounds the number of moves. -/
def runEngine : (fuel : Nat) → World → Engine.Fiber → World
  | 0, w, _ => w
  | fuel + 1, w, f =>
    if (w.engine.ready w.scene).contains f then
      runEngine fuel (w.take (w.engine.move w.scene f)).refresh f
    else w

/-- The moves that one fiber makes without a break, at most. -/
def patience : Nat := 100000

/-- Gives an answer its name and lets it go. -/
def spawnAnswer (w : World) (afterMs : Nat) (m : Message) : World :=
  let p : Pending := ⟨w.named, afterMs, false, m⟩
  World.enqueue { w with named := w.named + 1, pending := w.pending ++ [p] } [.answer w.named]

/-- Sends an answer, or waits until it is due. -/
def runAnswer (w : World) (id : Nat) : World :=
  match w.pending.find? fun p => p.id = id with
  | none => w
  | some p =>
    let others := w.pending.filter fun q => q.id ≠ id
    if p.begun || p.afterMs = 0 then World.publish { w with pending := others } p.message
    else
      World.setTimer { w with pending := others ++ [{ p with begun := true }] } (.answer id)
        (some (w.now + p.afterMs))

/-- Changes an agent. -/
def modifyAgent (w : World) (nodeId : String) (f : RealAgent → RealAgent) : World :=
  { w with
    agents := w.agents.modify nodeId fun a =>
      match a.performer with
      | .real r => { a with performer := .real (f r) }
      | .ruled _ => a }

/-- Gives an errand of a real agent its name and lets it go. -/
def spawnErrand (w : World) (nodeId : String) (e : Errand) : World :=
  let id := w.named
  let w := World.modifyAgent { w with named := id + 1 } nodeId fun r =>
    { r with errands := r.errands ++ [(id, e)] }
  w.enqueue [.errand nodeId id]

/-- An agent that answers by rules gets a message. -/
def observe (w : World) (nodeId : String) (rules : List AnswerRule) (m : Message) : World :=
  match Envelope.decode m.payload with
  | .error _ => w
  | .ok envelope =>
    match envelope.task with
    | .error _ => w
    | .ok task =>
      let (found, rules) := useAnswerRule (keyOf task) rules
      let w :=
        { w with
          agents := w.agents.modify nodeId fun a => { a with performer := .ruled rules }
          observations := ⟨w.now, nodeId, envelope, task, m.replyTo⟩ :: w.observations }
      let c := Correlation.ofEnvelope envelope nodeId
      (found.getD [.prompt]).foldl (fun w a => w.spawnAnswer a.afterMs (a.message c m.replyTo)) w

/-- An agent gets a message. -/
def deliver (w : World) (nodeId : String) (m : Message) : World :=
  match w.agents.get? nodeId with
  | none => w
  | some a =>
    match a.performer with
    | .ruled rules => w.observe nodeId rules m
    | .real _ => w.spawnErrand nodeId (.arrived m)

/-- Takes the messages out of subscriptions. -/
def drain (w : World) : List (String × Nat) → List Message × World
  | [] => ([], w)
  | (subject, id) :: rest =>
    let (first, bus) := w.bus.drain subject id
    let (later, w) := drain { w with bus } rest
    (first ++ later, w)

/-- Notes that a real agent has ended, once nothing is in flight or its grace is over. -/
def settleAgent (w : World) (nodeId : String) : World :=
  w.modifyAgent nodeId fun r =>
    match r.state with
    | .ending stopped grace =>
      if !(r.errands.any fun e => e.2.inFlight) || grace ≤ w.now then
        { r with
          errands := r.errands.filter fun e => !e.2.inFlight
          state := .ended stopped w.now }
      else r
    | _ => r

/-- An agent looks at its messages. -/
def runAgent (w : World) (nodeId : String) : World :=
  match w.agents.get? nodeId with
  | none => w
  | some a =>
    let (messages, w) := w.drain a.subscriptions
    (messages.foldl (fun w m => w.deliver nodeId m) w).settleAgent nodeId

/-- Puts an errand in place of an earlier stage of it, or away. -/
def setErrand (w : World) (nodeId : String) (id : Nat) (host : HostState) (e : Option Errand) :
    World :=
  w.modifyAgent nodeId fun r =>
    { r with
      host
      errands := match e with
        | some e => r.errands.map fun old => if old.1 = id then (id, e) else old
        | none => r.errands.filter fun old => old.1 ≠ id }

/-- A real agent goes on with an errand. -/
def runErrand (w : World) (nodeId : String) (id : Nat) : World :=
  match w.agents.get? nodeId with
  | none => w
  | some a =>
    match a.performer with
    | .ruled _ => w
    | .real r =>
      match r.errands.find? fun e => e.1 = id with
      | none => w
      | some (_, e) =>
        match e.proceed r.dispatcher w.now r.host with
        | (.detached c, host) =>
          ((w.setErrand nodeId id host none).spawnErrand nodeId (.background c)).settleAgent nodeId
        | (.waiting j, host) =>
          (w.setErrand nodeId id host (some (.running j))).setTimer (.errand nodeId id) (some j.next)
        | (.replied m, host) =>
          let w := (w.setErrand nodeId id host none).setTimer (.errand nodeId id) none
          (w.publish m).settleAgent nodeId

/-- Routes the replies that came in on a subject. -/
def runRouter (w : World) (subject : String) : World :=
  match w.routers.find? fun r => r.1 = subject with
  | none => w
  | some subscription =>
    let (messages, w) := w.drain [subscription]
    messages.foldl (fun w m => World.refresh { w with engine := w.engine.receive m.payload }) w

/-- Lets a fiber go on. -/
def runFiber (w : World) : Fiber → World
  | .engine f =>
    let w := runEngine patience w f
    w.setTimer (.engine f) (w.engine.due? f)
  | .router subject => w.runRouter subject
  | .agent nodeId => w.runAgent nodeId
  | .answer id => w.runAnswer id
  | .errand nodeId id => w.runErrand nodeId id

/-- Lets the first fiber of the queue go on, if there is one. -/
def step? (w : World) : Option World :=
  match w.queue with
  | [] => none
  | f :: queue => some (World.runFiber { w with queue } f).refresh

/-- The earliest moment that a timer is set to. -/
def nextDue? (w : World) : Option Nat := (w.timers.map Timer.due).min?

/-- Moves the clock to a moment and lets those go on whose time has come, in the order in which their
timers were set. -/
def advanceTo (w : World) (time : Nat) : World :=
  let due := w.timers.filter fun t => t.due ≤ time
  -- Timers set to an earlier moment come first.
  let due := due.mergeSort fun a b => decide (a.due ≤ b.due)
  let w := { w with now := max w.now time, timers := w.timers.filter fun t => !(t.due ≤ time : Bool) }
  (w.enqueue (due.map Timer.fiber)).refresh

/-! ### Setting the stage -/

/-- Subscribes to a subject. -/
def subscribe (w : World) (subject : String) (group : Option String) : World × (String × Nat) :=
  let (bus, id) := w.bus.subscribe subject group
  ({ w with bus }, (subject, id))

/-- Adds an agent that answers by rules. -/
def addRuled (w : World) (nodeId : String) (rules : List AnswerRule) : World :=
  let (w, s) := w.subscribe (Subject.node nodeId) none
  { w with agents := w.agents.insert nodeId ⟨.ruled rules, [s]⟩ }

/-- Adds a real agent. -/
def addReal (w : World) (nodeId group : String) (dispatcher : Dispatcher) (host : HostState)
    (graceMs : Nat) : World :=
  let (w, direct) := w.subscribe (Subject.node nodeId) none
  let (w, shared) := w.subscribe (Subject.group group) (some group)
  { w with
    agents := w.agents.insert nodeId
      ⟨.real ⟨dispatcher, group, host, graceMs, [], .serving⟩, [direct, shared]⟩ }

/-- Lets the engine listen for replies, unless a subject that it needs cannot be subscribed to. -/
def startEngine (w : World) (unsubscribable : List String) : Except EngineError World :=
  let inbox := w.engine.inbox
  if unsubscribable.contains inbox || unsubscribable.contains Subject.replies then
    .error (.bus BusError.closed.message)
  else
    let (w, direct) := w.subscribe inbox none
    let (w, shared) := w.subscribe Subject.replies none
    .ok { w with routers := [direct, shared] }

/-- The real agents by node. -/
def realAgents (w : World) : List (String × RealAgent) :=
  w.agents.toList.filterMap fun (nodeId, a) =>
    match a.performer with
    | .real r => some (nodeId, r)
    | .ruled _ => none

/-- Ends subscriptions. -/
def unsubscribeAll (w : World) (subscriptions : List (String × Nat)) : World :=
  { w with bus := subscriptions.foldl (fun b (subject, id) => b.unsubscribe subject id) w.bus }

/-- A real agent ends: it listens no more and waits for what is in flight. With `stopped` its
background tasks are cut short and say so. -/
def endAgent (w : World) (nodeId : String) (stopped : Bool) : World :=
  match w.agents.get? nodeId with
  | none => w
  | some a =>
    match a.performer with
    | .ruled _ => w
    | .real r =>
      match r.state with
      | .serving =>
        let w := w.unsubscribeAll a.subscriptions
        let farewells := if stopped then r.errands.filterMap fun e => e.2.cut else []
        let w := w.modifyAgent nodeId fun r =>
          { r with
            errands := r.errands.filter fun e => e.2.inFlight || !stopped
            state := .ending stopped (w.now + r.graceMs) }
        let w := farewells.foldl World.publish w
        (w.setTimer (.agent nodeId) (some (w.now + r.graceMs))).settleAgent nodeId
      | _ => w

/-- The bus goes away: nothing is delivered or published any more, and real agents end. -/
def loseBus (w : World) : World :=
  let w := { w with busLost := true }
  w.agents.keys.foldl (fun w nodeId => w.endAgent nodeId false) w

/-- The engine routes no more replies and cancels what it drives. -/
def shutdown (w : World) : World :=
  let w := w.unsubscribeAll w.routers
  { w with engine := w.engine.shutdown, routers := [] }

/-- Submits an operation. -/
def submit (w : World) (op : Operation) (cluster : Cluster) (steps : List Step) :
    Except EngineError World :=
  match w.engine.submit w.scene op cluster steps with
  | .error e => .error e
  | .ok moved =>
    let w := { w with running := w.running.insert op.id w.submissions, submissions := w.submissions + 1 }
    .ok (w.take moved)

end World

end Muster.Rehearsal
