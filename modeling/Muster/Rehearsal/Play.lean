import Muster.Rehearsal.World

/-!
# Playing a rehearsal

A director gives cues: something is done at a moment, all operations are awaited, time is let pass.
Between its cues the world goes on. At the moment of a cue the director goes first; while it waits for
something to end, it goes on when nothing else can.
-/

set_option autoImplicit false

namespace Muster.Rehearsal

/-- What a director does. -/
inductive Act where
  /-- Submits an operation with steps, or with the reason why there are none. -/
  | submit (op : Operation) (cluster : Cluster) (steps : Except EngineError (List Step))
  | cancel (operationId : String)
  | isRunning (operationId : String)
  | setStatus (nodeId : String) (status : AgentStatus)
  | shutdown
  | publish (m : Message)
  | stored (operationId : String)
  | settings
  /-- Stops a real agent and waits until it has ended. -/
  | stop (nodeId : String)
  | loseBus

/-- What comes of an act. -/
inductive Outcome where
  | nothing
  | submitted
  | refused (e : EngineError)
  | flag (b : Bool)
  | record (op : Option Operation)
  | settings (s : Engine.Settings)

/-- What a director does or waits for. -/
inductive Cue where
  | act (time : Nat) (act : Act)
  /-- Waits until a real agent has ended. -/
  | ended (nodeId : String)
  /-- Waits until every operation has ended. -/
  | allEnded
  /-- Lets time pass. -/
  | linger (ms : Nat)
  /-- Waits for a moment. -/
  | moment (time : Nat)

/-- A rehearsal under way. -/
structure Play where
  world : World
  cues : List Cue
  /-- What came of the acts so far, newest first. -/
  outcomes : List Outcome
  /-- Whether each operation that was awaited still ran then, newest first. -/
  awaited : List Bool
  /-- Whether the moment has come that the director waited for. -/
  called : Bool

namespace World

/-- Whether a real agent has ended, or is none. -/
def hasEnded (w : World) (nodeId : String) : Bool :=
  match w.agents.get? nodeId with
  | some ⟨.real r, _⟩ =>
    match r.state with
    | .ended _ _ => true
    | _ => false
  | _ => true

/-- The result of a submission, if it has one. -/
def result? (w : World) (submission : Nat) : Option Result :=
  w.results.find? fun r => r.submission = submission

/-- Does what a director does. -/
def perform (w : World) : Act → Outcome × World
  | .submit op cluster steps =>
    match steps with
    | .error e => (.refused e, w)
    | .ok steps =>
      match w.submit op cluster steps with
      | .ok w => (.submitted, w)
      | .error e => (.refused e, w)
  | .cancel id =>
    let (found, engine) := w.engine.cancel id
    (.flag found, { w with engine })
  | .isRunning id => (.flag (w.engine.isRunning id), w)
  | .setStatus id status =>
    match w.records.setAgentStatus? id status with
    | some records => (.flag true, { w with records })
    | none => (.flag false, w)
  | .shutdown => (.nothing, w.shutdown)
  | .publish m => (.nothing, w.publish m)
  | .stored id => (.record (w.records.operations.get? id), w)
  | .settings => (.settings w.engine.settings, w)
  | .stop nodeId => (.nothing, w.endAgent nodeId true)
  | .loseBus => (.nothing, w.loseBus)

end World

namespace Play

/-- The operations that are still to be awaited, oldest first, as long as each has ended. -/
def awaitAll (w : World) : (left : Nat) → List Bool → List Bool
  | 0, awaited => awaited
  | left + 1, awaited =>
    match w.result? awaited.length with
    | some r => awaitAll w left (w.engine.isRunning r.op.id :: awaited)
    | none => awaited

/-- The director follows its cues until it has to wait. -/
def direct (p : Play) : List Cue → Play
  | [] => { p with cues := [] }
  | .act time act :: later =>
    if p.world.now < time then { p with cues := .act time act :: later }
    else
      let (outcome, world) := p.world.perform act
      let p := { p with world := world.refresh, outcomes := outcome :: p.outcomes }
      match act with
      | .stop nodeId =>
        if world.hasEnded nodeId then direct p later else { p with cues := .ended nodeId :: later }
      | _ => direct p later
  | .ended nodeId :: later =>
    if p.world.hasEnded nodeId then direct p later else { p with cues := .ended nodeId :: later }
  | .allEnded :: later =>
    let awaited := awaitAll p.world (p.world.submissions - p.awaited.length) p.awaited
    let p := { p with awaited }
    if awaited.length = p.world.submissions then direct p later
    else { p with cues := .allEnded :: later }
  | .linger ms :: later =>
    if ms = 0 then direct p later else { p with cues := .moment (p.world.now + ms) :: later }
  | .moment time :: later =>
    if p.world.now < time then { p with cues := .moment time :: later } else direct p later

/-- Whether the director has something to do although no moment has come. -/
def canDirect (p : Play) : Bool :=
  match p.cues with
  | .ended nodeId :: _ => p.world.hasEnded nodeId
  | .allEnded :: _ => (p.world.result? p.awaited.length).isSome
  | _ => false

/-- The moment that the director waits for. -/
def due? (p : Play) : Option Nat :=
  match p.cues with
  | .act time _ :: _ => some time
  | .moment time :: _ => some time
  | _ => none

/-- Moves the clock to the next moment at which something is due, if there is one. -/
def wait? (p : Play) : Option Play :=
  match (p.world.nextDue?.toList ++ p.due?.toList).min? with
  | none => none
  | some time =>
    let called := match p.due? with
      | some due => decide (due ≤ time)
      | none => false
    some { p with world := p.world.advanceTo time, called }

/-- Plays on until the director has no cue left; `fuel` bounds the number of moves. -/
def run : (fuel : Nat) → Play → Play
  | 0, p => p
  | fuel + 1, p =>
    if p.called then run fuel (direct { p with called := false } p.cues)
    else if p.cues.isEmpty then p
    else
      match p.world.step? with
      | some world => run fuel { p with world }
      | none =>
        if p.canDirect then run fuel (direct p p.cues)
        else
          match p.wait? with
          | some p => run fuel p
          | none => p

/-- More moves than a rehearsal makes. -/
def longest : Nat := 100000000

/-- Plays a rehearsal from its beginning. -/
def play (world : World) (cues : List Cue) : Play :=
  run longest ⟨world.refresh, cues, [], [], true⟩

end Play

end Muster.Rehearsal
