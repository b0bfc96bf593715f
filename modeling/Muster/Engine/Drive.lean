import Muster.Engine.Error
import Muster.Engine.Round

/-!
# Driving an operation

A `Drive` carries one operation through its steps. Only the drive changes the record of the
operation, and it hands every change to the store. It moves in small steps, so that the world may do
anything in between: a node step goes on, an outcome is settled, a pause is over, a request to cancel
is heeded.
-/

set_option autoImplicit false

namespace Muster.Engine

/-- What a drive is doing. -/
inductive Phase where
  /-- Nothing has been done yet. -/
  | starting
  /-- The pause before a step. -/
  | pausing (step : Step) (due : Nat)
  /-- A round of a step that has these node steps. -/
  | dispatching (step : Step) (nodeSteps : List NodeStep) (round : Round)
  | finished

/-- An operation on its way. -/
structure Drive where
  op : Operation
  cluster : Cluster
  /-- The position of the step in progress. -/
  index : Nat
  /-- The steps after the one in progress. -/
  later : List Step
  /-- Whether somebody wants the operation to end. -/
  cancelRequested : Bool
  /-- The number of rounds begun so far. -/
  rounds : Nat
  phase : Phase

/-- What a move of a drive means for its step. -/
inductive Verdict where
  /-- The step goes on. -/
  | underWay
  /-- The step is over, and the next one may begin. -/
  | stepOver
  /-- The operation fails. -/
  | stopped (e : EngineError)

/-- What one move of a drive leads to. -/
structure Turn where
  verdict : Verdict
  drive : Drive
  desk : Desk

namespace Drive

/-- The stamp of a moment. -/
def stamp (scene : Scene) : UInt64 := scene.now.toUInt64

/-- Hands the record to the store. -/
def save (d : Drive) (desk : Desk) : Desk := desk.emit (.save d.op)

/-- Changes the record of the step in progress. -/
def modifyState (d : Drive) (f : StepState → StepState) : Drive :=
  { d with op := d.op.modifyStep d.index f }

/-- Changes the status of the step in progress. -/
def setStatus (d : Drive) (status : StepStatus) : Drive :=
  d.modifyState fun state => { state with status }

/-- Notes that the record has changed. -/
def touch (d : Drive) (scene : Scene) : Drive := { d with op := d.op.touch (stamp scene) }

/-- The record of the step in progress. -/
def state (d : Drive) : StepState := (d.op.steps[d.index]?).getD (.named "")

/-- Records how a node step ended. -/
def note (d : Drive) (scene : Scene) (n : NodeStep) (outcome : Outcome) : Drive :=
  (d.modifyState fun state => state.classify n.nodeId outcome.disposition).touch scene

/-- Takes over what the node steps of a round returned. -/
def collect (d : Drive) (scene : Scene) (round : Round) : Drive :=
  ({ d with op := { d.op with returnData := round.returned.foldl Dict.merge d.op.returnData } }).touch
    scene

/-- Makes the step at the position of the drive the one in progress. -/
def takeUp (d : Drive) (scene : Scene) (later : List Step) : Drive :=
  ({ d with op := d.op.advanceTo d.index.toUInt64 (stamp scene), later }).setStatus .running

/-- How the nodes of a step ended that did not succeed, in words. -/
def issuesOf (s : StepState) : Dict String :=
  let issues := s.failed
  let issues := s.timedOut.keys.foldl (fun d node => d.insert node "timed out") issues
  s.unreachable.keys.foldl (fun d node => d.insert node "unreachable") issues

/-- Adds what went wrong in the current step to the record. -/
def collectIssues (op : Operation) : Operation :=
  match op.steps[op.currentStep.toNat]? with
  | some state => { op with issues := op.issues.merge (issuesOf state) }
  | none => op

/-- Ends the operation. -/
def finish (scene : Scene) (desk : Desk) (d : Drive) (result : Except EngineError Unit) :
    Drive × Desk :=
  let op := match result with
    | .ok () => { d.op with status := .successful, message := "" }
    | .error e => collectIssues { d.op with status := .error, message := e.message }
  let op := op.touch (stamp scene)
  ({ d with op, phase := .finished }, (desk.emit (.save op)).emit (.finish op))

/-- Begins a round of the step in progress, with those of its node steps that are called up. -/
def dispatch (s : Settings) (scene : Scene) (desk : Desk) (d : Drive) (step : Step)
    (nodeSteps called : List NodeStep) : Turn :=
  let (named, identifiers) := desk.identifiers.freshFor called
  let d := d.modifyState fun state => { state with attempts := state.attempts + 1 }
  let round := Round.begin s scene step.skipUnreachable
    ⟨d.op.id, d.cluster, d.op.returnData⟩ named
  { verdict := .underWay
    drive := { d with phase := .dispatching step nodeSteps round, rounds := d.rounds + 1 }
    desk := { desk with identifiers } }

/-- Ends a round: takes over what its node steps returned and does what the policy decides. -/
def concludeRound (s : Settings) (scene : Scene) (desk : Desk) (d : Drive) (step : Step)
    (nodeSteps : List NodeStep) (round : Round) : Turn :=
  let d := d.collect scene round
  let desk := d.save (round.close desk)
  match (step.policyIn d.op.type).decision d.state nodeSteps.length step.maxRetries with
  | .proceed =>
    let d := (d.setStatus .successful).touch scene
    ⟨.stepOver, d, d.save desk⟩
  | .abort reason => ⟨.stopped (.policyAbort step.name reason), d.setStatus .error, desk⟩
  | .retry =>
    let again := round.again d.state
    if again.isEmpty then
      ⟨.stopped (.policyAbort step.name "nothing left to retry"), d.setStatus .error, desk⟩
    else dispatch s scene desk d step nodeSteps again

/-- Begins the first round of a step; without node steps it is over at once. -/
def firstRound (s : Settings) (scene : Scene) (desk : Desk) (d : Drive) (step : Step)
    (nodeSteps : List NodeStep) : Turn :=
  let turn := dispatch s scene desk d step nodeSteps nodeSteps
  match turn.drive.phase, nodeSteps with
  | .dispatching step nodeSteps round, [] =>
    concludeRound s scene turn.desk turn.drive step nodeSteps round
  | _, _ => turn

/-- Starts a step whose time has come. -/
def launch (s : Settings) (scene : Scene) (desk : Desk) (d : Drive) (step : Step) : Turn :=
  match step.workload with
  | .fixed nodeSteps => firstRound s scene desk d step nodeSteps
  | .built builder =>
    match builder d.op.returnData d.cluster d.op with
    | .ok nodeSteps => firstRound s scene desk d step nodeSteps
    | .error reason =>
      if step.ignoreDynamicError then
        let d := d.setStatus .skipped
        ⟨.stepOver, d, d.save desk⟩
      else ⟨.stopped (.dynamicStep step.name reason), d.setStatus .error, desk⟩

/-- Enters steps one after the other until one of them takes time. -/
def enter (s : Settings) (scene : Scene) (desk : Desk) (d : Drive) : List Step → Drive × Desk
  | [] => finish scene desk { d with later := [] } (.ok ())
  | step :: later =>
    if d.cancelRequested then finish scene desk { d with later := step :: later } (.error .cancelled)
    else
      let d := d.takeUp scene later
      let desk := d.save desk
      if step.waitMs ≠ 0 then ({ d with phase := .pausing step (scene.now + step.waitMs) }, desk)
      else
        let turn := launch s scene desk d step
        match turn.verdict with
        | .underWay => (turn.drive, turn.desk)
        | .stopped e => finish scene turn.desk turn.drive (.error e)
        | .stepOver => enter s scene turn.desk { turn.drive with index := d.index + 1 } later

/-- Goes on after a move. -/
def resolve (s : Settings) (scene : Scene) (turn : Turn) : Drive × Desk :=
  match turn.verdict with
  | .underWay => (turn.drive, turn.desk)
  | .stopped e => finish scene turn.desk turn.drive (.error e)
  | .stepOver =>
    enter s scene turn.desk { turn.drive with index := turn.drive.index + 1 } turn.drive.later

/-- Starts driving. -/
def begin (s : Settings) (scene : Scene) (desk : Desk) (d : Drive) : Drive × Desk :=
  let op := { d.op with status := d.op.type.runningStatus }
  let d := ({ d with op }).touch scene
  enter s scene (d.save desk) d d.later

/-- Settles the outcome that was handed in first. -/
def settle (s : Settings) (scene : Scene) (desk : Desk) (d : Drive) (step : Step)
    (nodeSteps : List NodeStep) (round : Round) : Turn :=
  match round.take? with
  | none => ⟨.underWay, d, desk⟩
  | some (lane, outcome, round) =>
    let policy := step.policyIn d.op.type
    let d := d.note scene lane.nodeStep outcome
    let desk := d.save desk
    let round := round.count outcome
    if outcome = .timedOut ∧ policy.finalizes d.state round.timeouts = true then
      let d := d.modifyState (round.sweep Round.givenUp)
      concludeRound s scene (d.save desk) d step nodeSteps round
    else
      let round := round.passOn (policy.halts d.state lane.nodeStep.nodeId) outcome
      if round.isOver then concludeRound s scene desk d step nodeSteps round
      else ⟨.underWay, { d with phase := .dispatching step nodeSteps round }, desk⟩

/-- Does what is next: starts, ends a pause that is over, or settles an outcome. -/
def step (s : Settings) (scene : Scene) (desk : Desk) (d : Drive) : Drive × Desk :=
  match d.phase with
  | .starting => begin s scene desk d
  | .pausing step due =>
    if due ≤ scene.now then resolve s scene (launch s scene desk d step) else (d, desk)
  | .dispatching step nodeSteps round => resolve s scene (settle s scene desk d step nodeSteps round)
  | .finished => (d, desk)

/-- Gives up a round because somebody wants the operation to end. -/
def abandon (scene : Scene) (desk : Desk) (d : Drive) (round : Round) : Turn :=
  let d := (d.modifyState (round.sweep fun _ => .failed "cancelled")).touch scene
  ⟨.stopped .cancelled, d.setStatus .error, round.close (d.save desk)⟩

/-- Heeds a request to cancel, where the drive waits for something. -/
def heed (scene : Scene) (desk : Desk) (d : Drive) : Drive × Desk :=
  if d.cancelRequested then
    match d.phase with
    | .pausing _ _ => finish scene desk d (.error .cancelled)
    | .dispatching _ _ round =>
      let turn := abandon scene desk d round
      finish scene turn.desk turn.drive (.error .cancelled)
    | .starting => (d, desk)
    | .finished => (d, desk)
  else (d, desk)

/-- Lets a node step of the current round go on. -/
def work (s : Settings) (scene : Scene) (desk : Desk) (d : Drive) (round i : Nat) : Drive × Desk :=
  match d.phase with
  | .dispatching step nodeSteps r =>
    if d.rounds = round then
      let (r, desk) := r.work s scene desk i
      ({ d with phase := .dispatching step nodeSteps r }, desk)
    else (d, desk)
  | _ => (d, desk)

end Drive

end Muster.Engine
