import Muster.Proofs.Sending
import Muster.Proofs.Turn

/-!
# What a drive does between two effects

A move of a drive may enter several steps and save the record many times. Here it is taken apart into
acts, each of which changes one thing and has the effects that go with it. A `Station` is where a drive
stands between two acts, at rest or in the middle of a move; what an act can do is said once by the
constructors of `Act`, and the moves of a drive are chains of acts (`brings_step`, `brings_heed`,
`brings_work`).
-/

set_option autoImplicit false

namespace Muster

/-- The node steps of a step: they are known, or built out of what an operation has come to. -/
def Workload.yield (w : Workload) (cluster : Cluster) (op : Operation) : Except String (List NodeStep) :=
  match w with
  | .fixed nodeSteps => .ok nodeSteps
  | .built builder => builder op.returnData cluster op

namespace Operation

/-- No step knows two endings of one node. -/
def Exclusive (op : Operation) : Prop := ∀ state ∈ op.steps, state.Exclusive

theorem Exclusive.modifyStep {op : Operation} {f : StepState → StepState} (h : op.Exclusive) (index : Nat)
    (keeps : ∀ state, state.Exclusive → (f state).Exclusive) : (op.modifyStep index f).Exclusive := by
  intro state member
  obtain ⟨k, found⟩ := List.mem_iff_getElem?.1 member
  simp only [Operation.modifyStep, List.getElem?_modify, Option.map_eq_map, Option.map_eq_some_iff] at found
  obtain ⟨old, here, rfl⟩ := found
  have before := h old (List.mem_of_getElem? here)
  split
  · exact keeps old before
  · exact before

end Operation

namespace Engine

/-! ### Stations -/

/-- Where the control of a drive stands. -/
inductive Point where
  /-- Nothing has been done yet. -/
  | starting
  /-- Before the next of the later steps. -/
  | entering
  /-- A step has been taken up, and nobody has been called yet. -/
  | takenUp (step : Step)
  /-- A round of a step. -/
  | calling (step : Step) (nodeSteps : List NodeStep) (round : Round)
  /-- Nothing is left to do but to say how it ended. -/
  | stopping (result : Except EngineError Unit)
  | ended

namespace Point

/-- The step in progress. -/
def step? : Point → Option Step
  | .takenUp step => some step
  | .calling step _ _ => some step
  | _ => none

end Point

/-- Where a drive stands that rests in a phase. -/
def Phase.point : Phase → Point
  | .starting => .starting
  | .pausing step _ => .takenUp step
  | .dispatching step nodeSteps round => .calling step nodeSteps round
  | .finished => .ended

/-- A drive at a point, and the number of identifiers in use. -/
structure Station where
  point : Point
  drive : Drive
  used : Nat

namespace Drive

/-- The drive sets off. -/
def setOff (scene : Scene) (d : Drive) : Drive :=
  ({ d with op := { d.op with status := d.op.type.runningStatus } }).touch scene

/-- The drive goes on to the next position. -/
def leave (d : Drive) : Drive := { d with index := d.index + 1 }

/-- A round of the step in progress is counted. -/
def attempt (d : Drive) : Drive :=
  d.modifyState fun state => { state with attempts := state.attempts + 1 }

/-- The step in progress is over. -/
def proceed (scene : Scene) (d : Drive) : Drive := (d.setStatus .successful).touch scene

/-- The record with which the operation ends. -/
def final (scene : Scene) (d : Drive) : Except EngineError Unit → Operation
  | .ok () => ({ d.op with status := .successful, message := "" } : Operation).touch (stamp scene)
  | .error e => (collectIssues { d.op with status := .error, message := e.message }).touch (stamp scene)

/-- The round that begins when node steps are called up. -/
def opening (s : Settings) (scene : Scene) (desk : Desk) (d : Drive) (step : Step)
    (called : List NodeStep) : Round :=
  Round.begin s scene step.skipUnreachable ⟨d.op.id, d.cluster, d.op.returnData⟩ (named desk called)

/-- Nothing but the record of the step in progress and the returned data has changed, and the status of
the step has not. -/
structure Edits (d d' : Drive) : Prop where
  steps : ∃ f : StepState → StepState, (∀ state, (f state).status = state.status) ∧
    d'.op.steps = d.op.steps.modify d.index f
  id : d'.op.id = d.op.id
  type : d'.op.type = d.op.type
  status : d'.op.status = d.op.status
  currentStep : d'.op.currentStep = d.op.currentStep
  host : d'.op.host = d.op.host
  issues : d'.op.issues = d.op.issues
  exclusive : d.op.Exclusive → d'.op.Exclusive
  cluster : d'.cluster = d.cluster
  index : d'.index = d.index
  later : d'.later = d.later
  requested : d'.cancelRequested = d.cancelRequested

/-- Nothing of what the operation has come to has changed. -/
structure Rests (d d' : Drive) : Prop where
  op : d'.op = d.op
  cluster : d'.cluster = d.cluster
  index : d'.index = d.index
  later : d'.later = d.later
  requested : d.cancelRequested = true → d'.cancelRequested = true

end Drive

/-! ### Acts -/

/-- No operation ends. -/
def Unfinished (effects : List Effect) : Prop := ∀ last, .finish last ∉ effects

open Drive in
/-- One act of a drive, with its effects. -/
inductive Act (s : Settings) : Station → List Effect → Station → Prop where
  | setsOff {d : Drive} {n : Nat} (scene : Scene) :
      Act s ⟨.starting, d, n⟩ [.save (d.setOff scene).op] ⟨.entering, d.setOff scene, n⟩
  /-- No step is left. -/
  | completes {d : Drive} {n : Nat} (none : d.later = []) :
      Act s ⟨.entering, d, n⟩ [] ⟨.stopping (.ok ()), d, n⟩
  /-- A request to cancel is heeded before the next step. -/
  | turnsBack {d : Drive} {n : Nat} (some : d.later ≠ []) (requested : d.cancelRequested = true) :
      Act s ⟨.entering, d, n⟩ [] ⟨.stopping (.error .cancelled), d, n⟩
  | takesUp {d : Drive} {n : Nat} {step : Step} {later : List Step} (scene : Scene)
      (some : d.later = step :: later) (wanted : d.cancelRequested = false) :
      Act s ⟨.entering, d, n⟩ [.save (d.takeUp scene later).op] ⟨.takenUp step, d.takeUp scene later, n⟩
  /-- A request to cancel is heeded before anybody was called. -/
  | breaksOff {d : Drive} {n : Nat} {step : Step} (requested : d.cancelRequested = true) :
      Act s ⟨.takenUp step, d, n⟩ [] ⟨.stopping (.error .cancelled), d, n⟩
  /-- The node steps cannot be built, and the step is left out. -/
  | skips {d : Drive} {n : Nat} {step : Step} {reason : String}
      (fails : step.workload.yield d.cluster d.op = .error reason)
      (ignored : step.ignoreDynamicError = true) :
      Act s ⟨.takenUp step, d, n⟩ [.save (d.setStatus .skipped).op]
        ⟨.entering, (d.setStatus .skipped).leave, n⟩
  /-- The first round of a step begins. -/
  | calls {d : Drive} {step : Step} {nodeSteps : List NodeStep} (scene : Scene) (desk : Desk)
      (yields : step.workload.yield d.cluster d.op = .ok nodeSteps) :
      Act s ⟨.takenUp step, d, desk.identifiers.used⟩ []
        ⟨.calling step nodeSteps (opening s scene desk d step nodeSteps), d.attempt,
          desk.identifiers.used + nodeSteps.length⟩
  /-- A node step goes on. -/
  | works {d : Drive} {n : Nat} {step : Step} {nodeSteps : List NodeStep} {round : Round} {desk : Desk}
      {after : Round × Desk} {sent : List Effect} (sends : round.Sends s desk after sent) :
      Act s ⟨.calling step nodeSteps round, d, n⟩ sent ⟨.calling step nodeSteps after.1, d, n⟩
  /-- How node steps have ended or what they have returned is recorded. -/
  | records {d d' : Drive} {n : Nat} {step : Step} {nodeSteps : List NodeStep} {round after : Round}
      (edits : d.Edits d') (continues : round.Continues after) :
      Act s ⟨.calling step nodeSteps round, d, n⟩ [.save d'.op] ⟨.calling step nodeSteps after, d', n⟩
  /-- Another round begins. -/
  | retries {d : Drive} {step : Step} {nodeSteps : List NodeStep} {round : Round} (scene : Scene)
      (desk : Desk) :
      Act s ⟨.calling step nodeSteps round, d, desk.identifiers.used⟩ []
        ⟨.calling step nodeSteps (opening s scene desk d step (round.again d.state)), d.attempt,
          desk.identifiers.used + (round.again d.state).length⟩
  | proceeds {d : Drive} {n : Nat} {step : Step} {nodeSteps : List NodeStep} {round : Round}
      (scene : Scene) :
      Act s ⟨.calling step nodeSteps round, d, n⟩ [.save (d.proceed scene).op]
        ⟨.entering, (d.proceed scene).leave, n⟩
  /-- The step in progress fails. -/
  | fails {p : Point} {d : Drive} {n : Nat} {step : Step} (e : EngineError)
      (within : p.step? = some step) :
      Act s ⟨p, d, n⟩ [] ⟨.stopping (.error e), d.setStatus .error, n⟩
  | finishes {d : Drive} {n : Nat} (scene : Scene) (result : Except EngineError Unit) :
      Act s ⟨.stopping result, d, n⟩ [.save (d.final scene result), .finish (d.final scene result)]
        ⟨.ended, { d with op := d.final scene result }, n⟩
  /-- Others go on: they take identifiers, and may want the operation to end. -/
  | rests {p : Point} {d d' : Drive} {n m : Nat} (same : d.Rests d') (more : n ≤ m) :
      Act s ⟨p, d, n⟩ [] ⟨p, d', m⟩

/-- Any number of acts and their effects, the oldest first. -/
inductive Acts (s : Settings) (a : Station) : List Effect → Station → Prop where
  | refl : Acts s a [] a
  | snoc {b c : Station} {effects more : List Effect} (acts : Acts s a effects b) (act : Act s b more c) :
      Acts s a (effects ++ more) c

variable {s : Settings} {a b c : Station} {effects more : List Effect}

theorem Acts.trans (first : Acts s a effects b) (second : Acts s b more c) :
    Acts s a (effects ++ more) c := by
  induction second with
  | refl =>
    rw [List.append_nil]
    exact first
  | snoc _ act ih =>
    rw [← List.append_assoc]
    exact ih.snoc act

/-- A move goes from one station to another by acts, and leaves their effects at the desk. -/
def Leads (s : Settings) (a : Station) (desk desk' : Desk) (b : Station) : Prop :=
  ∃ effects, desk'.effects = desk.effects ++ effects ∧ Acts s a effects b

namespace Leads

variable {desk desk' desk'' : Desk}

theorem refl (s : Settings) (a : Station) (desk : Desk) : Leads s a desk desk a :=
  ⟨[], (List.append_nil _).symm, .refl⟩

theorem act (leads : Leads s a desk desk' b) (act : Act s b more c)
    (effects : desk''.effects = desk'.effects ++ more) : Leads s a desk desk'' c := by
  obtain ⟨earlier, same, acts⟩ := leads
  exact ⟨earlier ++ more, by rw [effects, same, List.append_assoc], acts.snoc act⟩

/-- An act that nobody sees. -/
theorem quiet (leads : Leads s a desk desk' b) (act : Act s b [] c) (same : desk''.effects = desk'.effects) :
    Leads s a desk desk'' c :=
  leads.act act (by rw [same, List.append_nil])

theorem trans (first : Leads s a desk desk' b) (second : Leads s b desk' desk'' c) :
    Leads s a desk desk'' c := by
  obtain ⟨effects, same, acts⟩ := first
  obtain ⟨more, same', acts'⟩ := second
  exact ⟨effects ++ more, by rw [same', same, List.append_assoc], acts.trans acts'⟩

end Leads

/-! ### What changes the record within a step -/

namespace Drive

variable {d d' : Drive}

theorem edits_modifyState (d : Drive) (f : StepState → StepState)
    (keeps : ∀ state, (f state).status = state.status)
    (apart : ∀ state, state.Exclusive → (f state).Exclusive) : d.Edits (d.modifyState f) :=
  ⟨⟨f, keeps, rfl⟩, rfl, rfl, rfl, rfl, rfl, rfl, fun h => h.modifyStep d.index apart, rfl, rfl, rfl, rfl⟩

theorem Edits.touch (edits : d.Edits d') (scene : Scene) : d.Edits (d'.touch scene) :=
  ⟨edits.steps, edits.id, edits.type, edits.status, edits.currentStep, edits.host, edits.issues,
    edits.exclusive, edits.cluster, edits.index, edits.later, edits.requested⟩

theorem edits_note (d : Drive) (scene : Scene) (n : NodeStep) (outcome : Outcome) :
    d.Edits (d.note scene n outcome) :=
  (edits_modifyState d _ (fun _ => StepState.status_classify) fun _ h => h.classify _ _).touch scene

theorem edits_sweep (d : Drive) (round : Round) (ending : Slot → Disposition) :
    d.Edits (d.modifyState (round.sweep ending)) :=
  edits_modifyState d _ (fun state => Round.status_sweep ending state round) fun state h =>
    Round.exclusive_sweep ending state round h

theorem edits_collect (d : Drive) (scene : Scene) (round : Round) : d.Edits (d.collect scene round) :=
  ⟨⟨id, fun _ => rfl, (List.modify_id _ _).symm⟩, rfl, rfl, rfl, rfl, rfl, rfl, id, rfl, rfl, rfl, rfl⟩

end Drive

/-! ### How a round ends -/

/-- Where a turn leaves its drive. -/
def Turn.station (t : Turn) : Station :=
  match t.verdict with
  | .underWay => ⟨t.drive.phase.point, t.drive, t.desk.identifiers.used⟩
  | .stepOver => ⟨.entering, t.drive.leave, t.desk.identifiers.used⟩
  | .stopped e => ⟨.stopping (.error e), t.drive, t.desk.identifiers.used⟩

namespace Drive

variable (s : Settings) (scene : Scene) (desk : Desk) (d : Drive) (step : Step)
  (nodeSteps : List NodeStep) (round : Round)

theorem station_dispatch (called : List NodeStep) :
    (dispatch s scene desk d step nodeSteps called).station =
      ⟨.calling step nodeSteps (opening s scene desk d step called),
        (dispatch s scene desk d step nodeSteps called).drive,
        desk.identifiers.used + called.length⟩ := by
  have used : (desk.identifiers.freshFor called).2.used = desk.identifiers.used + called.length :=
    Identifiers.freshFor_used desk.identifiers called
  rw [← used]
  rfl

theorem rests_dispatch (called : List NodeStep) :
    d.attempt.Rests (dispatch s scene desk d step nodeSteps called).drive :=
  ⟨rfl, rfl, rfl, rfl, id⟩

variable {s scene desk d step nodeSteps round} {turn : Turn}

theorem Conclusion.leads (conclusion : Conclusion s scene desk d step nodeSteps round turn) :
    Leads s ⟨.calling step nodeSteps round, d, desk.identifiers.used⟩ desk turn.desk turn.station := by
  have here := Leads.refl s ⟨.calling step nodeSteps round, d, desk.identifiers.used⟩ desk
  cases conclusion with
  | proceeds decided => exact here.act (.proceeds scene) rfl
  | aborts reason decided => exact here.quiet (.fails _ rfl) rfl
  | nothingLeft decided none => exact here.quiet (.fails _ rfl) rfl
  | retries decided some =>
    rw [station_dispatch]
    have retried : Leads s ⟨.calling step nodeSteps round, d, desk.identifiers.used⟩ desk desk _ :=
      here.quiet (.retries scene desk) rfl
    exact retried.quiet (.rests (rests_dispatch ..) (Nat.le_refl _)) rfl

variable (s scene desk d step nodeSteps round)

/-- The end of a round is a record of what was returned, and then what the policy decides. -/
theorem leads_concludeRound :
    let turn := concludeRound s scene desk d step nodeSteps round
    Leads s ⟨.calling step nodeSteps round, d, desk.identifiers.used⟩ desk turn.desk turn.station := by
  intro turn
  have collected : Leads s ⟨.calling step nodeSteps round, d, desk.identifiers.used⟩ desk
      ((d.collect scene round).save (round.close desk))
      ⟨.calling step nodeSteps round, d.collect scene round, desk.identifiers.used⟩ :=
    (Leads.refl ..).act (.records (edits_collect d scene round) (.refl round)) rfl
  exact collected.trans (concludeRound_cases s scene desk d step nodeSteps round).leads

variable {s scene desk d step nodeSteps round}

theorem continues_onward (lane : Lane) (outcome : Outcome) (taken : Round) :
    taken.Continues (onward d step lane outcome taken) :=
  (Round.continues_count taken outcome).trans (Round.continues_passOn _ _ outcome)

theorem Settlement.leads (settlement : Settlement s scene desk d step nodeSteps round turn)
    (phase : d.phase = .dispatching step nodeSteps round) :
    Leads s ⟨.calling step nodeSteps round, d, desk.identifiers.used⟩ desk turn.desk turn.station := by
  -- Every outcome is recorded before anything else.
  have noted {lane : Lane} {outcome : Outcome} {taken after : Round}
      (took : round.take? = some (lane, outcome, taken)) (onward : taken.Continues after) :
      Leads s ⟨.calling step nodeSteps round, d, desk.identifiers.used⟩ desk
        ((d.note scene lane.nodeStep outcome).save desk)
        ⟨.calling step nodeSteps after, d.note scene lane.nodeStep outcome, desk.identifiers.used⟩ :=
    (Leads.refl ..).act (.records (edits_note d scene lane.nodeStep outcome)
      ((Round.continues_of_take? took).trans onward)) rfl
  cases settlement with
  | idle none =>
    rw [Turn.station, phase]
    exact Leads.refl ..
  | finalizes lane outcome taken noted' swept took note gaveUp sweep =>
    subst note sweep
    refine Leads.trans ?_ (leads_concludeRound ..)
    exact (noted took (Round.continues_count taken outcome)).act
      (.records (edits_sweep _ (taken.count outcome) Round.givenUp) (.refl _)) rfl
  | ends lane outcome taken noted' took note patient atEnd =>
    subst note
    exact (noted took (continues_onward ..)).trans (leads_concludeRound ..)
  | goesOn lane outcome taken noted' took note patient busy =>
    subst note
    exact (noted took (continues_onward ..)).quiet (.rests ⟨rfl, rfl, rfl, rfl, id⟩ (Nat.le_refl _)) rfl

/-! ### How a step begins -/

variable (s scene desk d step nodeSteps)

theorem leads_firstRound (yields : step.workload.yield d.cluster d.op = .ok nodeSteps) :
    let turn := firstRound s scene desk d step nodeSteps
    Leads s ⟨.takenUp step, d, desk.identifiers.used⟩ desk turn.desk turn.station := by
  intro turn
  have called : Leads s ⟨.takenUp step, d, desk.identifiers.used⟩ desk desk _ :=
    (Leads.refl ..).quiet (.calls scene desk yields) rfl
  have begun : Leads s ⟨.takenUp step, d, desk.identifiers.used⟩ desk
      (dispatch s scene desk d step nodeSteps nodeSteps).desk
      (dispatch s scene desk d step nodeSteps nodeSteps).station := by
    rw [station_dispatch]
    exact called.quiet (.rests (rests_dispatch ..) (Nat.le_refl _)) rfl
  by_cases none : nodeSteps = []
  · subst none
    exact begun.trans (leads_concludeRound ..)
  · have same : turn = dispatch s scene desk d step nodeSteps nodeSteps :=
      firstRound_of_ne_nil s scene desk d step nodeSteps none
    rw [same]
    exact begun

theorem launch_eq : launch s scene desk d step =
    match step.workload.yield d.cluster d.op with
    | .ok nodeSteps => firstRound s scene desk d step nodeSteps
    | .error reason =>
      if step.ignoreDynamicError then ⟨.stepOver, d.setStatus .skipped, (d.setStatus .skipped).save desk⟩
      else ⟨.stopped (.dynamicStep step.name reason), d.setStatus .error, desk⟩ := by
  rw [launch]
  cases step.workload <;> rfl

theorem leads_launch :
    let turn := launch s scene desk d step
    Leads s ⟨.takenUp step, d, desk.identifiers.used⟩ desk turn.desk turn.station := by
  intro turn
  have equal : turn = _ := launch_eq s scene desk d step
  have here := Leads.refl s ⟨.takenUp step, d, desk.identifiers.used⟩ desk
  split at equal
  · next nodeSteps yields =>
    rw [equal]
    exact leads_firstRound s scene desk d step nodeSteps yields
  · next reason fails =>
    split at equal
    · next ignored =>
      rw [equal]
      exact here.act (.skips fails ignored) rfl
    · rw [equal]
      exact here.quiet (.fails _ rfl) rfl

/-- A turn leaves the position of the drive and the later steps as they are. -/
theorem place_concludeRound :
    let turn := concludeRound s scene desk d step nodeSteps round
    turn.drive.index = d.index ∧ turn.drive.later = d.later := by
  intro turn
  have cases := concludeRound_cases s scene desk d step nodeSteps round
  generalize equal : concludeRound s scene desk d step nodeSteps round = u at cases
  rw [show turn = u from equal]
  cases cases <;> exact ⟨rfl, rfl⟩

theorem place_launch :
    let turn := launch s scene desk d step
    turn.drive.index = d.index ∧ turn.drive.later = d.later := by
  intro turn
  have equal : turn = _ := launch_eq s scene desk d step
  split at equal
  · next nodeSteps yields =>
    by_cases none : nodeSteps = []
    · subst none
      rw [equal]
      exact place_concludeRound ..
    · rw [equal, firstRound_of_ne_nil s scene desk d step nodeSteps none]
      exact ⟨rfl, rfl⟩
  · split at equal <;> rw [equal] <;> exact ⟨rfl, rfl⟩

end Drive

/-! ### The moves of a drive -/

/-- Where a move leaves its drive. -/
def resting (moved : Drive × Desk) : Station :=
  ⟨moved.1.phase.point, moved.1, moved.2.identifiers.used⟩

/-- A move takes a drive from a point to where it rests. -/
def Brings (s : Settings) (p : Point) (desk : Desk) (d : Drive) (moved : Drive × Desk) : Prop :=
  Leads s ⟨p, d, desk.identifiers.used⟩ desk moved.2 (resting moved)

namespace Drive

variable (s : Settings) (scene : Scene) (desk : Desk) (d : Drive)

theorem brings_finish (result : Except EngineError Unit) :
    Brings s (.stopping result) desk d (finish scene desk d result) := by
  have finished : Leads s ⟨.stopping result, d, desk.identifiers.used⟩ desk
      ((desk.emit (.save (d.final scene result))).emit (.finish (d.final scene result)))
      ⟨.ended, { d with op := d.final scene result }, desk.identifiers.used⟩ :=
    (Leads.refl ..).act (.finishes scene result) (List.append_assoc ..)
  cases result <;> exact finished.quiet (.rests ⟨rfl, rfl, rfl, rfl, id⟩ (Nat.le_refl _)) rfl

/-- A step that does not have to wait is launched at once. -/
theorem enter_cons (step : Step) (later : List Step) : enter s scene desk d (step :: later) =
    if d.cancelRequested then finish scene desk { d with later := step :: later } (.error .cancelled)
    else if step.waitMs ≠ 0 then
      ({ d.takeUp scene later with phase := .pausing step (scene.now + step.waitMs) },
        (d.takeUp scene later).save desk)
    else resolve s scene (launch s scene ((d.takeUp scene later).save desk) (d.takeUp scene later) step) := by
  rw [enter]
  split
  · rfl
  · simp only
    split
    · rfl
    · obtain ⟨index, rest⟩ :=
        place_launch s scene ((d.takeUp scene later).save desk) (d.takeUp scene later) step
      generalize launch s scene ((d.takeUp scene later).save desk) (d.takeUp scene later) step = turn
        at index rest ⊢
      obtain ⟨verdict, drive, desk'⟩ := turn
      cases verdict with
      | stepOver =>
        have rest : drive.later = later := rest
        simp only [resolve] at index ⊢
        rw [index, rest]
      | _ => rfl

variable {s scene desk d} in
/-- What a turn means for its step is seen to. -/
theorem resolves {a : Station} {turn : Turn} (leads : Leads s a desk turn.desk turn.station)
    (enters : turn.verdict = .stepOver → Brings s .entering turn.desk turn.drive.leave
      (enter s scene turn.desk turn.drive.leave turn.drive.later)) :
    Leads s a desk (resolve s scene turn).2 (resting (resolve s scene turn)) := by
  obtain ⟨verdict, drive, desk'⟩ := turn
  cases verdict with
  | underWay => exact leads
  | stopped e => exact leads.trans (brings_finish ..)
  | stepOver => exact leads.trans (enters rfl)

theorem brings_enter {later : List Step} (same : d.later = later) :
    Brings s .entering desk d (enter s scene desk d later) := by
  induction later generalizing desk d with
  | nil =>
    have atEnd : Leads s ⟨.entering, d, desk.identifiers.used⟩ desk desk _ :=
      (Leads.refl ..).quiet (.completes same) rfl
    have here : { d with later := [] } = d := by rw [← same]
    rw [enter, here]
    exact atEnd.trans (brings_finish ..)
  | cons step later ih =>
    rw [enter_cons]
    split
    · next requested =>
      have atEnd : Leads s ⟨.entering, d, desk.identifiers.used⟩ desk desk _ :=
        (Leads.refl ..).quiet (.turnsBack (by rw [same]; simp) requested) rfl
      have here : { d with later := step :: later } = d := by rw [← same]
      rw [here]
      exact atEnd.trans (brings_finish ..)
    · next wanted =>
      have taken : Leads s ⟨.entering, d, desk.identifiers.used⟩ desk ((d.takeUp scene later).save desk)
          ⟨.takenUp step, d.takeUp scene later, desk.identifiers.used⟩ :=
        (Leads.refl ..).act (.takesUp scene same (Bool.eq_false_iff.2 wanted)) rfl
      split
      · exact taken.quiet (.rests ⟨rfl, rfl, rfl, rfl, id⟩ (Nat.le_refl _)) rfl
      · have launched := leads_launch s scene ((d.takeUp scene later).save desk) (d.takeUp scene later) step
        obtain ⟨-, rest⟩ :=
          place_launch s scene ((d.takeUp scene later).save desk) (d.takeUp scene later) step
        refine resolves (taken.trans launched) fun _ => ?_
        rw [rest]
        exact ih _ _ rest

theorem brings_resolve {a : Station} {turn : Turn} (leads : Leads s a desk turn.desk turn.station) :
    Leads s a desk (resolve s scene turn).2 (resting (resolve s scene turn)) :=
  resolves leads fun _ => brings_enter s scene turn.desk turn.drive.leave rfl

/-- **What a drive does next** is a chain of acts. -/
theorem brings_step : Brings s d.phase.point desk d (d.step s scene desk) := by
  rw [step]
  split
  · next phase =>
    have off : Leads s ⟨.starting, d, desk.identifiers.used⟩ desk ((d.setOff scene).save desk)
        ⟨.entering, d.setOff scene, desk.identifiers.used⟩ :=
      (Leads.refl ..).act (.setsOff scene) rfl
    rw [phase]
    exact off.trans (brings_enter s scene _ (d.setOff scene) rfl)
  · next step due phase =>
    rw [phase]
    split
    · exact brings_resolve s scene desk (leads_launch s scene desk d step)
    · rw [Brings, resting, phase]
      exact Leads.refl ..
  · next step nodeSteps round phase =>
    rw [phase]
    exact brings_resolve s scene desk
      ((settle_cases s scene desk d step nodeSteps round).leads phase)
  · exact Leads.refl ..

theorem brings_heed : Brings s d.phase.point desk d (d.heed scene desk) := by
  rw [heed]
  split
  · next requested =>
    split
    · next step due phase =>
      have atEnd : Leads s ⟨.takenUp step, d, desk.identifiers.used⟩ desk desk _ :=
        (Leads.refl ..).quiet (.breaksOff requested) rfl
      rw [phase]
      exact atEnd.trans (brings_finish ..)
    · next step nodeSteps round phase =>
      rw [phase]
      have swept := (edits_sweep d round fun _ => .failed "cancelled").touch scene
      have recorded : Leads s ⟨.calling step nodeSteps round, d, desk.identifiers.used⟩ desk
          (abandon scene desk d round).desk _ :=
        (Leads.refl ..).act (.records swept (.refl round)) rfl
      have failed : Leads s ⟨.calling step nodeSteps round, d, desk.identifiers.used⟩ desk
          (abandon scene desk d round).desk _ :=
        recorded.quiet (.fails .cancelled rfl) rfl
      exact failed.trans (brings_finish ..)
    · exact Leads.refl ..
    · exact Leads.refl ..
  · exact Leads.refl ..

theorem brings_work (round i : Nat) : Brings s d.phase.point desk d (d.work s scene desk round i) := by
  rw [work]
  split
  · next step nodeSteps r phase =>
    split
    · obtain ⟨sent, sends⟩ := Round.sends_work s scene desk r i
      have worked : Leads s ⟨.calling step nodeSteps r, d, desk.identifiers.used⟩ desk
          (r.work s scene desk i).2 _ :=
        (Leads.refl ..).act (.works sends) sends.effects
      have same := Round.identifiers_work s scene desk r i
      rw [phase]
      exact worked.quiet (.rests ⟨rfl, rfl, rfl, rfl, id⟩ (by rw [same])) rfl
    · exact Leads.refl ..
  · exact Leads.refl ..

end Drive

end Engine

end Muster
