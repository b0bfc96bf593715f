import Muster.Proofs.LastRecord
import Muster.Proofs.Waiters
import Muster.Store

/-!
# An operation that is cancelled

A request to cancel stands until the operation ends. From then on no step is taken up any more
(`Acts.held`), and the drive takes the request where it waits for something or goes from one step to the
next (`Cancels`). `cancelled_for_good` says what is left of the operation then: a record that does not
change any more, whatever still arrives, and nobody who waits for replies.
-/

set_option autoImplicit false

namespace Muster

/-! ### What the store keeps -/

/-- What is remembered after the records among some effects were handed over. -/
def Records.after (r : Records) (effects : List Engine.Effect) : Records :=
  (Engine.records effects).foldl Records.saveOperation r

namespace Engine

theorem after_append (r : Records) (effects more : List Effect) :
    r.after (effects ++ more) = (r.after effects).after more := by
  rw [Records.after, records_append, List.foldl_append]
  rfl

/-- The store keeps the last record of every operation. -/
theorem get?_after (r : Records) (effects : List Effect) (id : String) :
    (r.after effects).operations.get? id
      = (latest? (concerning id effects)).or (r.operations.get? id) := by
  induction effects using List.reverseRecOn with
  | nil => rfl
  | append_singleton effects effect ih =>
    rw [after_append, concerning_append]
    cases effect with
    | save op =>
      have saved : ((r.after effects).after [.save op]).operations.get? id =
          if id = op.id then some op else (r.after effects).operations.get? id := Dict.get?_insert ..
      rw [saved]
      by_cases own : id = op.id
      · have here : concerning id [.save op] = [.save op] :=
          concerning_all fun effect member => by rw [List.mem_singleton.1 member, own]; rfl
        rw [if_pos own, here, latest?_save]
        rfl
      · have away : concerning id [.save op] = [] :=
          concerning_none (fun effect member => by rw [List.mem_singleton.1 member]; rfl) own
        rw [if_neg own, away, List.append_nil, ih]
    | send nodeId envelope =>
      have none : records (concerning id [.send nodeId envelope]) = [] := by
        rw [concerning, List.filter_cons]
        split <;> rfl
      rw [latest?, records_append, none, List.append_nil]
      exact ih
    | finish op =>
      have none : records (concerning id [.finish op]) = [] := by
        rw [concerning, List.filter_cons]
        split <;> rfl
      rw [latest?, records_append, none, List.append_nil]
      exact ih

/-! ### No further step -/

/-- The operation is to end, and the steps from a position on are pending and out of reach. -/
structure Station.Held (m : Nat) (a : Station) : Prop where
  requested : a.drive.cancelRequested = true
  pending : ∀ k status, m ≤ k → a.drive.op.statuses[k]? = some status → status = .pending
  within : ∀ step, a.point.step? = some step → a.drive.index < m

/-- The drive has not come to the step at a position yet. -/
def Drive.Ahead (d : Drive) (k : Nat) : Prop :=
  match d.phase with
  | .starting => d.index ≤ k
  | _ => d.index < k

section

variable {s : Settings} {a b : Station} {effects : List Effect} {id : String} {m k : Nat} {d d' : Drive}
  {e : Engine}

/-- What is out of reach stays as it is. -/
theorem Station.Held.move {p q : Point} {n n' : Nat} (held : Station.Held m ⟨p, d, n⟩)
    (requested : d'.cancelRequested = d.cancelRequested)
    (same : ∀ k, m ≤ k → d'.op.statuses[k]? = d.op.statuses[k]?)
    (within : ∀ step, q.step? = some step → d'.index < m) : Station.Held m ⟨q, d', n'⟩ := by
  obtain ⟨asked, pending, -⟩ := held
  refine ⟨requested.trans asked, fun k status from_ found => ?_, within⟩
  exact pending k status from_ ((same k from_).symm.trans found)

/-- The status of an earlier step is out of the way. -/
theorem Drive.statuses_of_set {status : StepStatus} (before : d.index < m)
    (statuses : d'.op.statuses = d.op.statuses.set d.index status) (k : Nat) (from_ : m ≤ k) :
    d'.op.statuses[k]? = d.op.statuses[k]? := by
  have differ : d.index ≠ k := by omega
  rw [statuses, List.getElem?_set_ne differ]

/-- **Once an operation is to end** no step is taken up any more. -/
theorem Act.held (act : Act s a effects b) (held : a.Held m) : b.Held m := by
  have along {d d' : Drive} (same : d'.op.statuses = d.op.statuses) (k : Nat) (_ : m ≤ k) :
      d'.op.statuses[k]? = d.op.statuses[k]? := by rw [same]
  cases act with
  | setsOff scene => exact held.move rfl (along rfl) (by simp [Point.step?])
  | completes none => exact held.move rfl (along rfl) (by simp [Point.step?])
  | turnsBack some requested => exact held.move rfl (along rfl) (by simp [Point.step?])
  | takesUp scene some wanted =>
    have asked := held.requested
    rw [wanted] at asked
    cases asked
  | breaksOff requested => exact held.move rfl (along rfl) (by simp [Point.step?])
  | @skips d n step reason fails ignored =>
    have before := held.within step rfl
    exact held.move rfl (Drive.statuses_of_set before (d.statuses_setStatus _)) (by simp [Point.step?])
  | @calls d step nodeSteps scene desk yields =>
    exact held.move rfl (along d.statuses_attempt) fun _ _ => held.within step rfl
  | @works d n step nodeSteps round desk after sent sends =>
    exact held.move rfl (along rfl) fun _ _ => held.within step rfl
  | @records d d' n step nodeSteps round after edits continues =>
    refine held.move edits.requested (along edits.statuses) fun _ _ => ?_
    rw [edits.index]
    exact held.within step rfl
  | @retries d step nodeSteps round scene desk =>
    exact held.move rfl (along d.statuses_attempt) fun _ _ => held.within step rfl
  | @proceeds d n step nodeSteps round scene =>
    have before := held.within step rfl
    exact held.move rfl (Drive.statuses_of_set before (d.statuses_proceed scene)) (by simp [Point.step?])
  | @fails p d n step e within =>
    have before := held.within step within
    exact held.move rfl (Drive.statuses_of_set before (d.statuses_setStatus _)) (by simp [Point.step?])
  | @finishes d n scene result =>
    exact held.move rfl (along (d.frame_final scene result).2.2.2) (by simp [Point.step?])
  | @rests p d d' n m same more =>
    obtain ⟨asked, pending, within⟩ := held
    refine ⟨same.requested asked, fun k status from_ found => ?_, fun step at_ => ?_⟩
    · have found' : d'.op.statuses[k]? = some status := found
      rw [same.op] at found'
      exact pending k status from_ found'
    · have index : d'.index = d.index := same.index
      rw [index]
      exact within step at_

theorem Acts.held (acts : Acts s a effects b) (filed : a.Filed id) (held : a.Held m) :
    b.Held m ∧ ∀ record ∈ Engine.records effects, ∀ k status, m ≤ k → record.statuses[k]? = some status →
      status = .pending := by
  induction acts with
  | refl => exact ⟨held, fun record saved => absurd saved List.not_mem_nil⟩
  | snoc acts act ih =>
    have next := act.held ih.1
    refine ⟨next, fun record saved k status from_ found => ?_⟩
    rw [records_append] at saved
    rcases List.mem_append.1 saved with before | now
    · exact ih.2 record before k status from_ found
    · rw [act.statuses_of_saved (acts.filed filed).1 now] at found
      exact next.pending k status from_ found

/-- The steps that a drive has not come to are out of its reach. -/
theorem Drive.Marked.held (marked : d.Marked) (requested : d.cancelRequested = true) (ahead : d.Ahead k)
    (begun : d.phase.point ≠ .ended) (n : Nat) : Station.Held k ⟨d.phase.point, d, n⟩ := by
  rw [Marked] at marked
  rw [Ahead] at ahead
  have out {i : Nat} (reached : d.op.Reached d.index i) (le : i ≤ k) (j : Nat) (status : StepStatus)
      (from_ : k ≤ j) (found : d.op.statuses[j]? = some status) : status = .pending :=
    (reached j status found).2 (le.trans from_)
  cases phase : d.phase with
  | starting =>
    rw [phase] at marked ahead
    exact ⟨requested, out marked ahead, by simp [Phase.point, Point.step?]⟩
  | pausing step due =>
    rw [phase] at marked ahead
    exact ⟨requested, out marked.reached ahead, fun _ _ => ahead⟩
  | dispatching step nodeSteps round =>
    rw [phase] at marked ahead
    exact ⟨requested, out marked.reached ahead, fun _ _ => ahead⟩
  | finished =>
    rw [phase] at begun
    exact absurd rfl begun

end

/-! ### Taking a request -/

/-- The turn that a drive makes next in the step in progress. -/
inductive Drive.Turns (s : Settings) (scene : Scene) (desk : Desk) (d : Drive) : Turn → Prop where
  | launch {step : Step} {due : Nat} (phase : d.phase = .pausing step due) (due : due ≤ scene.now) :
      Turns s scene desk d (d.launch s scene desk step)
  | settle {step : Step} {nodeSteps : List NodeStep} {round : Round}
      (phase : d.phase = .dispatching step nodeSteps round) :
      Turns s scene desk d (d.settle s scene desk step nodeSteps round)

/-- The events with which a drive takes a request to cancel. -/
inductive Cancels (e : Engine) (scene : Scene) (id : String) (d : Drive) : Event → Prop where
  | inPause {step : Step} {due : Nat} (phase : d.phase = .pausing step due) :
      Cancels e scene id d (.heed id)
  | inRound {step : Step} {nodeSteps : List NodeStep} {round : Round}
      (phase : d.phase = .dispatching step nodeSteps round) : Cancels e scene id d (.heed id)
  /-- Before the first step. -/
  | atStart (phase : d.phase = .starting) (more : d.later ≠ []) : Cancels e scene id d (.step id)
  /-- The step in progress is over, and another one would come. -/
  | between {turn : Turn} (turns : d.Turns e.settings scene e.desk turn) (done : turn.verdict = .stepOver)
      (more : d.later ≠ []) : Cancels e scene id d (.step id)

namespace Drive

variable (s : Settings) (scene : Scene) (desk : Desk) (d : Drive) (step : Step) (nodeSteps : List NodeStep)
  (round : Round)

/-- A turn leaves what is asked of the drive and the steps to come as they are. -/
def Awaits (d d' : Drive) : Prop := d'.cancelRequested = d.cancelRequested ∧ d'.later = d.later

variable {d} in
theorem Awaits.trans {d' d'' : Drive} (first : d.Awaits d') (second : d'.Awaits d'') : d.Awaits d'' :=
  ⟨second.1.trans first.1, second.2.trans first.2⟩

theorem awaits_concludeRound :
    d.Awaits (concludeRound s scene desk d step nodeSteps round).drive := by
  have cases := concludeRound_cases s scene desk d step nodeSteps round
  generalize concludeRound s scene desk d step nodeSteps round = turn at cases ⊢
  cases cases <;> exact ⟨rfl, rfl⟩

theorem awaits_launch : d.Awaits (launch s scene desk d step).drive := by
  have equal := launch_eq s scene desk d step
  split at equal
  · next nodeSteps yields =>
    rw [equal]
    by_cases none : nodeSteps = []
    · subst none
      exact awaits_concludeRound ..
    · rw [firstRound_of_ne_nil s scene desk d step nodeSteps none]
      exact ⟨rfl, rfl⟩
  · split at equal <;> rw [equal] <;> exact ⟨rfl, rfl⟩

theorem awaits_settle : d.Awaits (settle s scene desk d step nodeSteps round).drive := by
  have cases := settle_cases s scene desk d step nodeSteps round
  generalize settle s scene desk d step nodeSteps round = turn at cases ⊢
  cases cases with
  | idle none => exact ⟨rfl, rfl⟩
  | finalizes lane outcome taken noted swept took note gaveUp sweep =>
    have before : d.Awaits swept := by rw [sweep, note]; exact ⟨rfl, rfl⟩
    exact before.trans (awaits_concludeRound ..)
  | ends lane outcome taken noted took note patient atEnd =>
    have before : d.Awaits noted := by rw [note]; exact ⟨rfl, rfl⟩
    exact before.trans (awaits_concludeRound ..)
  | goesOn lane outcome taken noted took note patient busy =>
    have before : d.Awaits noted := by rw [note]; exact ⟨rfl, rfl⟩
    exact before

variable {s scene desk d}

theorem Turns.awaits {turn : Turn} (turns : d.Turns s scene desk turn) : d.Awaits turn.drive := by
  cases turns with
  | launch phase due => exact awaits_launch ..
  | settle phase => exact awaits_settle ..

theorem Turns.step_eq {turn : Turn} (turns : d.Turns s scene desk turn) :
    d.step s scene desk = resolve s scene turn := by
  cases turns with
  | launch phase due => rw [Drive.step, phase]; exact if_pos due
  | settle phase => rw [Drive.step, phase]

/-- No step is entered when the operation is to end. -/
theorem enter_requested (requested : d.cancelRequested = true) (more : d.later ≠ []) :
    enter s scene desk d d.later = finish scene desk d (.error .cancelled) := by
  cases later : d.later with
  | nil => exact absurd later more
  | cons step rest =>
    have here : { d with later := step :: rest } = d := by rw [← later]
    rw [enter_cons, if_pos requested, here]

end Drive

section

variable {e : Engine} {scene : Scene} {event : Event} {id : String} {d : Drive}

/-- The drive as it is left when a request is taken. -/
theorem Cancels.finishes (cancels : Cancels e scene id d event) (here : e.drives.get? id = some d)
    (requested : d.cancelRequested = true) :
    ∃ stopped desk, e.next scene event = e.putBack id (Drive.finish scene desk stopped (.error .cancelled)) ∧
      ∀ step nodeSteps round, event = .heed id → d.phase = .dispatching step nodeSteps round →
        stopped = (d.abandon scene e.desk round).drive := by
  cases cancels with
  | inPause phase =>
    refine ⟨d, e.desk, ?_, fun step nodeSteps round _ phase' => ?_⟩
    · rw [next, Engine.heed, here]
      exact congrArg (e.putBack id) (Drive.heed_pausing scene e.desk phase requested)
    · rw [phase] at phase'
      cases phase'
  | @inRound step nodeSteps round phase =>
    refine ⟨(d.abandon scene e.desk round).drive, (d.abandon scene e.desk round).desk, ?_, ?_⟩
    · rw [next, Engine.heed, here]
      simp only [Drive.heed, requested, if_true, phase]
    · intro step' nodeSteps' round' _ phase'
      rw [phase] at phase'
      cases phase'
      rfl
  | atStart phase more =>
    refine ⟨d.setOff scene, (d.setOff scene).save e.desk, ?_, fun _ _ _ heeds => Event.noConfusion heeds⟩
    have entered : d.step e.settings scene e.desk =
        Drive.enter e.settings scene ((d.setOff scene).save e.desk) (d.setOff scene) (d.setOff scene).later := by
      rw [Drive.step, phase]
      rfl
    rw [next, Engine.step, here]
    exact congrArg (e.putBack id) (entered.trans (Drive.enter_requested requested more))
  | @between turn turns done more =>
    refine ⟨turn.drive.leave, turn.desk, ?_, fun _ _ _ heeds => Event.noConfusion heeds⟩
    obtain ⟨asked, later⟩ := turns.awaits
    have entered : d.step e.settings scene e.desk =
        Drive.enter e.settings scene turn.desk turn.drive.leave turn.drive.leave.later := by
      rw [turns.step_eq, Drive.resolve, done]
      rfl
    have requested' : turn.drive.leave.cancelRequested = true := asked.trans requested
    have more' : turn.drive.leave.later ≠ [] := by
      rw [show turn.drive.leave.later = d.later from later]
      exact more
    rw [next, Engine.step, here]
    exact congrArg (e.putBack id) (entered.trans (Drive.enter_requested requested' more'))

/-- A request is taken by a move of the drive that sends nothing. -/
theorem Cancels.moves (cancels : Cancels e scene id d event) (here : e.drives.get? id = some d) :
    ∃ brought, d.Moves e.settings e.desk brought ∧ e.next scene event = e.putBack id brought ∧
      e.desk.Tends brought.2 := by
  have heeds : e.next scene (.heed id) = e.putBack id (d.heed scene e.desk) := by
    rw [next, Engine.heed, here]
  have steps : e.next scene (.step id) = e.putBack id (d.step e.settings scene e.desk) := by
    rw [next, Engine.step, here]
  cases cancels with
  | inPause phase => exact ⟨_, .heed scene, heeds, d.tends_heed scene e.desk⟩
  | inRound phase => exact ⟨_, .heed scene, heeds, d.tends_heed scene e.desk⟩
  | atStart phase more => exact ⟨_, .step scene, steps, d.tends_step e.settings scene e.desk⟩
  | between turns done more => exact ⟨_, .step scene, steps, d.tends_step e.settings scene e.desk⟩

end

/-! ### What is left -/

/-- The record of a step whose round was given up: every node with a node step that was not settled has
failed, and every other one has the ending that it had. -/
structure CalledOff (d : Drive) (round : Round) (state : StepState) : Prop where
  unsettled : ∀ lane ∈ round.lanes, lane.slot.isSettled = false →
    state.disposition lane.nodeStep.nodeId = some (.failed "cancelled")
  settled : ∀ node, (∀ lane ∈ round.lanes, lane.slot.isSettled = false → lane.nodeStep.nodeId ≠ node) →
    state.disposition node = d.state.disposition node

/-- At some moment of a history a round of an operation had a node step of this name. -/
def HasCalled (settings : Settings) (history : List (Scene × Event)) (id key : String) : Prop :=
  ∃ before after d, history = before ++ after ∧
    ((started settings).run before).1.drives.get? id = some d ∧ d.Calls key

theorem Drive.calledOff_abandon {d : Drive} (inRange : d.InRange) (scene : Scene) (desk : Desk)
    (round : Round) :
    ∃ state, (d.abandon scene desk round).drive.op.steps[d.index]? = some state ∧
      CalledOff d round state := by
  let ending (_ : Slot) : Disposition := .failed "cancelled"
  have swept : ((d.modifyState (round.sweep ending)).touch scene).InRange := inRange_modifyState inRange _
  have state : (d.abandon scene desk round).drive.state.endings = (round.sweep ending d.state).endings := by
    have closed := endings_setStatus swept .error
    have given : ((d.modifyState (round.sweep ending)).touch scene).state = round.sweep ending d.state :=
      state_modifyState inRange _
    rw [given] at closed
    exact closed
  have still : (d.abandon scene desk round).drive.InRange := inRange_modifyState swept _
  refine ⟨_, still.getElem?, fun lane among unsettled => ?_, fun node away => ?_⟩
  · rw [StepState.disposition_eq_of_endings state]
    rcases Round.sweep_cases ending d.state lane.nodeStep.nodeId round with ⟨_, _, _, _, failed⟩ | ⟨none, -⟩
    · exact failed
    · exact absurd rfl (none lane among unsettled)
  · rw [StepState.disposition_eq_of_endings state]
    rcases Round.sweep_cases ending d.state node round with ⟨lane, among, unsettled, own, -⟩ | ⟨-, same⟩
    · exact absurd own (away lane among unsettled)
    · exact same

/-- The step of a round has a record. -/
theorem Healthy.inRange {e : Engine} {id : String} {d : Drive} {step : Step} {nodeSteps : List NodeStep}
    {round : Round} (healthy : e.Healthy) (here : e.drives.get? id = some d)
    (phase : d.phase = .dispatching step nodeSteps round) : d.InRange := by
  have reserved := (healthy.onCourse id d here).1
  rw [station, phase] at reserved
  have length : d.op.steps.length = d.index + 1 + d.later.length := reserved.length
  rw [Drive.InRange]
  omega

/-- **A cancelled operation stays as it is.** In an engine that may have been through anything, an operation
is running and somebody wants it to end. Then no step that it has not come to is taken up any more: up to
the end of the operation every record shows those steps as pending. And whenever its drive takes the
request, in a pause, in a round, or before the next step, nothing is sent and the operation ends with
status `error` and the message "operation cancelled". If it was in a round, then the nodes whose node steps
were not settled have failed as cancelled, and the others have kept their endings. Whatever happens from
then on, short of another submission under the same identifier: nothing is sent or written for the
operation, nobody waits under the identifier of any node step that it ever had, and the store keeps the
last record. -/
theorem cancelled_for_good (settings : Settings) (before : List (Scene × Event)) {id : String} {d : Drive}
    (here : ((started settings).run before).1.drives.get? id = some d)
    (requested : d.cancelRequested = true) :
    let e := ((started settings).run before).1
    (∀ history, ∀ record ∈ records (tenure (concerning id (e.run history).2)), ∀ k status,
      d.Ahead k → record.statuses[k]? = some status → status = .pending) ∧
    ∀ scene event, Cancels e scene id d event →
      ∃ earlier last, concerning id (e.next scene event).2 = earlier ++ [.save last, .finish last] ∧
        (∀ nodeId envelope, .send nodeId envelope ∉ (e.next scene event).2) ∧
        last.status = .error ∧ last.message = "operation cancelled" ∧
        (∀ step nodeSteps round, event = .heed id → d.phase = .dispatching step nodeSteps round →
          ∃ state, last.steps[d.index]? = some state ∧ CalledOff d round state) ∧
        ∀ later : List (Scene × Event),
          (∀ entry ∈ later, ∀ op cluster steps, entry.2 = .submit op cluster steps → op.id ≠ id) →
          let after := (e.next scene event).1.run later
          after.1.drives.get? id = none ∧ concerning id after.2 = [] ∧
          (∀ key, HasCalled settings before id key → after.1.router.waiting.get? key = none) ∧
          ∀ store : Records,
            (store.after ((e.next scene event).2 ++ after.2)).operations.get? id = some last := by
  intro e
  have tidy := (tidy_started settings).run before
  obtain ⟨filed, begun⟩ := tidy.healthy.filed id d here
  have marked : d.Marked :=
    marked_run (healthy_started settings) (fun id d found => by simp [started] at found) before id d here
  refine ⟨fun history record saved k status ahead found => ?_, fun scene event cancels => ?_⟩
  · obtain ⟨b, acts, -⟩ := run_running tidy.healthy.filed here history
    obtain ⟨-, pending⟩ := acts.held filed (marked.held requested ahead begun _)
    exact pending record saved k status (Nat.le_refl k) found
  obtain ⟨stopped, desk, finishes, inRound⟩ := cancels.finishes here requested
  obtain ⟨brought, moves, moved, tends⟩ := cancels.moves here
  let last := stopped.final scene (.error .cancelled)
  -- What the event does, all of it for this operation.
  have effects : (e.next scene event).2 = desk.effects ++ [.save last, .finish last] := by
    rw [finishes, Drive.finish_eq]
    exact List.append_assoc ..
  have own : concerning id (e.next scene event).2 = (e.next scene event).2 := by
    rw [moved]
    exact concerning_all (tidy.healthy.filed.brought here moves).2.2
  have gone : (e.next scene event).1.drives.get? id = none := by
    rw [finishes, Drive.finish_eq]
    exact Dict.get?_erase_self ..
  have tidy' : (e.next scene event).1.Tidy := tidy.run [(scene, event)]
  refine ⟨desk.effects, last, own.trans effects, fun nodeId envelope => ?_, stopped.status_final scene _,
    stopped.message_final scene _, fun step nodeSteps round heeds phase => ?_, fun later once => ?_⟩
  · obtain ⟨more, same, silent⟩ := tends.silent
    have all : (e.next scene event).2 = more := by
      rw [moved]
      exact same.trans (List.nil_append more)
    rw [all]
    exact silent nodeId envelope
  · have inRange := tidy.healthy.inRange here phase
    obtain ⟨state, found, calledOff⟩ := Drive.calledOff_abandon inRange scene e.desk round
    refine ⟨state, ?_, calledOff⟩
    rw [stopped.steps_final scene, inRound step nodeSteps round heeds phase]
    exact found
  · obtain ⟨absent, nothing⟩ := run_absent tidy'.healthy.filed gone later once
    refine ⟨absent, nothing, fun key called => ?_, fun store => ?_⟩
    · obtain ⟨first, rest, d', rfl, there, calls⟩ := called
      have kept := ((tidy_started settings).run first).apart id d' key there calls
      have kept' := (kept.run rest).change (next_change _ scene event)
      have same : ((started settings).run (first ++ rest)).1 = (((started settings).run first).1.run rest).1 := by
        rw [run_append]
      have freed : (e.next scene event).1.KeptFor (· = id) key := by
        rw [show e = _ from same]
        exact kept'
      exact (tidy'.run later).waiting_eq_none ((freed.of_absent gone).run later)
    · rw [get?_after, concerning_append, nothing, List.append_nil, own, effects, latest?, records_append]
      have final : records [.save last, .finish last] = [last] := rfl
      rw [final, List.getLast?_concat]
      rfl

/-! ### A node step that is cancelled while it waits -/

namespace Sample

/-- The second step of the plan has sent its task when somebody wants the operation to end. -/
def waited : List (Scene × Event) :=
  [(scene, .submit operation default plan), (scene, .step "op"), (scene, .work "op" 1 0),
    (scene, .cancel "op")]

/-- The engine before the request is taken. -/
def interrupted : Engine := ((started Sample.settings).run waited).1

def interruptedDrive : Drive := (interrupted.drives.get? "op").getD drive

def interruptedRound : Round := roundOf ⟨.underWay, interruptedDrive, interrupted.desk⟩

end Sample

open Sample in
/-- Somebody waits for the answer to the task until the request is taken, and nobody does afterwards. -/
theorem sample_cancelled :
    interrupted.router.waiting.get? (Identifiers.text 0) = some 0 ∧
    ∃ last state, .finish last ∈ (interrupted.next scene (.heed "op")).2 ∧ last.status = .error ∧
      last.message = "operation cancelled" ∧ last.steps[1]? = some state ∧
      state.disposition "b" = some (.failed "cancelled") ∧
      (interrupted.next scene (.heed "op")).1.router.waiting.get? (Identifiers.text 0) = none := by
  have here : ((started Sample.settings).run waited).1.drives.get? "op" = some interruptedDrive := rfl
  obtain ⟨-, taken⟩ := cancelled_for_good Sample.settings waited here rfl
  have phase : ∃ step nodeSteps, interruptedDrive.phase = .dispatching step nodeSteps interruptedRound :=
    ⟨_, _, rfl⟩
  obtain ⟨step, nodeSteps, phase⟩ := phase
  obtain ⟨earlier, last, effects, -, status, message, inRound, afterwards⟩ :=
    taken scene (.heed "op") (.inRound phase)
  obtain ⟨state, found, calledOff⟩ := inRound step nodeSteps _ rfl phase
  have called : HasCalled Sample.settings waited "op" (Identifiers.text 0) :=
    ⟨waited, [], interruptedDrive, rfl, here, step, nodeSteps, _, phase, by decide⟩
  obtain ⟨-, -, nobody, -⟩ := afterwards [] (fun _ member => nomatch member)
  refine ⟨rfl, last, state, ?_, status, message, found, ?_, nobody _ called⟩
  · have own : .finish last ∈ concerning "op" (interrupted.next scene (.heed "op")).2 := by
      rw [show concerning "op" (interrupted.next scene (.heed "op")).2 = _ from effects]
      simp
    exact (List.mem_filter.1 own).1
  · have unsettled : ∃ lane ∈ interruptedRound.lanes, lane.slot.isSettled = false ∧
        lane.nodeStep.nodeId = "b" := ⟨_, List.mem_cons_self, rfl, rfl⟩
    obtain ⟨lane, among, busy, node⟩ := unsettled
    rw [← node]
    exact calledOff.unsettled lane among busy

end Engine

end Muster
