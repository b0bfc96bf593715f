import Muster.Proofs.Trace

/-!
# The last record of an operation

A step that has been taken up is shown as running until its turn is over, and whatever ends a turn gives
the step another status (`Turn.Marks`). So the last record shows nobody running, with one exception: a
request to cancel that is heeded in the pause before a step ends the operation and leaves the step as
it is. `running_in_last_record` says that there is no other.
-/

set_option autoImplicit false

namespace Muster

/-! ### Which steps a record shows as running -/

namespace Operation

variable {op op' : Operation} {i k : Nat} {status : StepStatus}

/-- No step is shown as running. -/
def AtRest (op : Operation) : Prop := ∀ k : Nat, op.statuses[k]? ≠ some .running

/-- The step at a position is running. Those before it have passed, and those after it are pending. -/
structure Inside (op : Operation) (i : Nat) : Prop where
  reached : op.Reached i (i + 1)
  running : op.statuses[i]? = some .running

/-- The step at a position is no longer pending. -/
def Started (op : Operation) (k : Nat) : Prop := ∃ status, op.statuses[k]? = some status ∧ status ≠ .pending

theorem Reached.atRest (h : op.Reached i i) : op.AtRest := by
  intro k running
  obtain ⟨passed, pending⟩ := h k .running running
  rcases Nat.lt_or_ge k i with less | more
  · rcases passed less with other | other <;> cases other
  · cases pending more

/-- Nobody else is running. -/
theorem Inside.eq_of_running (h : op.Inside i) (running : op.statuses[k]? = some .running) : k = i := by
  obtain ⟨passed, pending⟩ := h.reached k .running running
  by_contra differ
  rcases Nat.lt_or_gt_of_ne differ with less | more
  · rcases passed less with other | other <;> cases other
  · cases pending more

theorem Inside.congr (h : op.Inside i) (same : op'.statuses = op.statuses) : op'.Inside i :=
  ⟨h.reached.congr same, same ▸ h.running⟩

/-- The step in progress gets another status. -/
theorem Inside.atRest (h : op.Inside i) (same : op'.statuses = op.statuses.set i status)
    (other : status ≠ .running) : op'.AtRest := by
  intro k running
  rw [same, List.getElem?_set] at running
  split at running
  · split at running
    · exact other (Option.some.inj running)
    · cases running
  · next away => exact away (h.eq_of_running running).symm

theorem Started.set (h : op.Started k) (same : op'.statuses = op.statuses.set i status)
    (some : status ≠ .pending) : op'.Started k := by
  obtain ⟨old, found, begun⟩ := h
  by_cases here : i = k
  · subst here
    have inside : i < op.statuses.length := (List.getElem?_eq_some_iff.1 found).1
    exact ⟨status, by rw [same, List.getElem?_set_self inside], some⟩
  · exact ⟨old, by rw [same, List.getElem?_set_ne here, found], begun⟩

theorem Started.congr (h : op.Started k) (same : op'.statuses = op.statuses) : op'.Started k := by
  rw [Started, same]
  exact h

end Operation

namespace Engine

open Operation (AtRest Inside Started)

/-! ### What the end of a turn leaves -/

/-- What a turn makes of the step in progress: as long as it is under way the statuses stay as they are,
and whatever ends it gives the step another status. -/
structure Turn.Marks (d : Drive) (t : Turn) : Prop where
  index : t.drive.index = d.index
  underWay : t.verdict = .underWay → t.drive.op.statuses = d.op.statuses ∧
    ∃ step nodeSteps round, t.drive.phase = .dispatching step nodeSteps round
  stepOver : t.verdict = .stepOver → ∃ status, status.Passed ∧
    t.drive.op.statuses = d.op.statuses.set d.index status
  stopped : ∀ e, t.verdict = .stopped e → t.drive.op.statuses = d.op.statuses.set d.index .error

/-- A record that fits the phase of its drive. -/
def Drive.Marked (d : Drive) : Prop :=
  match d.phase with
  | .starting => d.op.Reached d.index d.index
  | .pausing _ _ => d.op.Inside d.index
  | .dispatching _ _ _ => d.op.Inside d.index
  | .finished => d.op.AtRest

namespace Turn.Marks

variable {d d' : Drive} {t : Turn}

theorem congr (marks : t.Marks d') (same : d'.op.statuses = d.op.statuses) (index : d'.index = d.index) :
    t.Marks d := by
  obtain ⟨position, underWay, stepOver, stopped⟩ := marks
  rw [same] at underWay
  rw [same, index] at stepOver stopped
  exact ⟨position.trans index, underWay, stepOver, stopped⟩

theorem of_underWay {drive : Drive} {desk : Desk} {step : Step} {nodeSteps : List NodeStep} {round : Round}
    (index : drive.index = d.index) (same : drive.op.statuses = d.op.statuses)
    (phase : drive.phase = .dispatching step nodeSteps round) :
    (⟨.underWay, drive, desk⟩ : Turn).Marks d :=
  ⟨index, fun _ => ⟨same, step, nodeSteps, round, phase⟩, nofun, nofun⟩

theorem of_stepOver {drive : Drive} {desk : Desk} {status : StepStatus} (index : drive.index = d.index)
    (passed : status.Passed) (same : drive.op.statuses = d.op.statuses.set d.index status) :
    (⟨.stepOver, drive, desk⟩ : Turn).Marks d :=
  ⟨index, nofun, fun _ => ⟨status, passed, same⟩, nofun⟩

theorem of_stopped {drive : Drive} {desk : Desk} {e : EngineError} (index : drive.index = d.index)
    (same : drive.op.statuses = d.op.statuses.set d.index .error) :
    (⟨.stopped e, drive, desk⟩ : Turn).Marks d :=
  ⟨index, nofun, nofun, fun _ _ => same⟩

end Turn.Marks

namespace Drive

variable (s : Settings) (scene : Scene) (desk : Desk) (d : Drive) (step : Step)
  (nodeSteps : List NodeStep) (round : Round)

theorem marks_dispatch (called : List NodeStep) :
    (dispatch s scene desk d step nodeSteps called).Marks d :=
  .of_underWay rfl (statuses_attempt d) rfl

theorem marks_concludeRound : (concludeRound s scene desk d step nodeSteps round).Marks d := by
  have collected := edits_collect d scene round
  suffices marks : (concludeRound s scene desk d step nodeSteps round).Marks (d.collect scene round) from
    marks.congr collected.statuses collected.index
  have cases := concludeRound_cases s scene desk d step nodeSteps round
  generalize concludeRound s scene desk d step nodeSteps round = turn at cases ⊢
  cases cases with
  | proceeds decided => exact .of_stepOver rfl (.inl rfl) (statuses_setStatus ..)
  | aborts reason decided => exact .of_stopped rfl (statuses_setStatus ..)
  | nothingLeft decided none => exact .of_stopped rfl (statuses_setStatus ..)
  | retries decided some => exact marks_dispatch ..

theorem marks_settle (phase : d.phase = .dispatching step nodeSteps round) :
    (settle s scene desk d step nodeSteps round).Marks d := by
  have cases := settle_cases s scene desk d step nodeSteps round
  generalize settle s scene desk d step nodeSteps round = turn at cases ⊢
  have edited (lane : Lane) (outcome : Outcome) : d.Edits (d.note scene lane.nodeStep outcome) :=
    edits_note ..
  cases cases with
  | idle none => exact .of_underWay rfl rfl phase
  | finalizes lane outcome taken noted swept took note gaveUp sweep =>
    subst note sweep
    have noted := edited lane outcome
    have swept := edits_sweep (d.note scene lane.nodeStep outcome) (taken.count outcome) Round.givenUp
    exact (marks_concludeRound ..).congr (swept.statuses.trans noted.statuses)
      (swept.index.trans noted.index)
  | ends lane outcome taken noted took note patient atEnd =>
    subst note
    exact (marks_concludeRound ..).congr (edited lane outcome).statuses (edited lane outcome).index
  | goesOn lane outcome taken noted took note patient busy =>
    subst note
    exact .of_underWay (edited lane outcome).index (edited lane outcome).statuses rfl

theorem marks_firstRound : (firstRound s scene desk d step nodeSteps).Marks d := by
  by_cases none : nodeSteps = []
  · subst none
    rw [firstRound_nil]
    exact (marks_concludeRound ..).congr (statuses_attempt d) rfl
  · rw [firstRound_of_ne_nil s scene desk d step nodeSteps none]
    exact marks_dispatch ..

theorem marks_launch : (launch s scene desk d step).Marks d := by
  rw [launch_eq]
  split
  · exact marks_firstRound ..
  · split
    · exact .of_stepOver rfl (.inr rfl) (statuses_setStatus ..)
    · exact .of_stopped rfl (statuses_setStatus ..)

/-- Giving up a round closes its step. -/
theorem marks_abandon : (abandon scene desk d round).Marks d := by
  have swept := (edits_sweep d round fun _ => .failed "cancelled").touch scene
  have closed : (abandon scene desk d round).Marks
      ((d.modifyState (round.sweep fun _ => .failed "cancelled")).touch scene) :=
    .of_stopped rfl (statuses_setStatus ..)
  exact closed.congr swept.statuses swept.index

/-! ### The moves of a drive -/

variable {s scene desk d step nodeSteps round}

theorem finish_eq (scene : Scene) (desk : Desk) (d : Drive) (result : Except EngineError Unit) :
    finish scene desk d result = ({ d with op := d.final scene result, phase := .finished },
      (desk.emit (.save (d.final scene result))).emit (.finish (d.final scene result))) := by
  cases result <;> rfl

theorem marked_finish (result : Except EngineError Unit) (rest : d.op.AtRest) :
    (finish scene desk d result).1.Marked := by
  rw [finish_eq]
  intro k running
  rw [(frame_final d scene result).2.2.2] at running
  exact rest k running

theorem marked_resolve {turn : Turn} (marks : turn.Marks d) (inside : d.op.Inside d.index)
    (enters : turn.verdict = .stepOver → turn.drive.leave.op.Reached turn.drive.leave.index
      turn.drive.leave.index → (enter s scene turn.desk turn.drive.leave turn.drive.later).1.Marked) :
    (resolve s scene turn).1.Marked := by
  obtain ⟨verdict, drive, desk'⟩ := turn
  obtain ⟨index, underWay, stepOver, stopped⟩ := marks
  cases verdict with
  | underWay =>
    obtain ⟨same, step, nodeSteps, round, phase⟩ := underWay rfl
    have position : drive.index = d.index := index
    have here : drive.op.Inside drive.index := position ▸ inside.congr same
    have marked : drive.Marked := by
      rw [Marked, phase]
      exact here
    exact marked
  | stopped e => exact marked_finish _ (inside.atRest (stopped e rfl) (by simp))
  | stepOver =>
    obtain ⟨status, passed, same⟩ := stepOver rfl
    have position : drive.leave.index = d.index + 1 := congrArg (· + 1) index
    refine enters rfl ?_
    rw [position]
    exact inside.reached.pass passed same

theorem inside_takeUp {later : List Step} (scene : Scene) (reserved : d.Reserves d.index)
    (some : d.later = step :: later) (reached : d.op.Reached d.index d.index) :
    (d.takeUp scene later).op.Inside (d.takeUp scene later).index := by
  have statuses := statuses_takeUp d scene later
  have index : (d.takeUp scene later).index = d.index := rfl
  have length := reserved.length
  rw [some, List.length_cons] at length
  rw [index]
  refine ⟨reached.set (Nat.le_succ _) statuses, ?_⟩
  rw [statuses, List.getElem?_set_self (by rw [Operation.statuses, List.length_map]; omega)]

theorem marked_enter {later : List Step} (same : d.later = later) (reserved : d.Reserves d.index)
    (reached : d.op.Reached d.index d.index) : (enter s scene desk d later).1.Marked := by
  induction later generalizing desk d with
  | nil => exact marked_finish _ reached.atRest
  | cons step later ih =>
    rw [enter_cons]
    split
    · exact marked_finish _ reached.atRest
    · have inside := inside_takeUp scene reserved same reached
      split
      · exact inside
      · have launched := leads_launch s scene ((d.takeUp scene later).save desk) (d.takeUp scene later) step
        obtain ⟨-, rest⟩ :=
          place_launch s scene ((d.takeUp scene later).save desk) (d.takeUp scene later) step
        refine marked_resolve (marks_launch ..) inside fun stepOver reached' => ?_
        have left := launched.reserved (reserved.takeUp scene same)
        rw [Turn.station, stepOver] at left
        rw [rest]
        exact ih rest left reached'

/-- The next step is entered when those up to it have passed. -/
theorem marked_stepOver {a : Station} {turn : Turn} (leads : Leads s a desk turn.desk turn.station)
    (reserved : a.Reserved) (stepOver : turn.verdict = .stepOver)
    (reached : turn.drive.leave.op.Reached turn.drive.leave.index turn.drive.leave.index) :
    (enter s scene turn.desk turn.drive.leave turn.drive.later).1.Marked := by
  have left := leads.reserved reserved
  rw [Turn.station, stepOver] at left
  exact marked_enter rfl left reached

theorem marked_step (reserved : (⟨d.phase.point, d, desk.identifiers.used⟩ : Station).Reserved)
    (marked : d.Marked) : (d.step s scene desk).1.Marked := by
  rw [Drive.step]
  rw [Marked] at marked
  split
  · next phase =>
    rw [phase] at reserved marked
    exact marked_enter rfl (Reserves.same reserved rfl rfl) marked
  · next step due phase =>
    rw [phase] at reserved marked
    split
    · exact marked_resolve (marks_launch ..) marked
        (marked_stepOver (leads_launch s scene desk d step) reserved)
    · rw [Marked, phase]
      exact marked
  · next step nodeSteps round phase =>
    rw [phase] at reserved marked
    exact marked_resolve (marks_settle s scene desk d step nodeSteps round phase) marked
      (marked_stepOver ((settle_cases s scene desk d step nodeSteps round).leads phase) reserved)
  · next phase =>
    rw [Marked]
    exact marked

/-- A request that is heeded in a pause is the exception. -/
theorem marked_heed (marked : d.Marked)
    (busy : d.cancelRequested = true → ∀ step due, d.phase ≠ .pausing step due) :
    (d.heed scene desk).1.Marked := by
  rw [heed]
  split
  · next requested =>
    split
    · next step due phase => exact absurd phase (busy requested step due)
    · next step nodeSteps round phase =>
      rw [Marked, phase] at marked
      have closed := (marks_abandon scene desk d round).stopped .cancelled rfl
      exact marked_finish _ (marked.atRest closed (by simp))
    · exact marked
    · exact marked
  · exact marked

theorem marked_work (marked : d.Marked) (round i : Nat) : (d.work s scene desk round i).1.Marked := by
  rw [work]
  split
  · next step nodeSteps r phase =>
    split
    · rw [Marked, phase] at marked
      exact marked
    · exact marked
  · exact marked

end Drive

/-! ### The drives of an engine -/

/-- The records of an engine fit what its drives are doing. -/
def Marked (e : Engine) : Prop := ∀ id d, e.drives.get? id = some d → d.Marked

section

variable {e : Engine} {event : Event} {moved : Engine × List Effect} {id : String} {d : Drive}

/-- The pause of a drive that is broken off is its end. -/
theorem Drive.heed_pausing {step : Step} {due : Nat} (scene : Scene) (desk : Desk)
    (phase : d.phase = .pausing step due) (requested : d.cancelRequested = true) :
    d.heed scene desk = finish scene desk d (.error .cancelled) := by
  rw [Drive.heed, if_pos requested, phase]

theorem Drive.Moves.marked {s : Settings} {desk : Desk} {brought : Drive × Desk}
    (moves : d.Moves s desk brought) (marked : d.Marked)
    (reserved : (⟨d.phase.point, d, desk.identifiers.used⟩ : Station).Reserved)
    (goesOn : brought.1.phase.point ≠ .ended) : brought.1.Marked := by
  cases moves with
  | step scene => exact Drive.marked_step reserved marked
  | heed scene =>
    refine Drive.marked_heed marked fun requested step due phase => ?_
    rw [Drive.heed_pausing scene desk phase requested] at goesOn
    exact goesOn rfl
  | work scene round i => exact Drive.marked_work marked round i

theorem Change.marked (healthy : e.Healthy) (marked : e.Marked) (change : Change e event moved) :
    moved.1.Marked := by
  intro k d' found
  cases change with
  | @moves event id d brought here moves =>
    by_cases differ : k = id
    · subst differ
      rcases get?_putBack_self e k brought with ⟨kept, goesOn⟩ | ⟨gone, -⟩
      · rw [kept] at found
        cases found
        exact moves.marked (marked k d here) (healthy.onCourse k d here).1 goesOn
      · rw [gone] at found
        cases found
    · rw [get?_putBack_of_ne e brought differ] at found
      exact marked k d' found
  | rests f settings identifiers drives same =>
    rw [drives, Option.map_eq_some_iff] at found
    obtain ⟨d, here, rfl⟩ := found
    have before := marked k d here
    obtain ⟨still, phase⟩ := Drive.rests_asked (same k d)
    rw [Drive.Marked, phase, still.op, still.index]
    exact before
  | @submits scene op cluster steps moved accepted =>
    obtain ⟨-, -, -, rfl⟩ := submit_eq_ok.1 accepted
    simp only [Dict.get?_insert] at found
    split at found
    · cases found
      have reached := Drive.reached_submitted e.settings scene op cluster steps
      exact reached
    · exact marked k d' found

theorem marked_run (healthy : e.Healthy) (marked : e.Marked) (history : List (Scene × Event)) :
    (e.run history).1.Marked := by
  induction history generalizing e with
  | nil => exact marked
  | cons first rest ih =>
    exact ih (healthy.next first.1 first.2) ((next_change e first.1 first.2).marked healthy marked)

end

/-! ### The event that ends an operation -/

section

variable {s : Settings} {e : Engine} {a b : Station} {effects : List Effect} {id : String} {d : Drive}
  {last : Operation} {k : Nat}

theorem Drive.isTerminal_final (d : Drive) (scene : Scene) (result : Except EngineError Unit) :
    (d.final scene result).status.isTerminal = true := by
  rw [status_final]
  cases result <;> rfl

/-- Only the end of a drive ends its operation, with the record that the drive has then. -/
theorem Act.op_of_finish (act : Act s a effects b) (filed : a.Filed id) (ends : .finish last ∈ effects) :
    b.point = .ended ∧ b.drive.op = last ∧ last.status.isTerminal = true := by
  cases act with
  | works sends =>
    obtain ⟨lane, -, k, task, -, same⟩ := sends.carries (filed.context _ _ _ rfl).2 _ ends
    cases same
  | @finishes d n scene result =>
    simp only [List.mem_cons, reduceCtorEq, Effect.finish.injEq, List.not_mem_nil, or_false, false_or] at ends
    subst ends
    exact ⟨rfl, rfl, d.isTerminal_final scene result⟩
  | _ => simp at ends

theorem Act.op_of_ended (act : Act s a effects b) (atEnd : a.point = .ended) : b.drive.op = a.drive.op := by
  cases act with
  | rests still more => exact still.op
  | fails e within =>
    simp only at atEnd
    rw [atEnd] at within
    cases within
  | _ => cases atEnd

theorem Acts.op_of_finish (acts : Acts s a effects b) (filed : a.Filed id)
    (ends : .finish last ∈ effects) :
    b.point = .ended ∧ b.drive.op = last ∧ last.status.isTerminal = true := by
  induction acts with
  | refl => cases ends
  | snoc acts act ih =>
    rcases List.mem_append.1 ends with before | now
    · obtain ⟨atEnd, same, terminal⟩ := ih before
      exact ⟨(act.nothing_of_ended atEnd).1, (act.op_of_ended atEnd).trans same, terminal⟩
    · exact act.op_of_finish (acts.filed filed).1 now

/-- An act saves the statuses that it leaves. -/
theorem Act.statuses_of_saved (act : Act s a effects b) (filed : a.Filed id) {record : Operation}
    (saved : record ∈ Engine.records effects) : record.statuses = b.drive.op.statuses := by
  cases act with
  | works sends =>
    obtain ⟨effect, member, save⟩ := List.mem_filterMap.1 saved
    obtain ⟨lane, -, k, task, -, rfl⟩ := sends.carries (filed.context _ _ _ rfl).2 _ member
    cases save
  | setsOff scene => rw [List.mem_singleton.1 saved]
  | takesUp scene some wanted => rw [List.mem_singleton.1 saved]
  | skips fails ignored => rw [List.mem_singleton.1 saved]; rfl
  | records edits continues => rw [List.mem_singleton.1 saved]
  | proceeds scene => rw [List.mem_singleton.1 saved]; rfl
  | finishes scene result => rw [List.mem_singleton.1 saved]
  | _ => cases saved

/-- A step that has begun is not pending again. -/
theorem Act.started (act : Act s a effects b) (started : a.drive.op.Started k) : b.drive.op.Started k := by
  cases act with
  | takesUp scene some wanted => exact started.set (Drive.statuses_takeUp ..) (by simp)
  | skips fails ignored => exact started.set (Drive.statuses_setStatus ..) (by simp)
  | calls scene desk yields => exact started.congr (Drive.statuses_attempt _)
  | records edits continues => exact started.congr edits.statuses
  | retries scene desk => exact started.congr (Drive.statuses_attempt _)
  | proceeds scene => exact started.set (Drive.statuses_proceed ..) (by simp)
  | fails e within => exact started.set (Drive.statuses_setStatus ..) (by simp)
  | @finishes d n scene result => exact started.congr (d.frame_final scene result).2.2.2
  | rests same more => exact started.congr (congrArg Operation.statuses same.op)
  | _ => exact started

/-- A step that some record shows as running has begun for good. -/
theorem Acts.started_of_saved (acts : Acts s a effects b) (filed : a.Filed id) {record : Operation}
    (saved : record ∈ Engine.records effects) (running : record.statuses[k]? = some .running) :
    b.drive.op.Started k := by
  induction acts with
  | refl => cases saved
  | snoc acts act ih =>
    rw [records_append] at saved
    rcases List.mem_append.1 saved with before | now
    · exact act.started (ih before)
    · rw [act.statuses_of_saved (acts.filed filed).1 now] at running
      exact ⟨.running, running, by simp⟩

/-- How an event ends the operation of a drive. -/
inductive EndsBy (e : Engine) (scene : Scene) (id : String) (d : Drive) : Event → Operation → Prop where
  | step {last : Operation} (finished : (d.step e.settings scene e.desk).1.phase = .finished)
      (last_eq : (d.step e.settings scene e.desk).1.op = last) : EndsBy e scene id d (.step id) last
  | heed {last : Operation} (finished : (d.heed scene e.desk).1.phase = .finished)
      (last_eq : (d.heed scene e.desk).1.op = last) : EndsBy e scene id d (.heed id) last

theorem Phase.eq_finished {phase : Phase} (atEnd : phase.point = .ended) : phase = .finished := by
  cases phase with
  | finished => rfl
  | _ => cases atEnd

theorem Drive.work_ne_finished (d : Drive) (s : Settings) (scene : Scene) (desk : Desk) (round i : Nat)
    (begun : d.phase.point ≠ .ended) : (d.work s scene desk round i).1.phase ≠ .finished := by
  have goesOn : d.phase ≠ .finished := by
    intro phase
    rw [phase] at begun
    exact begun rfl
  rw [Drive.work]
  split
  · split
    · simp
    · exact goesOn
  · exact goesOn

theorem ends_of_finish {scene : Scene} {event : Event} (filed : e.Filed) (here : e.drives.get? id = some d)
    (ends : .finish last ∈ concerning id (e.next scene event).2) : EndsBy e scene id d event last := by
  obtain ⟨member, own⟩ := List.mem_filter.1 ends
  have own : last.id = id := of_decide_eq_true own
  -- Whatever another drive does is for its own operation.
  have brought {other : String} {d' : Drive} {moved : Drive × Desk} (there : e.drives.get? other = some d')
      (moves : d'.Moves e.settings e.desk moved) (member : .finish last ∈ moved.2.effects) :
      other = id ∧ d' = d ∧ moved.1.phase = .finished ∧ moved.1.op = last := by
    obtain ⟨acts, -, owned⟩ := filed.brought there moves
    have same : id = other := own.symm.trans (owned _ member)
    subst same
    rw [here] at there
    obtain rfl := Option.some.inj there
    obtain ⟨atEnd, record, -⟩ := acts.op_of_finish (filed id d here).1 member
    exact ⟨rfl, rfl, Phase.eq_finished atEnd, record⟩
  cases event with
  | submit op cluster steps =>
    simp only [next] at member
    split at member
    · next moved accepted =>
      rw [(submitted_of_submit accepted).1] at member
      simp at member
    · simp at member
  | cancel id => simp [next] at member
  | shutdown => simp [next] at member
  | receive payload => simp [next] at member
  | step other =>
    simp only [next, Engine.step] at member
    split at member
    · next d' there =>
      obtain ⟨rfl, rfl, finished, record⟩ := brought there (.step scene) member
      exact .step finished record
    · simp at member
  | heed other =>
    simp only [next, Engine.heed] at member
    split at member
    · next d' there =>
      obtain ⟨rfl, rfl, finished, record⟩ := brought there (.heed scene) member
      exact .heed finished record
    · simp at member
  | work other round i =>
    simp only [next, Engine.work] at member
    split at member
    · next d' there =>
      obtain ⟨rfl, rfl, finished, -⟩ := brought there (.work scene round i) member
      exact absurd finished (d'.work_ne_finished e.settings scene e.desk round i (filed other d' there).2)
    · simp at member

/-- The end of an operation comes with an event at which its drive is still there. -/
theorem exists_ends (filed : e.Filed) (here : e.drives.get? id = some d) (history : List (Scene × Event))
    (ends : .finish last ∈ tenure (concerning id (e.run history).2)) :
    ∃ before scene event after d', history = before ++ (scene, event) :: after ∧
      Unfinished (concerning id (e.run before).2) ∧ (e.run before).1.drives.get? id = some d' ∧
      EndsBy (e.run before).1 scene id d' event last := by
  induction history generalizing e d with
  | nil => cases ends
  | cons first rest ih =>
    obtain ⟨scene, event⟩ := first
    have change := next_change e scene event
    obtain ⟨own, begun⟩ := filed id d here
    rw [run, concerning_append] at ends
    rcases change.running filed here with ⟨d', kept, acts⟩ | ⟨gone, b, atEnd, acts⟩
    · have goesOn := (change.filed filed id d' kept).2
      rcases acts.finish_last own begun with ⟨-, unfinished⟩ | ⟨atEnd, -⟩
      · rw [tenure_append unfinished] at ends
        have later := (List.mem_append.1 ends).resolve_left (unfinished last)
        obtain ⟨before, scene', event', after, d'', split, unfinished', there, how⟩ :=
          ih (change.filed filed) kept later
        refine ⟨(scene, event) :: before, scene', event', after, d'', by rw [split]; rfl, ?_, there, how⟩
        rw [run, concerning_append]
        intro other member
        exact (List.mem_append.1 member).elim (unfinished other) (unfinished' other)
      · exact absurd atEnd goesOn
    · rcases acts.finish_last own begun with ⟨goesOn, -⟩ | ⟨-, earlier, final, same, unfinished⟩
      · exact absurd atEnd goesOn
      · have now : .finish last ∈ concerning id (e.next scene event).2 := by
          rw [same, List.append_assoc, List.singleton_append, tenure_finish unfinished] at ends
          rw [same]
          exact ends
        have nothing : Unfinished (concerning id (e.run []).2) := fun _ member => List.not_mem_nil member
        exact ⟨[], scene, event, rest, d, rfl, nothing, here, ends_of_finish filed here now⟩

end

/-! ### What the last record shows -/

section

variable {e : Engine} {history : List (Scene × Event)} {id : String} {d : Drive} {last : Operation} {k : Nat}

/-- A request to cancel an operation was heeded in the pause before the step at a position. -/
def BrokenOff (e : Engine) (history : List (Scene × Event)) (id : String) (k : Nat) : Prop :=
  ∃ before scene after d step due, history = before ++ (scene, .heed id) :: after ∧
    Unfinished (concerning id (e.run before).2) ∧ (e.run before).1.drives.get? id = some d ∧
    d.cancelRequested = true ∧ d.phase = .pausing step due ∧ d.index = k

/-- The end of a drive is the only one. -/
theorem eq_of_ends {effects more : List Effect} {final : Operation} (unfinished : Unfinished effects)
    (ends : .finish last ∈ tenure (effects ++ [.save final, .finish final] ++ more)) : last = final := by
  have earlier : Unfinished (effects ++ [.save final]) := by
    intro other member
    rcases List.mem_append.1 member with old | new
    · exact unfinished other old
    · simp at new
  have split : effects ++ [.save final, .finish final] ++ more
      = (effects ++ [.save final]) ++ .finish final :: more := by simp
  rw [split, tenure_finish earlier, List.mem_append] at ends
  rcases ends with before | now
  · exact absurd before (earlier last)
  · simpa using now

theorem effects_heed_pausing (e : Engine) (scene : Scene) {step : Step} {due : Nat}
    (here : e.drives.get? id = some d) (own : d.op.id = id) (phase : d.phase = .pausing step due)
    (requested : d.cancelRequested = true) :
    concerning id (e.next scene (.heed id)).2 =
      [.save (d.final scene (.error .cancelled)), .finish (d.final scene (.error .cancelled))] := by
  have record : (d.final scene (.error .cancelled)).id = id := (d.frame_final scene _).1.trans own
  have effects : (e.next scene (.heed id)).2 =
      [.save (d.final scene (.error .cancelled)), .finish (d.final scene (.error .cancelled))] := by
    rw [next, Engine.heed, here]
    simp only [Drive.heed_pausing scene e.desk phase requested, Drive.finish_eq]
    rfl
  rw [effects]
  refine concerning_all fun effect member => ?_
  rcases List.mem_pair.1 member with rfl | rfl <;> exact record

/-- The step before which an operation is broken off is shown as running for good. -/
theorem BrokenOff.running (brokenOff : BrokenOff e history id k) (healthy : e.Healthy) (marked : e.Marked)
    (ends : .finish last ∈ tenure (concerning id (e.run history).2)) :
    last.statuses[k]? = some .running := by
  obtain ⟨before, scene, after, d, step, due, rfl, unfinished, here, requested, phase, rfl⟩ := brokenOff
  have healthy' := healthy.run before
  have inside := (marked_run healthy marked before) id d here
  rw [Drive.Marked, phase] at inside
  have effects := effects_heed_pausing (e.run before).1 scene here (healthy'.filed id d here).1.operation
    phase requested
  rw [run_append, concerning_append, run, concerning_append, effects, ← List.append_assoc] at ends
  rw [eq_of_ends unfinished ends, (d.frame_final scene _).2.2.2]
  exact inside.running

/-- Only a step before which an operation is broken off is shown as running in the last record. -/
theorem brokenOff_of_running (healthy : e.Healthy) (marked : e.Marked) (here : e.drives.get? id = some d)
    (ends : .finish last ∈ tenure (concerning id (e.run history).2))
    (running : last.statuses[k]? = some .running) : BrokenOff e history id k := by
  obtain ⟨before, scene, event, after, d', split, unfinished, there, how⟩ :=
    exists_ends healthy.filed here history ends
  have healthy' := healthy.run before
  have marked' := (marked_run healthy marked before) id d' there
  have reserved := (healthy'.onCourse id d' there).1
  cases how with
  | step finished record =>
    have closed : (d'.step (e.run before).1.settings scene (e.run before).1.desk).1.Marked :=
      Drive.marked_step reserved marked'
    rw [Drive.Marked, finished, record] at closed
    exact absurd running (closed k)
  | heed finished record =>
    by_contra other
    have closed : (d'.heed scene (e.run before).1.desk).1.Marked := by
      refine Drive.marked_heed marked' fun requested step due phase => other ?_
      rw [Drive.heed_pausing scene _ phase requested, Drive.finish_eq] at record
      rw [Drive.Marked, phase] at marked'
      rw [← record, (d'.frame_final scene _).2.2.2] at running
      exact ⟨before, scene, after, d', step, due, split, unfinished, there, requested, phase,
        (marked'.eq_of_running running).symm⟩
    rw [Drive.Marked, finished, record] at closed
    exact closed k running

end

/-- **Which steps the last record shows as running.** An engine that may have been through anything accepts
an operation. Whatever happens from then on, the record with which the operation ends has a terminal
status, and it shows a step as running if and only if a request to cancel was heeded in the pause before
this step. Every step that some record showed as running has passed by then or failed, with that one
exception. -/
theorem running_in_last_record (settings : Settings) (before : List (Scene × Event)) {scene : Scene}
    {op : Operation} {cluster : Cluster} {steps : List Step} {moved : Engine × List Effect}
    (accepted : ((started settings).run before).1.submit scene op cluster steps = .ok moved)
    (history : List (Scene × Event)) {last : Operation}
    (ends : .finish last ∈ tenure (concerning op.id (moved.2 ++ (moved.1.run history).2))) :
    last.status.isTerminal = true ∧
    (∀ k : Nat, last.statuses[k]? = some .running ↔ BrokenOff moved.1 history op.id k) ∧
    ∀ record ∈ records (tenure (concerning op.id (moved.2 ++ (moved.1.run history).2))),
      ∀ k : Nat, record.statuses[k]? = some .running →
        ∃ status, last.statuses[k]? = some status ∧
          (status.Passed ∨ status = .error ∨ BrokenOff moved.1 history op.id k) := by
  have submits : Change ((started settings).run before).1 (.submit op cluster steps) moved := .submits accepted
  have healthy := (healthy_started settings).run before
  have fitting : ((started settings).run before).1.Marked :=
    marked_run (healthy_started settings) (fun id d found => by simp [started] at found) before
  have healthy' := healthy.submit accepted
  have marked := submits.marked healthy fitting
  obtain ⟨opening, here⟩ := submitted_of_submit accepted
  have own := (healthy'.filed op.id _ here).1
  -- The first record comes before everything else and shows nobody running.
  have unfinished : Unfinished moved.2 := by
    intro other member
    rw [opening] at member
    simp at member
  have first : concerning op.id moved.2 = moved.2 := by
    refine concerning_all fun effect member => ?_
    rw [opening, List.mem_singleton] at member
    rw [member]
    exact own.operation
  rw [concerning_append, first, tenure_append unfinished] at ends ⊢
  have ends' := (List.mem_append.1 ends).resolve_left (unfinished last)
  obtain ⟨b, acts, -⟩ := run_running healthy'.filed here history
  obtain ⟨-, same, terminal⟩ := acts.op_of_finish own ends'
  have only (k : Nat) : last.statuses[k]? = some .running ↔ BrokenOff moved.1 history op.id k :=
    ⟨brokenOff_of_running healthy' marked here ends', fun off => off.running healthy' marked ends'⟩
  refine ⟨terminal, only, fun record saved k running => ?_⟩
  rw [records_append] at saved
  rcases List.mem_append.1 saved with opened | later
  · rw [opening] at opened
    have record_eq := List.mem_singleton.1 opened
    rw [record_eq, Drive.statuses_submitted, List.getElem?_map, Option.map_eq_some_iff] at running
    obtain ⟨step, -, pending⟩ := running
    cases pending
  · have started := acts.started_of_saved own later running
    rw [same] at started
    obtain ⟨status, found, begun⟩ := started
    refine ⟨status, found, ?_⟩
    cases status with
    | pending => exact absurd rfl begun
    | running => exact .inr (.inr ((only k).1 found))
    | successful => exact .inl (.inl rfl)
    | error => exact .inr (.inl rfl)
    | skipped => exact .inl (.inr rfl)

/-! ### A pause that is broken off -/

namespace Sample

/-- One step, before which the engine waits. -/
def patient : List Step := [{ Step.fixed "drain" [.forNode "drain b" "b" []] with waitMs := 60 }]

def awaiting : Engine × List Effect :=
  ((started Sample.settings).submit scene operation default patient).toOption.getD (started Sample.settings, [])

/-- The operation is cancelled in the pause. -/
def impatient : List (Scene × Event) := [(scene, .step "op"), (scene, .cancel "op"), (scene, .heed "op")]

end Sample

open Sample in
/-- The operation has failed, and its step is shown as running. -/
theorem sample_broken_off :
    let log := tenure (concerning "op" (awaiting.2 ++ (awaiting.1.run impatient).2))
    ∃ last, .finish last ∈ log ∧ last.status.isTerminal = true ∧ last.status = .error ∧
      last.statuses = [.running] ∧ BrokenOff awaiting.1 impatient "op" 0 := by
  intro log
  have accepted : ((started Sample.settings).run []).1.submit scene operation default patient = .ok awaiting := rfl
  have ends : ∃ last, log.getLast? = some (.finish last) ∧ last.status = .error ∧ last.statuses = [.running] :=
    ⟨_, rfl, rfl, rfl⟩
  obtain ⟨last, final, status, statuses⟩ := ends
  have member : .finish last ∈ log := List.mem_of_getLast? final
  obtain ⟨terminal, only, -⟩ := running_in_last_record Sample.settings [] accepted impatient member
  exact ⟨last, member, terminal, status, statuses, (only 0).1 (by rw [statuses]; rfl)⟩

end Engine

end Muster
