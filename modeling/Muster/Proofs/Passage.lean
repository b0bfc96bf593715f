import Muster.Proofs.Confirmation
import Muster.Proofs.EngineCourse
import Muster.Proofs.Retry

/-!
# Steps that have been passed

A drive leaves a step behind when the policy of the step is content with how its nodes have ended, and a
node is recorded as succeeded only when its tasks are confirmed (`Credits`). So whenever a drive has come
to a step, every earlier step is `Passed`: where the policy is strict, each of its node steps was performed
and is on record as succeeded. `Founded` is what every move of a drive keeps of this.
-/

set_option autoImplicit false

namespace Muster

namespace StepState

/-- Under a strict policy a step is left only when every node has succeeded. -/
theorem Sorted.all_succeeded {state : StepState} {nodeSteps : List NodeStep} {abortFirst : Bool}
    {total : Nat} {maxRetries : UInt32} (sorted : state.Sorted (nodeSteps.map NodeStep.nodeId))
    (distinct : (nodeSteps.map NodeStep.nodeId).Nodup)
    (decided : (Policy.strict abortFirst).decision state total maxRetries = .proceed) :
    ∀ n ∈ nodeSteps, state.disposition n.nodeId = some .succeeded := by
  have none : state.unsuccessful = 0 := by
    by_contra some
    simp only [Policy.strict, some, if_false, StepState.retryOrAbort] at decided
    split at decided <;> cases decided
  rw [sorted.unsuccessful_eq_lost distinct, StepState.lost, List.countP_eq_zero] at none
  intro n member
  simpa using none n member

end StepState

namespace Engine

/-! ### Node steps performed -/

/-- The tasks of a node step were sent for an operation, and all of them are confirmed. -/
def Performed (s : Settings) (op : Operation) (log : List Entry) (n : NodeStep) : Prop :=
  ∃ c id, c.operationId = op.id ∧ Through s c id n log n.tasks.length

/-- Whoever is recorded as succeeded has performed a node step. -/
def Credits (s : Settings) (op : Operation) (log : List Entry) (nodeSteps : List NodeStep)
    (state : StepState) : Prop :=
  ∀ node, state.disposition node = some .succeeded →
    ∃ n ∈ nodeSteps, n.nodeId = node ∧ Performed s op log n

section

variable {s : Settings} {op : Operation} {log : List Entry} {n : NodeStep} {nodeSteps : List NodeStep}
  {state after : StepState}

theorem Performed.append (h : Performed s op log n) (more : List Entry) : Performed s op (log ++ more) n := by
  obtain ⟨c, id, operation, through⟩ := h
  exact ⟨c, id, operation, through.append more⟩

theorem Credits.append (h : Credits s op log nodeSteps state) (more : List Entry) :
    Credits s op (log ++ more) nodeSteps state := by
  intro node succeeded
  obtain ⟨n, listed, here, performed⟩ := h node succeeded
  exact ⟨n, listed, here, performed.append more⟩

/-- A record that counts nobody else as succeeded credits nobody else. -/
theorem Credits.of_disposition (h : Credits s op log nodeSteps state)
    (fewer : ∀ node, after.disposition node = some .succeeded → state.disposition node = some .succeeded) :
    Credits s op log nodeSteps after := fun node succeeded => h node (fewer node succeeded)

theorem Credits.of_endings (h : Credits s op log nodeSteps state) (same : after.endings = state.endings) :
    Credits s op log nodeSteps after :=
  h.of_disposition fun _ succeeded => (StepState.disposition_eq_of_endings same).symm.trans succeeded

theorem Credits.classify {node : String} {ending : Disposition} (h : Credits s op log nodeSteps state)
    (earned : ending = .succeeded → ∃ n ∈ nodeSteps, n.nodeId = node ∧ Performed s op log n) :
    Credits s op log nodeSteps (state.classify node ending) := by
  intro other succeeded
  rw [StepState.disposition_classify] at succeeded
  split at succeeded
  · next here =>
    rw [here]
    exact earned (Option.some.inj succeeded)
  · exact h other succeeded

/-- Giving up a round credits nobody. -/
theorem Credits.sweep {ending : Slot → Disposition} (h : Credits s op log nodeSteps state)
    (never : ∀ slot, ending slot ≠ .succeeded) (round : Round) :
    Credits s op log nodeSteps (round.sweep ending state) := by
  refine h.of_disposition fun node succeeded => ?_
  rcases Round.sweep_cases ending state node round with ⟨lane, -, -, -, ended⟩ | ⟨-, kept⟩
  · rw [ended] at succeeded
    exact absurd (Option.some.inj succeeded) (never lane.slot)
  · exact kept.symm.trans succeeded

end

theorem Round.givenUp_ne (slot : Slot) : givenUp slot ≠ .succeeded := by
  rw [givenUp]
  split <;> simp

theorem Outcome.data_of_succeeded {outcome : Outcome} (h : outcome.disposition = .succeeded) :
    ∃ data, outcome = .succeeded data := by
  cases outcome with
  | succeeded data => exact ⟨data, rfl⟩
  | _ => cases h

/-! ### Where a drive stands -/

section

variable (s : Settings) (cluster : Cluster) (steps : List Step) (op : Operation)

/-- A step of an operation has been left: it was left out, or a record was saved that credits whoever is
recorded as succeeded, and under a strict policy that is everybody. -/
inductive Passed (log : List Entry) (k : Nat) (step : Step) : Prop where
  | skipped (ignored : step.ignoreDynamicError = true)
  | proceeded (built record : Operation) (nodeSteps : List NodeStep) (state : StepState)
      (yields : step.workload.yield cluster built = .ok nodeSteps)
      (saved : .did (.save record) ∈ log) (id : record.id = op.id) (here : record.steps[k]? = some state)
      (credits : Credits s op log nodeSteps state)
      (strict : ∀ abortFirst, step.policyIn op.type = .strict abortFirst →
        ∀ n ∈ nodeSteps, state.disposition n.nodeId = some .succeeded)

/-- A drive is for an operation, and the steps before its own have been passed. -/
structure Grounded (log : List Entry) (d : Drive) : Prop where
  id : d.op.id = op.id
  type : d.op.type = op.type
  past : ∀ k < d.index, ∃ step, steps[k]? = some step ∧ Passed s cluster op log k step
  cluster : d.cluster = cluster

/-- A drive is at a step, and the steps after it are left. -/
structure Placed (d : Drive) (step : Step) : Prop where
  here : steps[d.index]? = some step
  later : d.later = steps.drop (d.index + 1)

/-- A drive is in a round of a step that yields these node steps. -/
structure Conducts (log : List Entry) (router : ReplyRouter) (d : Drive) (step : Step)
    (nodeSteps : List NodeStep) (round : Round) : Prop where
  yields : ∃ built, step.workload.yield cluster built = .ok nodeSteps
  operation : round.context.operationId = op.id
  vouched : round.Vouched s log router
  credits : Credits s op log nodeSteps d.state

/-- What holds where the control of a drive stands. -/
def Stance (log : List Entry) (router : ReplyRouter) (d : Drive) : Point → Prop
  | .starting => d.later = steps.drop d.index
  | .entering => d.later = steps.drop d.index
  | .takenUp step => Placed steps d step
  | .calling step nodeSteps round =>
    Placed steps d step ∧ Conducts s cluster op log router d step nodeSteps round
  | .stopping _ => True
  | .ended => True

/-- What a drive has come to is founded on the log. -/
structure Founded (log : List Entry) (router : ReplyRouter) (p : Point) (d : Drive) : Prop where
  grounded : Grounded s cluster steps op log d
  stance : Stance s cluster steps op log router d p

/-- The log with what a move has done so far. -/
def Desk.log (log : List Entry) (desk : Desk) : List Entry := log ++ desk.effects.map .did

/-- A turn leaves a drive founded. -/
def Turn.Founded (log : List Entry) (t : Turn) : Prop :=
  Engine.Founded s cluster steps op (t.desk.log log) t.desk.router t.station.point t.station.drive

/-- A move leaves a drive founded. -/
def Founding (log : List Entry) (moved : Drive × Desk) : Prop :=
  Engine.Founded s cluster steps op (moved.2.log log) moved.2.router moved.1.phase.point moved.1

end

section

variable {s : Settings} {cluster : Cluster} {steps : List Step} {op : Operation} {log : List Entry}
  {router router' : ReplyRouter} {d d' : Drive} {step : Step} {nodeSteps : List NodeStep} {round : Round}
  {p : Point} {k : Nat}

theorem Desk.log_save (log : List Entry) (d : Drive) (desk : Desk) :
    (d.save desk).log log = desk.log log ++ [.did (.save d.op)] := by
  simp [Desk.log, Drive.save, Desk.emit]

/-! ### The log grows and mailboxes change -/

theorem Passed.append (h : Passed s cluster op log k step) (more : List Entry) :
    Passed s cluster op (log ++ more) k step := by
  cases h with
  | skipped ignored => exact .skipped ignored
  | proceeded built record nodeSteps state yields saved id here credits strict =>
    exact .proceeded built record nodeSteps state yields (List.mem_append_left _ saved) id here
      (credits.append more) strict

theorem Grounded.append (h : Grounded s cluster steps op log d) (more : List Entry) :
    Grounded s cluster steps op (log ++ more) d := by
  refine ⟨h.id, h.type, fun k before => ?_, h.cluster⟩
  obtain ⟨step, here, passed⟩ := h.past k before
  exact ⟨step, here, passed.append more⟩

theorem Conducts.append (h : Conducts s cluster op log router d step nodeSteps round) (more : List Entry) :
    Conducts s cluster op (log ++ more) router d step nodeSteps round :=
  ⟨h.yields, h.operation, h.vouched.append more, h.credits.append more⟩

theorem Founded.append (h : Founded s cluster steps op log router p d) (more : List Entry) :
    Founded s cluster steps op (log ++ more) router p d := by
  obtain ⟨grounded, stance⟩ := h
  refine ⟨grounded.append more, ?_⟩
  cases p with
  | calling step nodeSteps round => exact ⟨stance.1, stance.2.append more⟩
  | _ => exact stance

theorem Founded.recedes (h : Founded s cluster steps op log router p d) (recedes : router.Recedes router') :
    Founded s cluster steps op log router' p d := by
  obtain ⟨grounded, stance⟩ := h
  refine ⟨grounded, ?_⟩
  cases p with
  | calling step nodeSteps round =>
    obtain ⟨placed, yields, operation, vouched, credits⟩ := stance
    exact ⟨placed, yields, operation, vouched.recedes recedes, credits⟩
  | _ => exact stance

theorem Founded.routes (h : Founded s cluster steps op log router p d) (sound : router.Sound)
    (reply : Reply) : Founded s cluster steps op (log ++ [.heard reply]) (router.route reply).2 p d := by
  obtain ⟨grounded, stance⟩ := h
  refine ⟨grounded.append _, ?_⟩
  cases p with
  | calling step nodeSteps round =>
    obtain ⟨placed, yields, operation, vouched, credits⟩ := stance
    exact ⟨placed, yields, operation, vouched.routes sound reply, credits.append _⟩
  | _ => exact stance

/-! ### Other changes of a drive -/

theorem Grounded.same (h : Grounded s cluster steps op log d) (id : d'.op.id = d.op.id)
    (type : d'.op.type = d.op.type) (cluster' : d'.cluster = d.cluster) (index : d'.index = d.index) :
    Grounded s cluster steps op log d' :=
  ⟨id.trans h.id, type.trans h.type, fun k before => h.past k (index ▸ before), cluster'.trans h.cluster⟩

theorem Grounded.leave (h : Grounded s cluster steps op log d) (here : steps[d.index]? = some step)
    (passed : Passed s cluster op log d.index step) : Grounded s cluster steps op log d.leave := by
  refine ⟨h.id, h.type, fun k before => ?_, h.cluster⟩
  rcases Nat.lt_succ_iff_lt_or_eq.1 before with earlier | rfl
  · exact h.past k earlier
  · exact ⟨step, here, passed⟩

theorem Grounded.saved {desk : Desk} (h : Grounded s cluster steps op (desk.log log) d) (record : Drive) :
    Grounded s cluster steps op ((record.save desk).log log) d := by
  rw [Desk.log_save]
  exact h.append _

theorem Credits.saved {desk : Desk} {state : StepState} (h : Credits s op (desk.log log) nodeSteps state)
    (record : Drive) : Credits s op ((record.save desk).log log) nodeSteps state := by
  rw [Desk.log_save]
  exact h.append _

theorem Placed.same (h : Placed steps d step) (index : d'.index = d.index) (later : d'.later = d.later) :
    Placed steps d' step := by
  refine ⟨?_, ?_⟩
  · rw [index]
    exact h.here
  · rw [later, index]
    exact h.later

namespace Drive

variable {scene : Scene} {desk : Desk}

theorem InRange.getElem? (h : d.InRange) : d.op.steps[d.index]? = some d.state := by
  rw [state, List.getElem?_eq_getElem h]
  rfl

/-! ### A round begins and ends -/

theorem founded_dispatch {called : List NodeStep}
    (grounded : Grounded s cluster steps op (desk.log log) d) (placed : Placed steps d step)
    (yields : ∃ built, step.workload.yield cluster built = .ok nodeSteps)
    (credits : Credits s op (desk.log log) nodeSteps d.state) (inRange : d.InRange) :
    (dispatch s scene desk d step nodeSteps called).Founded s cluster steps op log := by
  refine ⟨grounded.same rfl rfl rfl rfl, placed.same rfl rfl, yields, grounded.id,
    Round.vouched_begin _ _ _ _ _, ?_⟩
  have endings := congrArg StepState.endings (state_dispatch s scene desk step nodeSteps called inRange)
  exact credits.of_endings endings

/-- A round in which everybody has ended leaves its drive founded, whatever the policy decides. -/
theorem founded_concludeRound (grounded : Grounded s cluster steps op (desk.log log) d)
    (placed : Placed steps d step) (yields : ∃ built, step.workload.yield cluster built = .ok nodeSteps)
    (credits : Credits s op (desk.log log) nodeSteps d.state) (inRange : d.InRange)
    (distinct : (nodeSteps.map NodeStep.nodeId).Nodup)
    (sorted : d.state.Sorted (nodeSteps.map NodeStep.nodeId)) :
    (concludeRound s scene desk d step nodeSteps round).Founded s cluster steps op log := by
  have collected : (d.collect scene round).InRange := inRange
  -- Nothing is done where the mailboxes of the round are closed.
  have closed : (round.close desk).log log = desk.log log := rfl
  rw [← closed] at grounded credits
  have grounded' : Grounded s cluster steps op (((d.collect scene round).save (round.close desk)).log log)
      (d.collect scene round) := (grounded.saved _).same rfl rfl rfl rfl
  have credits' : Credits s op (((d.collect scene round).save (round.close desk)).log log) nodeSteps
      (d.collect scene round).state := credits.saved _
  have cases := concludeRound_cases s scene desk d step nodeSteps round
  generalize concludeRound s scene desk d step nodeSteps round = turn at cases ⊢
  cases cases with
  | proceeds decided =>
    let left := ((d.collect scene round).setStatus .successful).touch scene
    have endings : left.state.endings = d.state.endings := endings_setStatus collected .successful
    have there : left.op.steps[d.index]? = some left.state :=
      (inRange_modifyState collected fun state => { state with status := .successful }).getElem?
    have passed : Passed s cluster op ((left.save ((d.collect scene round).save (round.close desk))).log log)
        d.index step := by
      obtain ⟨built, yields⟩ := yields
      rw [Desk.log_save]
      refine .proceeded built left.op nodeSteps left.state yields
        (List.mem_append_right _ (List.mem_singleton_self _)) grounded.id there
        ((credits'.append _).of_endings endings) fun abortFirst strict => ?_
      have decided' : (Policy.strict abortFirst).decision d.state nodeSteps.length step.maxRetries
          = .proceed := by
        rw [← strict, ← grounded.type]
        exact decided
      intro n member
      rw [StepState.disposition_eq_of_endings endings]
      exact sorted.all_succeeded distinct decided' n member
    have saved : Grounded s cluster steps op
        ((left.save ((d.collect scene round).save (round.close desk))).log log) left :=
      (grounded'.saved _).same rfl rfl rfl rfl
    exact ⟨saved.leave placed.here passed, placed.later⟩
  | aborts reason decided => exact ⟨grounded'.same rfl rfl rfl rfl, trivial⟩
  | nothingLeft decided none => exact ⟨grounded'.same rfl rfl rfl rfl, trivial⟩
  | retries decided some => exact founded_dispatch grounded' (placed.same rfl rfl) yields credits' collected

/-- The outcome that is taken is recorded and saved, and success credits a node only with tasks that are
confirmed. -/
theorem noted_of_took {lane : Lane} {outcome : Outcome} {taken : Round}
    (took : round.Took lane outcome taken) (grounded : Grounded s cluster steps op (desk.log log) d)
    (conducts : Conducts s cluster op (desk.log log) desk.router d step nodeSteps round)
    (inRange : d.InRange) (tally : Tally nodeSteps round d.state) :
    let after := d.note scene lane.nodeStep outcome
    Grounded s cluster steps op ((after.save desk).log log) after ∧
      Credits s op ((after.save desk).log log) nodeSteps after.state ∧ after.InRange ∧
      Tally nodeSteps taken after.state := by
  intro after
  have state : after.state = d.state.classify lane.nodeStep.nodeId outcome.disposition :=
    state_note scene inRange lane.nodeStep outcome
  refine ⟨(grounded.saved _).same rfl rfl rfl rfl, ?_, inRange_note inRange lane.nodeStep outcome, ?_⟩
  · rw [state]
    refine (conducts.credits.classify fun succeeded => ?_).saved _
    obtain ⟨data, same⟩ := Outcome.data_of_succeeded succeeded
    have through := (conducts.vouched lane took.mem).ended data (same ▸ took.ended)
    exact ⟨lane.nodeStep, tally.mem_nodeSteps took.mem, rfl, _, _, conducts.operation, through⟩
  · rw [state]
    exact tally.settle took

/-- Settling an outcome leaves a drive founded. -/
theorem founded_settle (founded : Founded s cluster steps op (desk.log log) desk.router
      (.calling step nodeSteps round) d)
    (phase : d.phase = .dispatching step nodeSteps round) (inRange : d.InRange)
    (tally : Tally nodeSteps round d.state) :
    (settle s scene desk d step nodeSteps round).Founded s cluster steps op log := by
  obtain ⟨grounded, placed, conducts⟩ := founded
  have cases := settle_cases s scene desk d step nodeSteps round
  generalize settle s scene desk d step nodeSteps round = turn at cases ⊢
  cases cases with
  | idle none =>
    refine ⟨grounded, ?_⟩
    simp only [Turn.station, phase]
    exact ⟨placed, conducts⟩
  | finalizes lane outcome taken noted' swept took note gaveUp sweep =>
    obtain ⟨grounded', credits, inRange', tally'⟩ :=
      noted_of_took (Round.took_of_take? took) grounded conducts inRange tally
    subst note sweep
    have counted := tally'.keeps (Round.keeps_count taken outcome)
    have state := state_modifyState inRange' ((taken.count outcome).sweep Round.givenUp)
    refine founded_concludeRound ?_ (placed.same rfl rfl) conducts.yields ?_
      (inRange_modifyState inRange' _) tally.distinct ?_
    · exact (grounded'.saved _).same rfl rfl rfl rfl
    · rw [state]
      exact (credits.sweep Round.givenUp_ne _).saved _
    · rw [state]
      exact counted.sorted_sweep Round.givenUp
  | ends lane outcome taken noted' took note patient atEnd =>
    obtain ⟨grounded', credits, inRange', tally'⟩ :=
      noted_of_took (Round.took_of_take? took) grounded conducts inRange tally
    subst note
    have sorted := (tally'.keeps (keeps_onward _ step lane outcome taken)).sorted_of_isOver atEnd
    exact founded_concludeRound grounded' (placed.same rfl rfl) conducts.yields credits inRange'
      tally.distinct sorted
  | goesOn lane outcome taken noted' took note patient busy =>
    have took := Round.took_of_take? took
    obtain ⟨grounded', credits, -, -⟩ := noted_of_took took grounded conducts inRange tally
    subst note
    have onward : taken.Abates (onward (d.note scene lane.nodeStep outcome) step lane outcome taken) :=
      (Round.abates_of_lanes rfl rfl : taken.Abates (taken.count outcome)).trans (Round.abates_passOn _ _ _)
    have abates := (Round.abates_of_took took).trans onward
    refine ⟨grounded'.same rfl rfl rfl rfl, placed.same rfl rfl, conducts.yields, ?_, ?_, credits⟩
    · rw [abates.context]
      exact conducts.operation
    · rw [Desk.log_save]
      exact (conducts.vouched.abates abates).append _

/-! ### A step begins -/

theorem founded_firstRound (grounded : Grounded s cluster steps op (desk.log log) d)
    (placed : Placed steps d step) (fresh : d.Fresh)
    (yields : step.workload.yield cluster d.op = .ok nodeSteps) :
    (firstRound s scene desk d step nodeSteps).Founded s cluster steps op log := by
  have nobody (nodeSteps : List NodeStep) : Credits s op (desk.log log) nodeSteps d.state := by
    obtain ⟨name, status, state⟩ := fresh.state_eq
    intro node succeeded
    rw [state] at succeeded
    cases succeeded
  by_cases none : nodeSteps = []
  · subst none
    obtain ⟨sorted, -⟩ := aftermath_firstRound s scene desk step fresh
    have begun := inRange_dispatch s scene desk step [] [] fresh.inRange
    have endings := congrArg StepState.endings (state_dispatch s scene desk step [] [] fresh.inRange)
    rw [firstRound_nil]
    exact founded_concludeRound (grounded.same rfl rfl rfl rfl) (placed.same rfl rfl) ⟨_, yields⟩
      ((nobody []).of_endings endings) begun List.nodup_nil sorted
  · rw [firstRound_of_ne_nil s scene desk d step nodeSteps none]
    exact founded_dispatch grounded placed ⟨_, yields⟩ (nobody nodeSteps) fresh.inRange

theorem founded_launch (grounded : Grounded s cluster steps op (desk.log log) d)
    (placed : Placed steps d step) (fresh : d.Fresh) :
    (launch s scene desk d step).Founded s cluster steps op log := by
  have equal := launch_eq s scene desk d step
  split at equal
  · next nodeSteps yields =>
    rw [equal]
    rw [grounded.cluster] at yields
    exact founded_firstRound grounded placed fresh yields
  · split at equal
    · next ignored =>
      rw [equal]
      have skipped : Grounded s cluster steps op (((d.setStatus .skipped).save desk).log log)
          (d.setStatus .skipped) := (grounded.saved _).same rfl rfl rfl rfl
      exact ⟨skipped.leave placed.here (.skipped ignored), placed.later⟩
    · rw [equal]
      exact ⟨grounded.same rfl rfl rfl rfl, trivial⟩

/-! ### The moves of a drive -/

theorem founding_finish (grounded : Grounded s cluster steps op (desk.log log) d)
    (result : Except EngineError Unit) : Founding s cluster steps op log (finish scene desk d result) := by
  refine ⟨?_, trivial⟩
  have logged : (finish scene desk d result).2.log log = desk.log log ++
      [.did (.save (finish scene desk d result).1.op), .did (.finish (finish scene desk d result).1.op)] := by
    simp [finish, Desk.log, Desk.emit]
  obtain ⟨id, type, -, -⟩ := d.frame_final scene result
  rw [logged]
  refine (grounded.append _).same ?_ ?_ rfl rfl
  all_goals cases result
  all_goals assumption

theorem founding_resolve {turn : Turn} (founded : turn.Founded s cluster steps op log)
    (enters : turn.verdict = .stepOver → Founding s cluster steps op log
      (enter s scene turn.desk turn.drive.leave turn.drive.later)) :
    Founding s cluster steps op log (resolve s scene turn) := by
  obtain ⟨verdict, drive, desk'⟩ := turn
  cases verdict with
  | underWay => exact founded
  | stopped e => exact founding_finish founded.grounded _
  | stepOver => exact enters rfl

theorem founding_enter {later : List Step} (same : d.later = later) (reserved : d.Reserves d.index)
    (grounded : Grounded s cluster steps op (desk.log log) d) (left : later = steps.drop d.index) :
    Founding s cluster steps op log (enter s scene desk d later) := by
  induction later generalizing desk d with
  | nil =>
    refine founding_finish ?_ _
    exact grounded.same rfl rfl rfl rfl
  | cons step later ih =>
    rw [enter_cons]
    split
    · refine founding_finish ?_ _
      exact grounded.same rfl rfl rfl rfl
    · obtain ⟨fresh, reserved'⟩ := reserved.takeUp scene same
      have here : steps[d.index]? = some step := by
        rw [← List.head?_drop, ← left]
        rfl
      have rest : later = steps.drop (d.index + 1) := by
        rw [← List.tail_drop, ← left]
        rfl
      have grounded' : Grounded s cluster steps op (((d.takeUp scene later).save desk).log log)
          (d.takeUp scene later) := (grounded.saved _).same rfl rfl rfl rfl
      have placed : Placed steps (d.takeUp scene later) step := ⟨here, rest⟩
      split
      · exact ⟨grounded'.same rfl rfl rfl rfl, placed.same rfl rfl⟩
      · have launched := leads_launch s scene ((d.takeUp scene later).save desk) (d.takeUp scene later) step
        have founded : (launch s scene ((d.takeUp scene later).save desk) (d.takeUp scene later)
            step).Founded s cluster steps op log := founded_launch grounded' placed fresh
        obtain ⟨index, rest'⟩ :=
          place_launch s scene ((d.takeUp scene later).save desk) (d.takeUp scene later) step
        refine founding_resolve founded fun stepOver => ?_
        have left' := launched.reserved ⟨fresh, reserved'⟩
        obtain ⟨grounded'', stance⟩ := founded
        rw [Turn.station, stepOver] at left' grounded'' stance
        rw [rest']
        exact ih rest' left' grounded'' (rest'.symm.trans stance)

/-- The next step is entered when a step is over. -/
theorem founding_stepOver {a : Station} {turn : Turn} (leads : Leads s a desk turn.desk turn.station)
    (reserved : a.Reserved) (founded : turn.Founded s cluster steps op log)
    (stepOver : turn.verdict = .stepOver) :
    Founding s cluster steps op log (enter s scene turn.desk turn.drive.leave turn.drive.later) := by
  have left := leads.reserved reserved
  obtain ⟨grounded, stance⟩ := founded
  rw [Turn.station, stepOver] at left grounded stance
  exact founding_enter rfl left grounded stance

theorem founding_step (founded : Founded s cluster steps op (desk.log log) desk.router d.phase.point d)
    (reserved : (⟨d.phase.point, d, desk.identifiers.used⟩ : Station).Reserved)
    (accounts : ∀ step nodeSteps round, d.phase = .dispatching step nodeSteps round →
      d.InRange ∧ Tally nodeSteps round d.state) :
    Founding s cluster steps op log (d.step s scene desk) := by
  rw [Drive.step]
  split
  · next phase =>
    rw [phase] at founded reserved
    obtain ⟨grounded, stance⟩ := founded
    have saved : Grounded s cluster steps op (((d.setOff scene).save desk).log log) (d.setOff scene) :=
      (grounded.saved _).same rfl rfl rfl rfl
    exact founding_enter rfl (Reserves.same reserved rfl rfl) saved stance
  · next step due phase =>
    split
    · rw [phase] at founded reserved
      obtain ⟨grounded, placed⟩ := founded
      have launched : (launch s scene desk d step).Founded s cluster steps op log :=
        founded_launch grounded placed reserved.1
      exact founding_resolve launched
        (founding_stepOver (leads_launch s scene desk d step) reserved launched)
    · exact founded
  · next step nodeSteps round phase =>
    obtain ⟨inRange, tally⟩ := accounts step nodeSteps round phase
    rw [phase] at founded reserved
    have settled : (settle s scene desk d step nodeSteps round).Founded s cluster steps op log :=
      founded_settle founded phase inRange tally
    exact founding_resolve settled
      (founding_stepOver ((settle_cases s scene desk d step nodeSteps round).leads phase) reserved settled)
  · exact founded

theorem founding_heed (founded : Founded s cluster steps op (desk.log log) desk.router d.phase.point d) :
    Founding s cluster steps op log (d.heed scene desk) := by
  have grounded := founded.grounded
  rw [heed]
  split
  · split
    · exact founding_finish grounded _
    · next step nodeSteps round phase =>
      have saved := grounded.saved ((d.modifyState (round.sweep fun _ => .failed "cancelled")).touch scene)
      refine founding_finish ?_ _
      exact saved.same rfl rfl rfl rfl
    · exact founded
    · exact founded
  · exact founded

theorem founding_work (founded : Founded s cluster steps op (desk.log log) desk.router d.phase.point d)
    (sound : desk.router.Sound) (round i : Nat) :
    Founding s cluster steps op log (d.work s scene desk round i) := by
  rw [work]
  split
  · next step nodeSteps r phase =>
    split
    · rw [phase] at founded
      obtain ⟨grounded, placed, yields, operation, vouched, credits⟩ := founded
      obtain ⟨sent, vouches⟩ := vouched.work sound scene i
      have logged : (r.work s scene desk i).2.log log = desk.log log ++ sent.map .did := by
        rw [Desk.log, vouches.effects, List.map_append, ← List.append_assoc]
        rfl
      refine ⟨?_, placed.same rfl rfl, yields, ?_, ?_, ?_⟩
      · rw [logged]
        exact (grounded.append _).same rfl rfl rfl rfl
      · rw [(Round.keeps_work s scene desk r i).context]
        exact operation
      · rw [logged]
        exact vouches.vouched
      · rw [logged]
        exact credits.append _
    · exact founded
  · exact founded

end Drive

end

end Engine

end Muster
