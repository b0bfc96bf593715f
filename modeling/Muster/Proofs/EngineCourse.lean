import Muster.Proofs.EngineRun

/-!
# The rounds of an engine

The steps that a drive has not taken up yet have records that nobody has touched (`Station.Reserved`), so
every step starts with a fresh one. From there a drive goes on by the moves of a course: whatever an
engine has been through, a drive that it has in a round has come there by moves from the first round of
its step (`course_of_round`). What holds of every course holds of every engine.
-/

set_option autoImplicit false

namespace Muster.Engine

open Turn (Course)

/-! ### Records that nobody has touched -/

/-- The steps from a position on are those still to come, and their records are as they were made. -/
structure Drive.Reserves (d : Drive) (i : Nat) : Prop where
  untouched : ∀ k state, i ≤ k → d.op.steps[k]? = some state → ∃ name, state = .named name
  length : d.op.steps.length = i + d.later.length

/-- A drive has records for the steps to come. -/
def Station.Reserved (a : Station) : Prop :=
  match a.point with
  | .starting => a.drive.Reserves a.drive.index
  | .entering => a.drive.Reserves a.drive.index
  | .takenUp _ => a.drive.Fresh ∧ a.drive.Reserves (a.drive.index + 1)
  | .calling _ _ _ => a.drive.Reserves (a.drive.index + 1)
  | .stopping _ => True
  | .ended => True

section

variable {s : Settings} {a b : Station} {effects : List Effect} {d d' : Drive} {step : Step} {i : Nat}

theorem Drive.Reserves.same (h : d.Reserves i) (steps : d'.op.steps = d.op.steps)
    (later : d'.later = d.later) : d'.Reserves i := by
  refine ⟨?_, ?_⟩
  · rw [steps]
    exact h.untouched
  · rw [steps, later]
    exact h.length

/-- Changing an earlier record touches none of those to come. -/
theorem Drive.Reserves.modify {f : StepState → StepState} {j : Nat} (h : d.Reserves i) (earlier : j < i)
    (steps : d'.op.steps = d.op.steps.modify j f) (later : d'.later = d.later) : d'.Reserves i := by
  refine ⟨fun k state from_ found => ?_, ?_⟩
  · have differ : j ≠ k := by omega
    rw [steps, List.getElem?_modify_ne _ _ differ] at found
    exact h.untouched k state from_ found
  · rw [steps, later, List.length_modify]
    exact h.length

theorem Drive.Reserves.edits (h : d.Reserves (d.index + 1)) (edits : d.Edits d') :
    d'.Reserves (d'.index + 1) := by
  obtain ⟨f, -, steps⟩ := edits.steps
  rw [edits.index]
  exact h.modify (Nat.lt_succ_self _) steps edits.later

/-- A step that is taken up has a fresh record. -/
theorem Drive.Reserves.takeUp {later : List Step} (h : d.Reserves d.index) (scene : Scene)
    (some : d.later = step :: later) :
    (d.takeUp scene later).Fresh ∧ (d.takeUp scene later).Reserves (d.index + 1) := by
  have length := h.length
  rw [some, List.length_cons] at length
  have inside : d.index < d.op.steps.length := by omega
  have here := List.getElem?_eq_getElem inside
  obtain ⟨name, made⟩ := h.untouched d.index _ (Nat.le_refl _) here
  rw [made] at here
  have steps : (d.takeUp scene later).op.steps =
      d.op.steps.modify d.index fun state => { state with status := .running } := rfl
  refine ⟨⟨name, .running, ?_⟩, fun k state from_ found => ?_, ?_⟩
  · have index : (d.takeUp scene later).index = d.index := rfl
    rw [steps, index, List.getElem?_modify_eq, here]
    rfl
  · rw [steps, List.getElem?_modify_ne _ _ (by omega)] at found
    exact h.untouched k state (by omega) found
  · have rest : (d.takeUp scene later).later = later := rfl
    rw [steps, List.length_modify, rest, length]
    omega

/-- An act touches no record of a step to come. -/
theorem Act.reserved (act : Act s a effects b) (reserved : a.Reserved) : b.Reserved := by
  cases act with
  | setsOff scene => exact Drive.Reserves.same reserved rfl rfl
  | completes none => trivial
  | turnsBack some requested => trivial
  | takesUp scene some wanted => exact Drive.Reserves.takeUp reserved scene some
  | breaksOff requested => trivial
  | skips fails ignored => exact reserved.2.modify (Nat.lt_succ_self _) rfl rfl
  | calls scene desk yields => exact reserved.2.modify (Nat.lt_succ_self _) rfl rfl
  | works sends => exact reserved
  | records edits continues => exact Drive.Reserves.edits reserved edits
  | retries scene desk => exact Drive.Reserves.modify reserved (Nat.lt_succ_self _) rfl rfl
  | proceeds scene => exact Drive.Reserves.modify reserved (Nat.lt_succ_self _) rfl rfl
  | fails e within => trivial
  | finishes scene result => trivial
  | @rests p d d' n m same more =>
    have steps : d'.op.steps = d.op.steps := congrArg Operation.steps same.op
    have fresh (h : d.Fresh) : d'.Fresh := by
      rw [Drive.Fresh, same.index, steps]
      exact h
    have here (h : d.Reserves d.index) : d'.Reserves d'.index := by
      rw [same.index]
      exact h.same steps same.later
    have later (h : d.Reserves (d.index + 1)) : d'.Reserves (d'.index + 1) := by
      rw [same.index]
      exact h.same steps same.later
    cases p with
    | starting => exact here reserved
    | entering => exact here reserved
    | takenUp step => exact ⟨fresh reserved.1, later reserved.2⟩
    | calling step nodeSteps round => exact later reserved
    | stopping result => trivial
    | ended => trivial

theorem Acts.reserved (acts : Acts s a effects b) (reserved : a.Reserved) : b.Reserved := by
  induction acts with
  | refl => exact reserved
  | snoc _ act ih => exact act.reserved ih

theorem Leads.reserved {desk desk' : Desk} (leads : Leads s a desk desk' b) (reserved : a.Reserved) :
    b.Reserved := by
  obtain ⟨effects, -, acts⟩ := leads
  exact acts.reserved reserved

end

/-! ### Rounds are courses -/

/-- A drive that is in a round has come there by moves from the first round of its step, whose record was
fresh and whose node steps are those that it yields. -/
def Drive.Coursed (s : Settings) (used : Nat) (d : Drive) : Prop :=
  ∀ step nodeSteps round, d.phase = .dispatching step nodeSteps round →
    ∃ scene desk first t, Drive.Fresh first ∧
      step.workload.yield first.cluster first.op = .ok nodeSteps ∧
      Course s (Drive.firstRound s scene desk first step nodeSteps) t ∧
      t.verdict = .underWay ∧ t.drive = d ∧ t.desk.identifiers.used ≤ used

/-- A turn that leaves a round under way leaves its drive on a course. -/
def Turn.Coursed (s : Settings) (t : Turn) : Prop :=
  t.verdict = .underWay → t.drive.Coursed s t.desk.identifiers.used

namespace Drive

variable {s : Settings} {scene : Scene} {desk : Desk} {d : Drive} {step : Step}
  {nodeSteps : List NodeStep} {round : Round}

theorem inRound_concludeRound {turn : Turn}
    (equal : concludeRound s scene desk d step nodeSteps round = turn)
    (underWay : turn.verdict = .underWay) : ∃ next, turn.InRound step nodeSteps next := by
  have cases := concludeRound_cases s scene desk d step nodeSteps round
  rw [equal] at cases
  cases cases with
  | retries decided some => exact ⟨_, rfl, rfl⟩
  | _ => cases underWay

theorem inRound_firstRound (underWay : (firstRound s scene desk d step nodeSteps).verdict = .underWay) :
    ∃ round, (firstRound s scene desk d step nodeSteps).InRound step nodeSteps round := by
  by_cases none : nodeSteps = []
  · subst none
    exact inRound_concludeRound rfl underWay
  · rw [firstRound_of_ne_nil s scene desk d step nodeSteps none]
    exact ⟨_, rfl, rfl⟩

theorem inRound_settle {turn : Turn} (equal : settle s scene desk d step nodeSteps round = turn)
    (phase : d.phase = .dispatching step nodeSteps round) (underWay : turn.verdict = .underWay) :
    ∃ next, turn.InRound step nodeSteps next := by
  have cases := settle_cases s scene desk d step nodeSteps round
  rw [equal] at cases
  cases cases with
  | idle none => exact ⟨round, rfl, phase⟩
  | finalizes lane outcome taken noted swept took note gaveUp sweep =>
    exact inRound_concludeRound rfl underWay
  | ends lane outcome taken noted took note patient atEnd => exact inRound_concludeRound rfl underWay
  | goesOn lane outcome taken noted took note patient busy => exact ⟨_, rfl, rfl⟩

/-- The first round of a fresh step is the beginning of a course. -/
theorem coursed_firstRound (fresh : d.Fresh) (yields : step.workload.yield d.cluster d.op = .ok nodeSteps) :
    (firstRound s scene desk d step nodeSteps).Coursed s := by
  intro underWay step' nodeSteps' round' phase
  obtain ⟨round, inRound⟩ := inRound_firstRound underWay
  obtain ⟨rfl, rfl, -⟩ := inRound.unique ⟨underWay, phase⟩
  exact ⟨scene, desk, d, _, fresh, yields, .refl, underWay, rfl, Nat.le_refl _⟩

theorem coursed_launch (fresh : d.Fresh) : (launch s scene desk d step).Coursed s := by
  have equal := launch_eq s scene desk d step
  split at equal
  · next nodeSteps yields =>
    rw [equal]
    exact coursed_firstRound fresh yields
  · intro underWay
    rw [equal] at underWay
    split at underWay <;> cases underWay

/-- Settling an outcome is a move of the course. -/
theorem coursed_settle (coursed : d.Coursed s desk.identifiers.used)
    (phase : d.phase = .dispatching step nodeSteps round) :
    (settle s scene desk d step nodeSteps round).Coursed s := by
  intro underWay step' nodeSteps' round' phase'
  obtain ⟨next, inRound⟩ := inRound_settle rfl phase underWay
  obtain ⟨rfl, rfl, -⟩ := inRound.unique ⟨underWay, phase'⟩
  obtain ⟨scene₀, desk₀, first, t, fresh, yields, course, before, rfl, used⟩ :=
    coursed step nodeSteps round phase
  exact ⟨scene₀, desk₀, first, _, fresh, yields, course.tail (.settle scene desk ⟨before, phase⟩ used),
    underWay, rfl, Nat.le_refl _⟩

theorem Coursed.mono {used more : Nat} (coursed : d.Coursed s used) (le : used ≤ more) :
    d.Coursed s more := by
  intro step nodeSteps round phase
  obtain ⟨scene, desk, first, t, fresh, yields, course, underWay, same, before⟩ :=
    coursed step nodeSteps round phase
  exact ⟨scene, desk, first, t, fresh, yields, course, underWay, same, before.trans le⟩

theorem coursed_of_phase {used : Nat}
    (away : ∀ step nodeSteps round, d.phase ≠ .dispatching step nodeSteps round) : d.Coursed s used :=
  fun step nodeSteps round phase => absurd phase (away step nodeSteps round)

/-! ### The moves of a drive keep to courses -/

/-- What a move leaves is on a course, if it is in a round. -/
abbrev Coursing (s : Settings) (moved : Drive × Desk) : Prop :=
  moved.1.Coursed s moved.2.identifiers.used

theorem coursing_finish (result : Except EngineError Unit) : Coursing s (finish scene desk d result) :=
  coursed_of_phase fun _ _ _ phase => nomatch phase

theorem coursing_resolve {turn : Turn} (coursed : turn.Coursed s)
    (enters : turn.verdict = .stepOver →
      Coursing s (enter s scene turn.desk turn.drive.leave turn.drive.later)) :
    Coursing s (resolve s scene turn) := by
  obtain ⟨verdict, drive, desk'⟩ := turn
  cases verdict with
  | underWay => exact coursed rfl
  | stopped e => exact coursing_finish _
  | stepOver => exact enters rfl

theorem coursing_enter {later : List Step} (same : d.later = later) (reserved : d.Reserves d.index) :
    Coursing s (enter s scene desk d later) := by
  induction later generalizing desk d with
  | nil => exact coursing_finish _
  | cons step later ih =>
    rw [enter_cons]
    split
    · exact coursing_finish _
    · obtain ⟨fresh, reserved'⟩ := reserved.takeUp scene same
      split
      · exact coursed_of_phase fun _ _ _ phase => nomatch phase
      · have launched := leads_launch s scene ((d.takeUp scene later).save desk) (d.takeUp scene later) step
        obtain ⟨-, rest⟩ :=
          place_launch s scene ((d.takeUp scene later).save desk) (d.takeUp scene later) step
        refine coursing_resolve (coursed_launch fresh) fun stepOver => ?_
        have left := launched.reserved ⟨fresh, reserved'⟩
        rw [Turn.station, stepOver] at left
        rw [rest]
        exact ih rest left

/-- The next step is entered with its record untouched. -/
theorem coursing_stepOver {a : Station} {turn : Turn} (leads : Leads s a desk turn.desk turn.station)
    (reserved : a.Reserved) (stepOver : turn.verdict = .stepOver) :
    Coursing s (enter s scene turn.desk turn.drive.leave turn.drive.later) := by
  have left := leads.reserved reserved
  rw [Turn.station, stepOver] at left
  exact coursing_enter rfl left

theorem coursing_step (reserved : (⟨d.phase.point, d, desk.identifiers.used⟩ : Station).Reserved)
    (coursed : d.Coursed s desk.identifiers.used) : Coursing s (d.step s scene desk) := by
  rw [step]
  split
  · next phase =>
    rw [phase] at reserved
    exact coursing_enter rfl (Reserves.same reserved rfl rfl)
  · next step due phase =>
    split
    · rw [phase] at reserved
      exact coursing_resolve (coursed_launch reserved.1)
        (coursing_stepOver (leads_launch s scene desk d step) reserved)
    · exact coursed
  · next step nodeSteps round phase =>
    rw [phase] at reserved
    exact coursing_resolve (coursed_settle coursed phase)
      (coursing_stepOver ((settle_cases s scene desk d step nodeSteps round).leads phase) reserved)
  · exact coursed

theorem coursing_heed (coursed : d.Coursed s desk.identifiers.used) :
    Coursing s (d.heed scene desk) := by
  rw [heed]
  split
  · split
    · exact coursing_finish _
    · exact coursing_finish _
    · exact coursed
    · exact coursed
  · exact coursed

theorem coursing_work (coursed : d.Coursed s desk.identifiers.used) (round i : Nat) :
    Coursing s (d.work s scene desk round i) := by
  by_cases current : d.rounds = round
  · subst current
    cases phase : d.phase with
    | dispatching step nodeSteps r =>
      obtain ⟨scene₀, desk₀, first, t, fresh, yields, course, underWay, rfl, used⟩ :=
        coursed step nodeSteps r phase
      have moved := course.tail (.work scene desk i ⟨underWay, phase⟩ used)
      rw [work_dispatching s scene desk i phase] at moved ⊢
      intro step' nodeSteps' r' phase'
      cases phase'
      exact ⟨scene₀, desk₀, first, _, fresh, yields, moved, rfl, rfl, Nat.le_refl _⟩
    | _ =>
      have still : d.work s scene desk d.rounds i = (d, desk) := by rw [work, phase]
      rw [still]
      exact coursed
  · have still : d.work s scene desk round i = (d, desk) := by
      rw [work]
      split
      · exact if_neg current
      · rfl
    rw [still]
    exact coursed

theorem Moves.coursing {moved : Drive × Desk} (moves : d.Moves s desk moved)
    (reserved : (⟨d.phase.point, d, desk.identifiers.used⟩ : Station).Reserved)
    (coursed : d.Coursed s desk.identifiers.used) : Coursing s moved := by
  cases moves with
  | step scene => exact coursing_step reserved coursed
  | heed scene => exact coursing_heed coursed
  | work scene round i => exact coursing_work coursed round i

/-- A request to cancel is a move of the course. -/
theorem Coursed.rests {d' : Drive} {used : Nat} (coursed : d.Coursed s used)
    (same : d' = d ∨ d' = { d with cancelRequested := true }) : d'.Coursed s used := by
  rcases same with rfl | rfl
  · exact coursed
  · intro step nodeSteps round phase
    obtain ⟨scene, desk, first, t, fresh, yields, course, underWay, rfl, before⟩ :=
      coursed step nodeSteps round phase
    exact ⟨scene, desk, first, _, fresh, yields, course.tail .request, underWay, rfl, before⟩

end Drive

/-! ### Whatever an engine has been through -/

/-- The drives of an engine have records for the steps to come, and their rounds are on course. -/
def OnCourse (e : Engine) : Prop :=
  ∀ id d, e.drives.get? id = some d →
    (e.station d).Reserved ∧ d.Coursed e.settings e.identifiers.used

section

variable {e : Engine} {event : Event} {moved : Engine × List Effect}

theorem Change.onCourse (onCourse : e.OnCourse) (change : Change e event moved) : moved.1.OnCourse := by
  intro k d' found
  cases change with
  | @moves event id d brought here moves =>
    obtain ⟨reserved, coursed⟩ := onCourse id d here
    by_cases differ : k = id
    · subst differ
      rcases get?_putBack_self e k brought with ⟨kept, -⟩ | ⟨gone, -⟩
      · rw [kept] at found
        cases found
        exact ⟨moves.brings.reserved reserved, moves.coursing reserved coursed⟩
      · rw [gone] at found
        cases found
    · rw [get?_putBack_of_ne e brought differ] at found
      obtain ⟨effects, -, acts⟩ := moves.brings
      exact ⟨(onCourse k d' found).1, (onCourse k d' found).2.mono acts.used_le⟩
  | @rests event e' f settings identifiers drives same =>
    rw [drives, Option.map_eq_some_iff] at found
    obtain ⟨d, here, rfl⟩ := found
    obtain ⟨reserved, coursed⟩ := onCourse k d here
    obtain ⟨still, phase⟩ := Drive.rests_asked (same k d)
    have rested : Act e.settings (e.station d) [] (e'.station (f k d)) := by
      rw [station, station, phase, identifiers]
      exact .rests still (Nat.le_refl _)
    refine ⟨rested.reserved reserved, ?_⟩
    rw [settings, identifiers]
    exact coursed.rests (same k d)
  | @submits scene op cluster steps moved accepted =>
    obtain ⟨-, -, -, rfl⟩ := submit_eq_ok.1 accepted
    simp only [Dict.get?_insert] at found
    split at found
    · cases found
      refine ⟨⟨fun i state _ made => ?_, ?_⟩, Drive.coursed_of_phase fun _ _ _ phase => by cases phase⟩
      · have named : (steps.map fun step : Step => StepState.named step.name)[i]? = some state := made
        rw [List.getElem?_map, Option.map_eq_some_iff] at named
        obtain ⟨step, -, rfl⟩ := named
        exact ⟨step.name, rfl⟩
      · simp [station, Drive.submitted, Operation.touch]
    · exact onCourse k d' found

theorem onCourse_run (onCourse : e.OnCourse) (history : List (Scene × Event)) :
    (e.run history).1.OnCourse := by
  induction history generalizing e with
  | nil => exact onCourse
  | cons first rest ih => exact ih ((next_change e first.1 first.2).onCourse onCourse)

end

/-- **Every round of an engine is part of a course.** Whatever an engine has been through, a drive that it
has in a round has come there by moves from the first round of its step, which began with a fresh record
and the node steps that the step yields. -/
theorem course_of_round (settings : Settings) (history : List (Scene × Event)) {id : String} {d : Drive}
    {step : Step} {nodeSteps : List NodeStep} {round : Round}
    (here : ((started settings).run history).1.drives.get? id = some d)
    (phase : d.phase = .dispatching step nodeSteps round) :
    ∃ scene desk first t, Drive.Fresh first ∧
      step.workload.yield first.cluster first.op = .ok nodeSteps ∧
      Course settings (Drive.firstRound settings scene desk first step nodeSteps) t ∧
      t.InRound step nodeSteps round ∧ t.drive = d := by
  have start : (started settings).OnCourse := by
    intro id d found
    simp [started] at found
  obtain ⟨-, coursed⟩ := onCourse_run start history id d here
  rw [settings_run] at coursed
  obtain ⟨scene, desk, first, t, fresh, yields, course, underWay, rfl, -⟩ :=
    coursed step nodeSteps round phase
  exact ⟨scene, desk, first, t, fresh, yields, course, ⟨underWay, phase⟩, rfl⟩

end Muster.Engine
