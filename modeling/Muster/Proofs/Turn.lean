import Mathlib.Logic.Relation
import Muster.Engine.Drive
import Muster.Proofs.Identifier
import Muster.Proofs.Round

/-!
# The turns of a drive

What a drive can do to its step is said once here. `concludeRound_cases` and `settle_cases` list the
ways in which a round ends and an outcome is settled; later proofs split on them and never open the
functions.

A step is run by a first turn, `Drive.firstRound`, and then by moves (`Turn.Move`) until its verdict
is in. A move is made in any world: what lies in the mailboxes, what the clock and the bus and the
stored agents say, and which identifiers others have taken is up to it. `Turn.Course` is any number
of moves; the rounds of every engine are parts of courses (`course_of_round`).
-/

set_option autoImplicit false

namespace Muster.Engine

namespace Drive

/-! ### The record of the step in progress -/

/-- The drive is at a step that its operation has a record of. -/
def InRange (d : Drive) : Prop := d.index < d.op.steps.length

variable {d : Drive} {scene : Scene}

theorem state_modifyState (h : d.InRange) (f : StepState → StepState) :
    (d.modifyState f).state = f d.state := by
  have found : d.op.steps[d.index]? = some (d.op.steps.get ⟨d.index, h⟩) := List.getElem?_eq_getElem h
  simp [state, modifyState, Operation.modifyStep, found]

theorem inRange_modifyState (h : d.InRange) (f : StepState → StepState) :
    (d.modifyState f).InRange := by
  simpa [InRange, modifyState, Operation.modifyStep] using h

theorem state_note (scene : Scene) (h : d.InRange) (n : NodeStep) (outcome : Outcome) :
    (d.note scene n outcome).state = d.state.classify n.nodeId outcome.disposition :=
  state_modifyState h _

theorem inRange_note (h : d.InRange) (n : NodeStep) (outcome : Outcome) :
    (d.note scene n outcome).InRange :=
  inRange_modifyState h _

theorem endings_setStatus (h : d.InRange) (status : StepStatus) :
    (d.setStatus status).state.endings = d.state.endings := by
  rw [setStatus, state_modifyState h]
  rfl

theorem attempts_setStatus (h : d.InRange) (status : StepStatus) :
    (d.setStatus status).state.attempts = d.state.attempts := by
  rw [setStatus, state_modifyState h]

/-! ### The ways in which a round ends -/

section Cases

variable (s : Settings) (scene : Scene) (desk : Desk) (d : Drive) (step : Step)
  (nodeSteps : List NodeStep) (round : Round)

/-- What the policy of a step decides about a drive. -/
def decision : Decision :=
  (step.policyIn d.op.type).decision d.state nodeSteps.length step.maxRetries

/-- The turns that the end of a round can lead to. `d` has taken over what the round returned, and
`desk` knows of it. -/
inductive Conclusion : Turn → Prop where
  | proceeds (decided : decision d step nodeSteps = .proceed) :
      Conclusion ⟨.stepOver, (d.setStatus .successful).touch scene,
        ((d.setStatus .successful).touch scene).save desk⟩
  | aborts (reason : String) (decided : decision d step nodeSteps = .abort reason) :
      Conclusion ⟨.stopped (.policyAbort step.name reason), d.setStatus .error, desk⟩
  | nothingLeft (decided : decision d step nodeSteps = .retry) (none : round.again d.state = []) :
      Conclusion ⟨.stopped (.policyAbort step.name "nothing left to retry"), d.setStatus .error, desk⟩
  | retries (decided : decision d step nodeSteps = .retry) (some : round.again d.state ≠ []) :
      Conclusion (dispatch s scene desk d step nodeSteps (round.again d.state))

theorem concludeRound_cases :
    Conclusion s scene ((d.collect scene round).save (round.close desk)) (d.collect scene round) step
      nodeSteps round (concludeRound s scene desk d step nodeSteps round) := by
  simp only [concludeRound]
  split
  · next decided => exact .proceeds decided
  · next reason decided => exact .aborts reason decided
  · next decided =>
    split
    · next none => exact .nothingLeft decided (List.isEmpty_iff.1 none)
    · next some => exact .retries decided fun none => some (List.isEmpty_iff.2 none)

/-- The end of a round is decided at once, unless another round begins. -/
theorem rounds_concludeRound :
    let t := concludeRound s scene desk d step nodeSteps round
    (t.verdict ≠ .underWay ∧ t.drive.rounds = d.rounds) ∨
      (t.verdict = .underWay ∧ t.drive.rounds = d.rounds + 1) := by
  intro t
  generalize equal : t = u
  have cases := concludeRound_cases s scene desk d step nodeSteps round
  change Conclusion _ _ _ _ _ _ _ t at cases
  rw [equal] at cases
  cases cases with
  | proceeds decided => exact .inl ⟨by simp, rfl⟩
  | aborts reason decided => exact .inl ⟨by simp, rfl⟩
  | nothingLeft decided none => exact .inl ⟨by simp, rfl⟩
  | retries decided some => exact .inr ⟨rfl, rfl⟩

theorem le_rounds_concludeRound :
    d.rounds ≤ (concludeRound s scene desk d step nodeSteps round).drive.rounds := by
  rcases rounds_concludeRound s scene desk d step nodeSteps round with ⟨-, same⟩ | ⟨-, more⟩
  · exact same.ge
  · rw [more]
    exact Nat.le_succ _

/-- The policy of a step has waiting given up after an outcome. -/
def Finalizes (outcome : Outcome) (timeouts : Nat) : Prop :=
  outcome = .timedOut ∧ (step.policyIn d.op.type).finalizes d.state timeouts = true

/-- The round that is left after an outcome was settled and waiting goes on. -/
def onward (lane : Lane) (outcome : Outcome) (taken : Round) : Round :=
  (taken.count outcome).passOn ((step.policyIn d.op.type).halts d.state lane.nodeStep.nodeId) outcome

/-- The turns that settling an outcome can lead to. -/
inductive Settlement : Turn → Prop where
  | idle (none : round.take? = none) : Settlement ⟨.underWay, d, desk⟩
  | finalizes (lane : Lane) (outcome : Outcome) (taken : Round) (noted swept : Drive)
      (took : round.take? = some (lane, outcome, taken))
      (note : noted = d.note scene lane.nodeStep outcome)
      (gaveUp : Finalizes noted step outcome (taken.count outcome).timeouts)
      (sweep : swept = noted.modifyState ((taken.count outcome).sweep Round.givenUp)) :
      Settlement (concludeRound s scene (swept.save (noted.save desk)) swept step nodeSteps
        (taken.count outcome))
  | ends (lane : Lane) (outcome : Outcome) (taken : Round) (noted : Drive)
      (took : round.take? = some (lane, outcome, taken))
      (note : noted = d.note scene lane.nodeStep outcome)
      (patient : ¬ Finalizes noted step outcome (taken.count outcome).timeouts)
      (atEnd : (onward noted step lane outcome taken).isOver = true) :
      Settlement (concludeRound s scene (noted.save desk) noted step nodeSteps
        (onward noted step lane outcome taken))
  | goesOn (lane : Lane) (outcome : Outcome) (taken : Round) (noted : Drive)
      (took : round.take? = some (lane, outcome, taken))
      (note : noted = d.note scene lane.nodeStep outcome)
      (patient : ¬ Finalizes noted step outcome (taken.count outcome).timeouts)
      (busy : (onward noted step lane outcome taken).isOver = false) :
      Settlement ⟨.underWay,
        { noted with phase := .dispatching step nodeSteps (onward noted step lane outcome taken) },
        noted.save desk⟩

theorem settle_cases :
    Settlement s scene desk d step nodeSteps round (settle s scene desk d step nodeSteps round) := by
  simp only [settle]
  split
  · next none => exact .idle none
  · next lane outcome taken took =>
    split
    · next gaveUp => exact .finalizes lane outcome taken _ _ took rfl gaveUp rfl
    · next patient =>
      split
      · next atEnd => exact .ends lane outcome taken _ took rfl patient atEnd
      · next busy => exact .goesOn lane outcome taken _ took rfl patient (Bool.eq_false_iff.2 busy)

theorem rounds_settle : d.rounds ≤ (settle s scene desk d step nodeSteps round).drive.rounds := by
  generalize equal : settle s scene desk d step nodeSteps round = u
  have cases := settle_cases s scene desk d step nodeSteps round
  rw [equal] at cases
  cases cases with
  | idle none => exact Nat.le_refl _
  | finalizes lane outcome taken noted swept took note gaveUp sweep =>
    have before : swept.rounds = d.rounds := by rw [sweep, note]; rfl
    exact before ▸ le_rounds_concludeRound ..
  | ends lane outcome taken noted took note patient atEnd =>
    have before : noted.rounds = d.rounds := by rw [note]; rfl
    exact before ▸ le_rounds_concludeRound ..
  | goesOn lane outcome taken noted took note patient busy =>
    have before : noted.rounds = d.rounds := by rw [note]; rfl
    exact before.ge

theorem keeps_onward (lane : Lane) (outcome : Outcome) (taken : Round) :
    taken.Keeps (onward d step lane outcome taken) :=
  (Round.keeps_count taken outcome).trans (Round.keeps_passOn _ _ outcome)

theorem firstRound_nil : firstRound s scene desk d step [] =
    let turn := dispatch s scene desk d step [] []
    concludeRound s scene turn.desk turn.drive step []
      (Round.begin s scene step.skipUnreachable ⟨d.op.id, d.cluster, d.op.returnData⟩ []) := rfl

theorem firstRound_of_ne_nil (some : nodeSteps ≠ []) :
    firstRound s scene desk d step nodeSteps = dispatch s scene desk d step nodeSteps nodeSteps := by
  cases nodeSteps with
  | nil => exact absurd rfl some
  | cons n rest => rfl

end Cases

/-! ### A round begins -/

section Dispatch

variable (s : Settings) (scene : Scene) (desk : Desk) (step : Step) (nodeSteps called : List NodeStep)

/-- The node steps of a round under the identifiers that they are given. -/
def named (desk : Desk) (called : List NodeStep) : List (String × NodeStep) :=
  (desk.identifiers.freshFor called).1

theorem phase_dispatch :
    (dispatch s scene desk d step nodeSteps called).drive.phase = .dispatching step nodeSteps
      (Round.begin s scene step.skipUnreachable ⟨d.op.id, d.cluster, d.op.returnData⟩
        (named desk called)) := rfl

theorem state_dispatch (h : d.InRange) :
    (dispatch s scene desk d step nodeSteps called).drive.state
      = { d.state with attempts := d.state.attempts + 1 } :=
  state_modifyState h _

theorem inRange_dispatch (h : d.InRange) :
    (dispatch s scene desk d step nodeSteps called).drive.InRange :=
  inRange_modifyState h _

end Dispatch

theorem work_dispatching {step : Step} {nodeSteps : List NodeStep} {round : Round} (s : Settings)
    (scene : Scene) (desk : Desk) (i : Nat) (phase : d.phase = .dispatching step nodeSteps round) :
    d.work s scene desk d.rounds i =
      ({ d with phase := .dispatching step nodeSteps (round.work s scene desk i).1 },
        (round.work s scene desk i).2) := by
  simp [work, phase]

end Drive

/-! ### Moves -/

namespace Turn

/-- A round is under way. -/
def InRound (t : Turn) (step : Step) (nodeSteps : List NodeStep) (round : Round) : Prop :=
  t.verdict = .underWay ∧ t.drive.phase = .dispatching step nodeSteps round

/-- What may happen to a drive while a round is under way. -/
inductive Move (s : Settings) (t : Turn) : Turn → Prop where
  /-- The outcome that was handed in first is settled. -/
  | settle {step : Step} {nodeSteps : List NodeStep} {round : Round} (scene : Scene) (desk : Desk)
      (underWay : t.InRound step nodeSteps round)
      (later : t.desk.identifiers.used ≤ desk.identifiers.used) :
      Move s t (Drive.settle s scene desk t.drive step nodeSteps round)
  /-- A node step goes on. -/
  | work {step : Step} {nodeSteps : List NodeStep} {round : Round} (scene : Scene) (desk : Desk) (i : Nat)
      (underWay : t.InRound step nodeSteps round)
      (later : t.desk.identifiers.used ≤ desk.identifiers.used) :
      Move s t ⟨.underWay, (t.drive.work s scene desk t.drive.rounds i).1,
        (t.drive.work s scene desk t.drive.rounds i).2⟩
  /-- Somebody wants the operation to end. -/
  | request : Move s t { t with drive := { t.drive with cancelRequested := true } }
  /-- The request to end is heeded. -/
  | abandon {step : Step} {nodeSteps : List NodeStep} {round : Round} (scene : Scene) (desk : Desk)
      (underWay : t.InRound step nodeSteps round) (requested : t.drive.cancelRequested = true)
      (later : t.desk.identifiers.used ≤ desk.identifiers.used) :
      Move s t (Drive.abandon scene desk t.drive round)

/-- Any number of moves. -/
abbrev Course (s : Settings) : Turn → Turn → Prop := Relation.ReflTransGen (Move s)

variable {s : Settings} {t u : Turn} {step : Step} {nodeSteps : List NodeStep} {round : Round}

theorem Move.rounds_le (move : Move s t u) : t.drive.rounds ≤ u.drive.rounds := by
  cases move with
  | settle scene desk underWay later => exact Drive.rounds_settle ..
  | work scene desk i underWay later =>
    rw [Drive.work_dispatching s scene desk i underWay.2]
  | request => exact Nat.le_refl _
  | abandon scene desk underWay requested later => exact Nat.le_refl _

theorem Course.rounds_le (course : Course s t u) : t.drive.rounds ≤ u.drive.rounds := by
  induction course with
  | refl => exact Nat.le_refl _
  | tail _ move ih => exact ih.trans move.rounds_le

/-- Once the verdict is in it stays. -/
theorem Move.underWay_of (move : Move s t u) (underWay : u.verdict = .underWay) :
    t.verdict = .underWay := by
  cases move with
  | settle scene desk inRound later => exact inRound.1
  | work scene desk i inRound later => exact inRound.1
  | request => exact underWay
  | abandon scene desk inRound requested later => exact inRound.1

theorem InRound.unique {step' : Step} {nodeSteps' : List NodeStep} {round' : Round}
    (h : t.InRound step nodeSteps round) (h' : t.InRound step' nodeSteps' round') :
    step = step' ∧ nodeSteps = nodeSteps' ∧ round = round' := by
  have same := h.2.symm.trans h'.2
  simp only [Phase.dispatching.injEq] at same
  exact same

/-- A move from `t` to `u` ended a round: the step is decided, or another round has begun. -/
def EndsRound (t u : Turn) : Prop := u.verdict ≠ .underWay ∨ u.drive.rounds ≠ t.drive.rounds

/-! ### The line of a round -/

/-- If a round is under way then the line for its permits is in order. -/
def InOrder (t : Turn) : Prop := ∀ step nodeSteps round, t.InRound step nodeSteps round → round.Sound

theorem InRound.inOrder (inRound : t.InRound step nodeSteps round) (sound : round.Sound) : t.InOrder := by
  intro step' nodeSteps' round' inRound'
  obtain ⟨-, -, rfl⟩ := inRound.unique inRound'
  exact sound

theorem inOrder_dispatch (s : Settings) (scene : Scene) (desk : Desk) (d : Drive) (step : Step)
    (nodeSteps called : List NodeStep) : (Drive.dispatch s scene desk d step nodeSteps called).InOrder :=
  InRound.inOrder ⟨rfl, Drive.phase_dispatch ..⟩ (Round.sound_begin ..)

theorem inOrder_concludeRound (s : Settings) (scene : Scene) (desk : Desk) (d : Drive) (step : Step)
    (nodeSteps : List NodeStep) (round : Round) :
    (Drive.concludeRound s scene desk d step nodeSteps round).InOrder := by
  have cases := Drive.concludeRound_cases s scene desk d step nodeSteps round
  generalize Drive.concludeRound s scene desk d step nodeSteps round = turn at cases ⊢
  cases cases with
  | proceeds decided => exact fun _ _ _ inRound => nomatch inRound.1
  | aborts reason decided => exact fun _ _ _ inRound => nomatch inRound.1
  | nothingLeft decided none => exact fun _ _ _ inRound => nomatch inRound.1
  | retries decided some => apply inOrder_dispatch

theorem inOrder_firstRound (s : Settings) (scene : Scene) (desk : Desk) (d : Drive) (step : Step)
    (nodeSteps : List NodeStep) : (Drive.firstRound s scene desk d step nodeSteps).InOrder := by
  by_cases none : nodeSteps = []
  · subst none
    rw [Drive.firstRound_nil]
    apply inOrder_concludeRound
  · rw [Drive.firstRound_of_ne_nil s scene desk d step nodeSteps none]
    apply inOrder_dispatch

theorem Move.inOrder (move : Move s t u) (inOrder : t.InOrder) : u.InOrder := by
  cases move with
  | @settle step nodeSteps round scene desk inRound later =>
    have sound := inOrder step nodeSteps round inRound
    have cases := Drive.settle_cases s scene desk t.drive step nodeSteps round
    generalize Drive.settle s scene desk t.drive step nodeSteps round = turn at cases ⊢
    cases cases with
    | idle none => exact InRound.inOrder ⟨rfl, inRound.2⟩ sound
    | finalizes lane outcome taken noted swept took note gaveUp sweep => apply inOrder_concludeRound
    | ends lane outcome taken noted took note patient atEnd => apply inOrder_concludeRound
    | goesOn lane outcome taken noted took note patient busy =>
      have kept := Drive.keeps_onward noted step lane outcome taken
      exact InRound.inOrder ⟨rfl, rfl⟩ (kept.sound ((Round.took_of_take? took).sound sound))
  | @work step nodeSteps round scene desk i inRound later =>
    have sound := inOrder step nodeSteps round inRound
    rw [Drive.work_dispatching s scene desk i inRound.2]
    exact InRound.inOrder ⟨rfl, rfl⟩ ((Round.keeps_work s scene desk round i).sound sound)
  | request => exact fun step nodeSteps round inRound => inOrder step nodeSteps round inRound
  | abandon scene desk inRound requested later => exact fun _ _ _ inRound => nomatch inRound.1

theorem Course.inOrder (course : Course s t u) (inOrder : t.InOrder) : u.InOrder := by
  induction course with
  | refl => exact inOrder
  | tail _ move ih => exact move.inOrder ih

end Turn

/-- The record of the step in progress is as it was made: nobody has ended and no round has begun. -/
def Drive.Fresh (d : Drive) : Prop :=
  ∃ name status, d.op.steps[d.index]? = some { StepState.named name with status }

theorem Drive.Fresh.inRange {d : Drive} (h : d.Fresh) : d.InRange := by
  obtain ⟨name, status, found⟩ := h
  exact (List.getElem?_eq_some_iff.1 found).1

theorem Drive.Fresh.state_eq {d : Drive} (h : d.Fresh) :
    ∃ name status, d.state = { StepState.named name with status } := by
  obtain ⟨name, status, found⟩ := h
  exact ⟨name, status, by rw [Drive.state, found]; rfl⟩

/-! ### A small fleet

Two nodes to drain, one of which is known to be unreachable. -/

namespace Sample

/-- An engine that lets one node step run at a time. -/
def settings : Settings := ⟨"h1", 1000, 1, ""⟩

def scene : Scene := ⟨0, fun _ => true, fun node => node = "a"⟩

def desk : Desk := ⟨.idle, ⟨0⟩, []⟩

def nodeSteps : List NodeStep := [.forNode "drain a" "a" [], .forNode "drain b" "b" []]

def step : Step := (Step.fixed "drain" nodeSteps).skippingUnreachable

def drive : Drive :=
  { op := { Operation.create "op" "update" .upgrade "c" .empty 0 with steps := [.named "drain"] }
    cluster := default
    index := 0
    later := []
    cancelRequested := false
    rounds := 0
    phase := .starting }

theorem fresh : drive.Fresh := ⟨"drain", .pending, rfl⟩

def first : Turn := Drive.firstRound settings scene desk drive step nodeSteps

def round : Round :=
  Round.begin settings scene true ⟨"op", default, .empty⟩ (Drive.named desk nodeSteps)

/-- The unreachable node is settled. -/
def second : Turn := Drive.settle settings scene first.desk first.drive step nodeSteps round

/-- The round that a turn leaves under way. -/
def roundOf (t : Turn) : Round :=
  match t.drive.phase with
  | .dispatching _ _ r => r
  | _ => round

/-- Somebody wants the operation to end before the other node has begun. -/
def third : Turn := { second with drive := { second.drive with cancelRequested := true } }

theorem first_inRound : first.InRound step nodeSteps round := ⟨rfl, rfl⟩

theorem second_inRound : second.InRound step nodeSteps (roundOf second) := ⟨rfl, rfl⟩

end Sample

end Muster.Engine
