import Muster.Proofs.Tally
import Muster.Proofs.Turn

/-!
# What a move does to a round

A move in a round lets it go on, ends it with everybody ended, or gives it up for a request to cancel
(`Turn.Progress`). When everybody has ended the policy of the step decides at once whether another round
begins, on those who failed or timed out (`Turn.Aftermath`).
-/

set_option autoImplicit false

namespace Muster.Engine

/-! ### What follows a round -/

/-- What a move leaves as it is, besides how nodes ended, unless it begins another round. -/
structure Drive.Along (d e : Drive) : Prop where
  inRange : e.InRange
  rounds : e.rounds = d.rounds
  type : e.op.type = d.op.type
  attempts : e.state.attempts = d.state.attempts

/-- How a decision of the policy becomes a verdict without another round. -/
inductive Ruling (step : Step) (exhausted : Prop) : Decision → Verdict → Prop where
  | proceed : Ruling step exhausted .proceed .stepOver
  | abort (reason : String) : Ruling step exhausted (.abort reason) (.stopped (.policyAbort step.name reason))
  | nothingLeft (none : exhausted) :
      Ruling step exhausted .retry (.stopped (.policyAbort step.name "nothing left to retry"))

namespace Ruling

variable {step : Step} {exhausted : Prop} {decision : Decision} {verdict : Verdict} {reason : String}

theorem verdict_ne (h : Ruling step exhausted decision verdict) : verdict ≠ .underWay := by
  cases h <;> simp

theorem eq_of_proceed (h : Ruling step exhausted .proceed verdict) : verdict = .stepOver := by
  cases h
  rfl

theorem eq_of_abort (h : Ruling step exhausted (.abort reason) verdict) :
    verdict = .stopped (.policyAbort step.name reason) := by
  cases h
  rfl

theorem exhausted_of_retry (h : Ruling step exhausted .retry verdict) : exhausted := by
  cases h with
  | nothingLeft none => exact none

end Ruling

/-- What follows a round in which everybody has ended. -/
inductive Turn.Aftermath (desk : Desk) (d : Drive) (step : Step) (nodeSteps : List NodeStep) (u : Turn) :
    Prop where
  | decided (along : d.Along u.drive) (endings : u.drive.state.endings = d.state.endings)
      (used : u.desk.identifiers = desk.identifiers)
      (ruling : Ruling step (∀ n ∈ nodeSteps, d.state.retryable.contains n.nodeId = false)
        (Drive.decision d step nodeSteps) u.verdict)
  /-- Another round begins, on those who are left to retry the step on. -/
  | repeats (round : Round) (inRound : u.InRound step nodeSteps round) (inRange : u.drive.InRange)
      (rounds : u.drive.rounds = d.rounds + 1) (type : u.drive.op.type = d.op.type)
      (endings : u.drive.state.endings = d.state.endings)
      (attempts : u.drive.state.attempts = d.state.attempts + 1)
      (decided : Drive.decision d step nodeSteps = .retry)
      (called : round.called = Drive.named desk
        (nodeSteps.filter fun n => d.state.retryable.contains n.nodeId))
      (used : u.desk.identifiers.used = desk.identifiers.used + round.called.length)
      (tally : Tally nodeSteps round u.drive.state)

section Aftermath

variable {nodeSteps : List NodeStep} {round : Round} {state : StepState}

theorem retryable_eq_false_iff {nodes : List String} {node : String} (sorted : state.Sorted nodes)
    (member : node ∈ nodes) : state.retryable.contains node = false ↔ Done (state.disposition node) := by
  have ended := sorted.disposition_isSome.2 member
  rw [← Bool.not_eq_true, sorted.exclusive.retryable_iff, Done]
  generalize state.disposition node = ending at ended ⊢
  cases ending with
  | none => cases ended
  | some ending => cases ending <;> simp

theorem Tally.again_eq (h : Tally nodeSteps round state)
    (sorted : state.Sorted (nodeSteps.map NodeStep.nodeId)) :
    round.again state = nodeSteps.filter fun n => state.retryable.contains n.nodeId := by
  rw [Round.again, Round.nodeSteps_eq, h.inOrder, List.filter_filter]
  refine List.filter_congr fun n member => ?_
  by_cases takesPart : n.nodeId ∈ round.targets
  · simp [takesPart]
  · have done := h.absent n member takesPart
    rw [(retryable_eq_false_iff sorted (List.mem_map_of_mem member)).2 done]
    rfl

theorem Drive.aftermath {d : Drive} {step : Step} (s : Settings) (scene : Scene) (desk : Desk)
    (inRange : d.InRange) (tally : Tally nodeSteps round d.state)
    (sorted : d.state.Sorted (nodeSteps.map NodeStep.nodeId)) :
    Turn.Aftermath desk d step nodeSteps (concludeRound s scene desk d step nodeSteps round) := by
  have again := tally.again_eq sorted
  -- Taking over what was returned changes nothing that the tally speaks of.
  have collected : (d.collect scene round).InRange := inRange
  have marked (status : StepStatus) : d.Along ((d.collect scene round).setStatus status) ∧
      ((d.collect scene round).setStatus status).state.endings = d.state.endings :=
    ⟨⟨inRange_modifyState collected _, rfl, rfl, attempts_setStatus collected status⟩,
      endings_setStatus collected status⟩
  have cases := concludeRound_cases s scene desk d step nodeSteps round
  generalize concludeRound s scene desk d step nodeSteps round = u at cases ⊢
  cases cases with
  | proceeds decided =>
    obtain ⟨along, endings⟩ := marked .successful
    refine .decided ⟨along.inRange, along.rounds, along.type, along.attempts⟩ endings rfl ?_
    rw [show decision d step nodeSteps = .proceed from decided]
    exact .proceed
  | aborts reason decided =>
    obtain ⟨along, endings⟩ := marked .error
    refine .decided along endings rfl ?_
    rw [show decision d step nodeSteps = .abort reason from decided]
    exact .abort reason
  | nothingLeft decided none =>
    obtain ⟨along, endings⟩ := marked .error
    refine .decided along endings rfl ?_
    rw [show decision d step nodeSteps = .retry from decided]
    refine .nothingLeft fun n member => ?_
    rw [show (d.collect scene round).state = d.state from rfl, again, List.filter_eq_nil_iff] at none
    exact Bool.eq_false_iff.2 (none n member)
  | retries decided some =>
    have state := state_dispatch s scene ((d.collect scene round).save (round.close desk)) step
      nodeSteps (round.again (d.collect scene round).state) collected
    have endings := congrArg StepState.endings state
    refine .repeats _ ⟨rfl, phase_dispatch ..⟩ (inRange_dispatch _ _ _ _ _ _ collected) rfl rfl endings
      (congrArg StepState.attempts state) decided ?_ ?_ (Tally.of_endings ?_ endings)
    · rw [Round.called_begin]
      exact congrArg (named desk) again
    · rw [Round.called_begin, dispatch, Identifiers.freshFor_used, named, Identifiers.length_freshFor]
      rfl
    · have called : (named desk (round.again d.state)).map Prod.snd
          = nodeSteps.filter fun n => d.state.retryable.contains n.nodeId := by
        rw [named, Identifiers.freshFor_snd]
        exact again
      exact tally_begin s scene _ _ tally.distinct sorted.exclusive
        (fun _ => sorted.disposition_isSome.1) called
        fun n member => retryable_eq_false_iff sorted (List.mem_map_of_mem member)

end Aftermath

/-! ### What a move does to a round -/

/-- Nodes that take no part in a round, or are done with, keep the ending they had. -/
def Round.Spares (r : Round) (before after : StepState) : Prop :=
  ∀ node, node ∉ r.targets ∨ Done (before.disposition node) →
    after.disposition node = before.disposition node

/-- What a move can do to a round that is under way. -/
inductive Turn.Progress (t : Turn) (step : Step) (nodeSteps : List NodeStep)
    (round : Round) (u : Turn) : Prop where
  /-- The round goes on. -/
  | stays (after : Round) (inRound : u.InRound step nodeSteps after) (called : after.called = round.called)
      (along : t.drive.Along u.drive)
      (used : t.desk.identifiers.used ≤ u.desk.identifiers.used)
      (tally : Tally nodeSteps after u.drive.state)
      (spares : round.Spares t.drive.state u.drive.state)
  /-- Everybody has ended, and the policy decides what follows. -/
  | ends (desk : Desk) (d : Drive) (after : Turn.Aftermath desk d step nodeSteps u)
      (along : t.drive.Along d) (used : t.desk.identifiers.used ≤ desk.identifiers.used)
      (sorted : d.state.Sorted (nodeSteps.map NodeStep.nodeId))
      (spares : round.Spares t.drive.state d.state)
  | cancelled (verdict : u.verdict = .stopped .cancelled) (along : t.drive.Along u.drive)
      (used : t.desk.identifiers.used ≤ u.desk.identifiers.used)
      (sorted : u.drive.state.Sorted (nodeSteps.map NodeStep.nodeId))
      (spares : round.Spares t.drive.state u.drive.state)

namespace Turn

variable {s : Settings} {t u : Turn} {step : Step} {nodeSteps : List NodeStep} {round : Round}

theorem Progress.of_settle (inRange : t.drive.InRange) (inRound : t.InRound step nodeSteps round)
    (tally : Tally nodeSteps round t.drive.state) (scene : Scene) (desk : Desk)
    (later : t.desk.identifiers.used ≤ desk.identifiers.used) :
    Progress t step nodeSteps round (Drive.settle s scene desk t.drive step nodeSteps round) := by
  -- Noting the outcome that was taken classifies its node.
  have noted {lane : Lane} {outcome : Outcome} {taken : Round} (took : round.Took lane outcome taken) :
      t.drive.Along (t.drive.note scene lane.nodeStep outcome) ∧
      Tally nodeSteps taken (t.drive.note scene lane.nodeStep outcome).state ∧
      round.Spares t.drive.state (t.drive.note scene lane.nodeStep outcome).state := by
    have state := Drive.state_note scene inRange lane.nodeStep outcome
    refine ⟨⟨Drive.inRange_note inRange _ _, rfl, rfl, ?_⟩, ?_, fun node apart => ?_⟩
    · rw [state, StepState.attempts_classify]
    · rw [state]
      exact tally.settle took
    · rw [state]
      exact StepState.disposition_classify_of_ne (tally.ne_of_took took apart)
  have cases := Drive.settle_cases s scene desk t.drive step nodeSteps round
  generalize Drive.settle s scene desk t.drive step nodeSteps round = u at cases ⊢
  cases cases with
  | idle none =>
    exact .stays round ⟨rfl, inRound.2⟩ rfl ⟨inRange, rfl, rfl, rfl⟩ later tally fun _ _ => rfl
  | finalizes lane outcome taken noted' swept took note gaveUp sweep =>
    have took := Round.took_of_take? took
    obtain ⟨along, tally', spares⟩ := noted took
    rw [← note] at along tally' spares
    have counted := tally'.keeps (Round.keeps_count taken outcome)
    have targets := Round.targets_eq_of_called took.called
    have state : swept.state = (taken.count outcome).sweep Round.givenUp noted'.state := by
      rw [sweep, Drive.state_modifyState along.inRange]
    have along' : t.drive.Along swept := by
      refine ⟨?_, ?_, ?_, ?_⟩
      · rw [sweep]
        exact Drive.inRange_modifyState along.inRange _
      · rw [sweep]
        exact along.rounds
      · rw [sweep]
        exact along.type
      · rw [state, Round.attempts_sweep]
        exact along.attempts
    have tally'' : Tally nodeSteps (taken.count outcome) swept.state := by
      rw [state]
      exact counted.sweep Round.givenUp not_done_givenUp
    have sorted : swept.state.Sorted (nodeSteps.map NodeStep.nodeId) := by
      rw [state]
      exact counted.sorted_sweep Round.givenUp
    refine .ends _ swept (Drive.aftermath s scene _ along'.inRange tally'' sorted) along' later sorted
      fun node apart => ?_
    · have same := spares node apart
      rw [state, counted.disposition_sweep Round.givenUp, same]
      rw [same]
      exact apart.imp_left fun away => targets ▸ away
  | ends lane outcome taken noted' took note patient atEnd =>
    have took := Round.took_of_take? took
    obtain ⟨along, tally', spares⟩ := noted took
    rw [← note] at along tally' spares
    have kept := Drive.keeps_onward noted' step lane outcome taken
    have onward := tally'.keeps kept
    have sorted := onward.sorted_of_isOver atEnd
    exact .ends _ noted' (Drive.aftermath s scene _ along.inRange onward sorted) along later sorted spares
  | goesOn lane outcome taken noted' took note patient busy =>
    have took := Round.took_of_take? took
    obtain ⟨along, tally', spares⟩ := noted took
    rw [← note] at along tally' spares
    have kept := Drive.keeps_onward noted' step lane outcome taken
    have called := (Round.called_eq_of_roster (kept.roster tally'.sound)).trans took.called
    exact .stays _ ⟨rfl, rfl⟩ called ⟨along.inRange, along.rounds, along.type, along.attempts⟩ later
      (tally'.keeps kept) spares

theorem Move.progress (inRange : t.drive.InRange) (inRound : t.InRound step nodeSteps round)
    (tally : Tally nodeSteps round t.drive.state) (move : Move s t u) :
    Progress t step nodeSteps round u := by
  cases move with
  | settle scene desk underWay later =>
    obtain ⟨rfl, rfl, rfl⟩ := inRound.unique underWay
    exact Progress.of_settle inRange inRound tally scene desk later
  | work scene desk i underWay later =>
    obtain ⟨rfl, rfl, rfl⟩ := inRound.unique underWay
    have kept := Round.keeps_work s scene desk round i
    rw [Drive.work_dispatching s scene desk i inRound.2]
    refine .stays _ ⟨rfl, rfl⟩ (Round.called_eq_of_roster (kept.roster tally.sound))
      ⟨inRange, rfl, rfl, rfl⟩ ?_ (tally.keeps kept) fun _ _ => rfl
    exact later.trans (congrArg Identifiers.used (Round.identifiers_work s scene desk round i)).ge
  | request => exact .stays round inRound rfl ⟨inRange, rfl, rfl, rfl⟩ (Nat.le_refl _) tally fun _ _ => rfl
  | abandon scene desk underWay requested later =>
    obtain ⟨rfl, rfl, rfl⟩ := inRound.unique underWay
    let ending : Slot → Disposition := fun _ => .failed "cancelled"
    have state : (Drive.abandon scene desk t.drive round).drive.state
        = { round.sweep ending t.drive.state with status := .error } := by
      have swept := Drive.state_modifyState inRange (round.sweep ending)
      have marked := Drive.state_modifyState (Drive.inRange_modifyState inRange (round.sweep ending))
        fun state => { state with status := .error }
      rw [swept] at marked
      exact marked
    have same : (Drive.abandon scene desk t.drive round).drive.state.endings
        = (round.sweep ending t.drive.state).endings := by
      rw [state]
      rfl
    refine .cancelled rfl ⟨Drive.inRange_modifyState (Drive.inRange_modifyState inRange _) _, rfl, rfl, ?_⟩
      later ((tally.sorted_sweep ending).of_endings same) fun node apart => ?_
    · rw [state]
      exact Round.attempts_sweep ending t.drive.state round
    · rw [StepState.disposition_eq_of_endings same]
      exact tally.disposition_sweep ending apart

end Turn

/-! ### A step begins -/

section First

variable {nodeSteps : List NodeStep} {d : Drive}

/-- The first round of a step begins with a tally. -/
theorem Drive.tally_first (s : Settings) (scene : Scene) (desk : Desk) (step : Step) (fresh : d.Fresh)
    (distinct : (nodeSteps.map NodeStep.nodeId).Nodup) :
    Tally nodeSteps
      (Round.begin s scene step.skipUnreachable ⟨d.op.id, d.cluster, d.op.returnData⟩ (named desk nodeSteps))
      (dispatch s scene desk d step nodeSteps nodeSteps).drive.state := by
  obtain ⟨name, status, state⟩ := fresh.state_eq
  have begun := state_dispatch s scene desk step nodeSteps nodeSteps fresh.inRange
  have unknown (node : String) : d.state.disposition node = none := by
    rw [state]
    rfl
  have exclusive : d.state.Exclusive := by
    rw [state]
    exact StepState.exclusive_named name
  have everybody : (named desk nodeSteps).map Prod.snd = nodeSteps.filter fun _ => true := by
    rw [named, Identifiers.freshFor_snd, List.filter_true]
  have endings : (dispatch s scene desk d step nodeSteps nodeSteps).drive.state.endings
      = d.state.endings := by
    rw [begun]
    rfl
  refine Tally.of_endings (tally_begin s scene _ _ distinct exclusive ?_ everybody ?_) endings
  · intro node ended
    rw [unknown] at ended
    cases ended
  · intro n _
    rw [unknown]
    simp [Done]

/-- A step without node steps is decided at once. -/
theorem Drive.aftermath_firstRound (s : Settings) (scene : Scene) (desk : Desk) (step : Step) (fresh : d.Fresh) :
    let begun := dispatch s scene desk d step [] []
    begun.drive.state.Sorted [] ∧
    Turn.Aftermath begun.desk begun.drive step [] (firstRound s scene desk d step []) := by
  intro begun
  have distinct : (([] : List NodeStep).map NodeStep.nodeId).Nodup := List.nodup_nil
  have tally := tally_first s scene desk step fresh distinct
  have sorted : begun.drive.state.Sorted [] := tally.sorted_of_isOver rfl
  refine ⟨sorted, ?_⟩
  rw [firstRound_nil]
  exact aftermath s scene begun.desk (inRange_dispatch _ _ _ _ _ _ fresh.inRange) tally sorted

end First

end Muster.Engine
