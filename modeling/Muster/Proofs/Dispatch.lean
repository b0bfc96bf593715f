import Muster.Proofs.Classification
import Muster.Proofs.LeftOut
import Muster.Proofs.Permits
import Muster.Proofs.Retry

/-!
# What a round of dispatch promises

The promises of a round, whatever its policy, its agents and the order of things: how many node steps are at
work at a time, who is passed over once the dispatch has been stopped, who is left out as unreachable, and
how a round ends that waiting is given up for. `dispatch_promises` states them together.
-/

set_option autoImplicit false

namespace Muster.Engine

namespace Drive

/-- The policy has the dispatch stopped when the outcome that was handed in first is settled. -/
def Halts (scene : Scene) (d : Drive) (step : Step) (round : Round) : Prop :=
  ∃ lane outcome taken, round.take? = some (lane, outcome, taken) ∧
    ¬ (d.note scene lane.nodeStep outcome).Finalizes step outcome (taken.count outcome).timeouts ∧
    (step.policyIn d.op.type).halts (d.note scene lane.nodeStep outcome).state lane.nodeStep.nodeId = true

/-- The policy has waiting given up when the outcome that was handed in first is settled. -/
def GivesUp (scene : Scene) (d : Drive) (step : Step) (round : Round) : Prop :=
  ∃ lane outcome taken, round.take? = some (lane, outcome, taken) ∧
    (d.note scene lane.nodeStep outcome).Finalizes step outcome (taken.count outcome).timeouts

end Drive

namespace Round

variable {r t : Round} {c : Chapter} {i : Nat} {lane settled : Lane} {outcome : Outcome}

/-- Whoever waits when the dispatch is stopped is passed over. -/
theorem dismisses_onward {d : Drive} {step : Step} (c : Chapter) (sound : r.Sound)
    (took : r.take? = some (settled, outcome, t)) (there : r.lanes[i]? = some lane) (waits : lane.slot.Waiting)
    (halted : (d.onward step settled outcome t).halted = true) :
    (d.onward step settled outcome t).Dismisses c i := by
  have differ : r.outcomes.headD 0 ≠ i := by
    intro same
    have ended := slot?_headD took
    rw [same, slot?_of_lane there] at ended
    rw [Option.some.inj ended] at waits
    exact waits
  have here : (t.count outcome).slot? i = some lane.slot := by
    rw [slot?_of_take? took, if_neg differ, slot?_of_lane there]
  have stopped : Dismisses c i { t.count outcome with halted := true } := ⟨rfl, lane.slot, here, .inl waits⟩
  exact stopped.shifts (shifts_onward d step sound true took) (continues_passOn ..).called halted

theorem Dismisses.silent (dismisses : r.Dismisses c i) {slot : Slot} (here : r.slot? i = some slot) :
    slot.Silent r.halted := by
  obtain ⟨slot', here', waits | rfl | ⟨settled, -⟩⟩ := dismisses.never
  · cases here.symm.trans here'
    rw [dismisses.halted]
    exact waits.silent
  · cases here.symm.trans here'
    trivial
  · cases here.symm.trans here'
    cases slot with
    | settled data => trivial
    | _ => cases settled

end Round

namespace Proceedings

variable {s : Settings} {p q r : Proceedings} {scene : Scene} {motion : Motion} {sent more : List Effect}
  {history later : List (Scene × Motion)} {step : Step} {nodeSteps : List NodeStep} {round : Round}
  {c : Chapter} {d : Drive} {i k : Nat} {lane : Lane}

/-! ### The dispatch is stopped -/

/-- **Whoever waits when the dispatch is stopped** is passed over, and is not heard of. -/
theorem Next.passes_over (kept : p.Kept d step nodeSteps) (inRound : p.turn.InRound step nodeSteps round)
    (halts : p.turn.drive.Halts scene step round) (next : Next s p scene .settle sent q)
    (there : round.lanes[i]? = some lane) (waits : lane.slot.Waiting) :
    q.Dismissed p.concluded.length i ∧ q.Confined Slot.Silent lane.id := by
  obtain ⟨round', c, here⟩ := kept.underWay inRound.1
  obtain ⟨-, -, rfl⟩ := here.inRound.unique inRound
  obtain ⟨settled, outcome, taken, took, patient, stops⟩ := halts
  have order := kept.sound step nodeSteps round' inRound
  have kept' := next.kept kept
  have listed : (lane.id, lane.nodeStep) ∈ c.called := by
    rw [← here.tells.called]
    exact List.mem_of_getElem? (Round.called_getElem? there)
  have spent := here.spent _ listed
  have dismisses (c' : Chapter) : (Drive.onward (p.turn.drive.note scene settled.nodeStep outcome) step settled
      outcome taken).Dismisses c' i := by
    apply Round.dismisses_onward c' order took there waits
    rw [Round.halted_onward]
    exact (congrArg (taken.halted || ·) stops).trans (Bool.or_true _)
  cases next.stage here with
  | idle desk later none =>
    rw [none] at took
    cases took
  | @settles settled' outcome' taken' noted sent desk later took' note patient' busy saved =>
    obtain ⟨rfl, rfl, rfl⟩ := Round.take?_unique took took'
    subst note
    refine ⟨dismissed_of_inRound rfl rfl ⟨rfl, rfl⟩ (dismisses _), ?_⟩
    refine confined_of_inRound (spent.mono (Nat.le_refl _) later) ⟨rfl, rfl⟩ fun other member same => ?_
    -- Nobody else goes by that identifier.
    obtain ⟨j, there'⟩ := List.mem_iff_getElem?.1 member
    obtain ⟨old, before, id, -, -⟩ := Round.shifts_onward _ step order true took j other there'
    have called : taken.called = round'.called := (Round.took_of_take? took).called
    have position : i = j := by
      apply here.eq_of_called
      · exact Round.called_getElem? there
      · rw [← called]
        exact Round.called_getElem? before
      · exact (id.symm.trans same).symm
    subst position
    exact (dismisses c).silent (Round.slot?_of_lane there')
  | @ends settled' outcome' taken' noted sent desk later took' note patient' atEnd saved =>
    obtain ⟨rfl, rfl, rfl⟩ := Round.take?_unique took took'
    subst note
    refine ⟨dismissed_conclude rfl ((dismisses _).undispatched atEnd), ?_⟩
    apply confined_conclude
    exact spent.mono (Nat.le_refl _) later
  | @finalizes settled' outcome' taken' noted swept sent desk later took' note gaveUp sweep saved =>
    obtain ⟨rfl, rfl, rfl⟩ := Round.take?_unique took took'
    subst note
    exact absurd gaveUp patient

/-! ### Waiting is given up -/

/-- **When waiting is given up** everybody who is not settled is classified by whether it has begun, and
nobody of the round is heard of afterwards. -/
theorem Next.gives_up (kept : p.Kept d step nodeSteps) (inRound : p.turn.InRound step nodeSteps round)
    (current : p.current? = some c) (gives : p.turn.drive.GivesUp scene step round)
    (next : Next s p scene .settle sent q) :
    ∃ c', q.concluded = p.concluded ++ [c'] ∧ c'.called = c.called ∧
      (∀ i lane, round.lanes[i]? = some lane → lane.slot.isSettled = false →
        ∃ closing, c'.closing? i = some closing ∧ closing.disposition = Round.givenUp lane.slot) ∧
      ∀ entry ∈ c.called, q.Confined Slot.Silent entry.1 := by
  obtain ⟨round', c', here⟩ := kept.underWay inRound.1
  obtain ⟨-, -, rfl⟩ := here.inRound.unique inRound
  obtain rfl : c = c' := Option.some.inj (current.symm.trans here.here)
  obtain ⟨settled, outcome, taken, took, gaveUp⟩ := gives
  cases next.stage here with
  | idle desk later none =>
    rw [none] at took
    cases took
  | @settles settled' outcome' taken' noted sent desk later took' note patient busy saved =>
    obtain ⟨rfl, rfl, rfl⟩ := Round.take?_unique took took'
    subst note
    exact absurd gaveUp patient
  | @ends settled' outcome' taken' noted sent desk later took' note patient atEnd saved =>
    obtain ⟨rfl, rfl, rfl⟩ := Round.take?_unique took took'
    subst note
    exact absurd gaveUp patient
  | @finalizes settled' outcome' taken' noted swept sent desk later took' note gaveUp' sweep saved =>
    obtain ⟨rfl, rfl, rfl⟩ := Round.take?_unique took took'
    have tells := here.tells.take took
    refine ⟨_, rfl, rfl, fun i lane there unsettled => ?_, fun entry listed => ?_⟩
    · by_cases first : round'.outcomes.headD 0 = i
      · -- The last outcome itself is a timeout.
        have ended := Round.slot?_headD took
        rw [first, Round.slot?_of_lane there, gaveUp.1] at ended
        have none := here.tells.none_of_unsettled there unsettled
        have closed : (c.add [.first round' settled outcome]).closing? i = some (.settled .timedOut) := by
          rw [Chapter.closing?_add, none, Minute.closing?_singleton, gaveUp.1]
          exact if_pos first
        refine ⟨_, Chapter.closing?_add_of_some closed _, ?_⟩
        rw [Option.some.inj ended]
        rfl
      · have still : (taken.count outcome).slot? i = some lane.slot := by
          rw [Round.slot?_of_take? took, if_neg first, Round.slot?_of_lane there]
        simp only [Round.slot?, Option.map_eq_some_iff] at still
        obtain ⟨lane', there', same⟩ := still
        refine ⟨.givenUp (Round.givenUp lane.slot), ?_, rfl⟩
        rw [tells.closing?_swept Round.givenUp there', same, unsettled]
        rfl
    · apply confined_conclude
      exact (here.spent entry listed).mono (Nat.le_refl _) later

/-! ### Timeouts in a row -/

theorem finalizes_tolerant {e : Drive} {limit : Option Nat} {outcome : Outcome} {timeouts : Nat}
    (policy : step.policyIn e.op.type = .tolerant limit k) (positive : 0 < k) :
    e.Finalizes step outcome timeouts ↔ outcome = .timedOut ∧ k ≤ timeouts := by
  simp [Drive.Finalizes, policy, Policy.tolerant, positive]

/-- While a round is under way fewer timeouts in a row have been settled. -/
def Patient (k : Nat) (p : Proceedings) : Prop :=
  p.turn.verdict = .underWay → ∀ c, p.current? = some c → Chapter.streak c.outcomes < k

theorem patient_conclude {u : Turn} (positive : 0 < k) : (p.conclude scene u c).Patient k := by
  intro _ c' here
  have opened : u.chapter? scene = some c' := here
  rw [Turn.chapter?] at opened
  split at opened
  · cases opened
    exact positive
  · cases opened

/-- **A tolerant policy** gives up waiting before there are more timeouts in a row. -/
theorem Next.patient {limit : Option Nat} (policy : step.policyIn d.op.type = .tolerant limit k)
    (positive : 0 < k) (kept : p.Kept d step nodeSteps) (next : Next s p scene motion sent q)
    (patient : p.Patient k) : q.Patient k := by
  by_cases underWay : p.turn.verdict = .underWay
  · obtain ⟨round, c, here⟩ := kept.underWay underWay
    have before := patient underWay
    cases next.stage here with
    | idle desk later none => exact fun _ => before
    | @settles lane outcome taken noted sent desk later took note still busy saved =>
      intro _ c' current
      cases current
      have policy' : step.policyIn noted.op.type = .tolerant limit k := by
        rw [note]
        exact (congrArg step.policyIn kept.type).trans policy
      have timeouts := (here.tells.take took).timeouts
      rw [finalizes_tolerant policy' positive, timeouts] at still
      by_cases timedOut : outcome = .timedOut
      · exact Nat.lt_of_not_le fun more => still ⟨timedOut, more⟩
      · rw [Chapter.outcomes_add_first, Chapter.streak_concat, if_neg timedOut]
        exact positive
    | ends desk later took note still atEnd saved => exact patient_conclude positive
    | finalizes desk later took note gaveUp sweep saved => exact patient_conclude positive
    | works desk i later speaks => exact fun _ => before
    | asks => exact fun _ => before
    | abandons desk later requested saved => exact fun goesOn => nomatch goesOn
  · obtain ⟨-, rfl⟩ := next.asked_of_decided underWay
    exact fun goesOn => absurd goesOn underWay

theorem Run.patient {limit : Option Nat} (policy : step.policyIn d.op.type = .tolerant limit k)
    (positive : 0 < k) (run : Run s p history sent q) (kept : p.Kept d step nodeSteps)
    (patient : p.Patient k) : q.Patient k := by
  induction run with
  | refl => exact patient
  | snoc run next ih => exact next.patient policy positive (run.kept kept) ih

theorem patient_opening (s : Settings) (scene : Scene) (desk : Desk) (d : Drive) (step : Step)
    (nodeSteps : List NodeStep) (positive : 0 < k) :
    (opening s scene desk d step nodeSteps).Patient k := by
  let before : Proceedings := ⟨Drive.firstRound s scene desk d step nodeSteps, [], none⟩
  exact patient_conclude (p := before) (c := ⟨[], scene.unreachable, []⟩) positive

/-- **A tolerant policy** gives up waiting after so many timeouts in a row, and not before. -/
theorem gives_up_iff {limit : Option Nat} {outcome : Outcome} {taken : Round} (kept : p.Kept d step nodeSteps)
    (patient : p.Patient k) (policy : step.policyIn d.op.type = .tolerant limit k) (positive : 0 < k)
    (inRound : p.turn.InRound step nodeSteps round) (current : p.current? = some c)
    (took : round.take? = some (lane, outcome, taken)) :
    p.turn.drive.GivesUp scene step round ↔ Chapter.streak (c.outcomes ++ [outcome]) = k := by
  obtain ⟨round', c', here⟩ := kept.underWay inRound.1
  obtain ⟨-, -, rfl⟩ := here.inRound.unique inRound
  obtain rfl : c = c' := Option.some.inj (current.symm.trans here.here)
  have fewer := patient inRound.1 c current
  have policy' : step.policyIn (p.turn.drive.note scene lane.nodeStep outcome).op.type = .tolerant limit k :=
    (congrArg step.policyIn kept.type).trans policy
  have timeouts := (here.tells.take took).timeouts
  rw [Chapter.outcomes_add_first] at timeouts
  have gives : p.turn.drive.GivesUp scene step round' ↔ outcome = .timedOut ∧ k ≤ (taken.count outcome).timeouts := by
    rw [← finalizes_tolerant policy' positive]
    constructor
    · rintro ⟨lane', outcome', taken', took', gaveUp⟩
      obtain ⟨rfl, rfl, rfl⟩ := Round.take?_unique took took'
      exact gaveUp
    · exact fun gaveUp => ⟨lane, outcome, taken, took, gaveUp⟩
  rw [gives, timeouts, Chapter.streak_concat]
  split
  · next timedOut => simp only [timedOut, true_and]; omega
  · next other => simp only [other, false_and, false_iff]; omega

/-! ### All promises -/

/-- Whoever waits has not been heard of. -/
theorem Run.unheard (run : Run s p history sent q) (kept : p.Kept d step nodeSteps)
    (inRound : q.turn.InRound step nodeSteps round) (there : round.lanes[i]? = some lane)
    (waits : lane.slot.Waiting) : ∀ effect ∈ sent, ¬ effect.Names lane.id := by
  intro effect member names
  have gone := (run.heard kept member names).confines step nodeSteps round inRound
  exact gone lane (List.mem_of_getElem? there) rfl waits

/-- **What a round of dispatch promises**, whatever its policy and its agents do and in whichever order.

No more node steps are at work than the engine allows. Once the policy has the dispatch stopped, whoever
still waits never begins, never gets an envelope, and is classified as not dispatched when the round comes to
its end. Whoever is left out as unreachable when a round is set up never gets an envelope, and what is
stored about agents later does not matter to the round. When the policy gives up waiting, which a tolerant
one does after just so many timeouts in a row, everybody who is not settled is classified by whether it
has begun, and nobody gets another envelope. -/
theorem dispatch_promises (s : Settings) (scene : Scene) (desk : Desk) (d : Drive) (step : Step)
    (nodeSteps : List NodeStep) (inRange : d.InRange) (history : List (Scene × Motion)) (sent : List Effect)
    (p : Proceedings) (run : Run s (opening s scene desk d step nodeSteps) history sent p) :
    -- The chapters say what is on record.
    p.turn.drive.state.endings = (Minute.enter d.state p.minutes).endings ∧
    (∀ round, p.turn.InRound step nodeSteps round → 0 < s.maxParallel → round.busy ≤ s.maxParallel) ∧
    (∀ round now more q, p.turn.InRound step nodeSteps round → p.turn.drive.Halts now step round →
      Next s p now .settle more q → ∀ i lane, round.lanes[i]? = some lane → lane.slot.Waiting →
      ∀ later sent' r, Run s q later sent' r →
        (∀ effect ∈ sent ++ more ++ sent', ¬ effect.Names lane.id) ∧
        (r.concluded.length = p.concluded.length → ∀ after slot, r.turn.InRound step nodeSteps after →
          after.slot? i = some slot → slot.begun = false) ∧
        ∀ c, r.concluded[p.concluded.length]? = some c → c.Undispatched i) ∧
    (step.skipUnreachable = true → ∀ c ∈ p.chapters, ∀ entry ∈ c.called,
      c.unreachable entry.2.nodeId = true → ∀ effect ∈ sent, ¬ effect.Names entry.1) ∧
    (∀ later more q, Run s p later more q → q.turn.drive.rounds = p.turn.drive.rounds → ∀ agents,
      Run s p (storing agents later) more q ∧
      ∀ now motion sent' r, Next s q now motion sent' r → ∀ agents',
        ∃ r', Next s q (now.storing agents') motion sent' r' ∧ r.Alike r') ∧
    ∀ round c now, p.turn.InRound step nodeSteps round → p.current? = some c →
      (p.turn.drive.GivesUp now step round → ∀ more q, Next s p now .settle more q →
        (∃ c', q.concluded = p.concluded ++ [c'] ∧ c'.called = c.called ∧
          ∀ i lane, round.lanes[i]? = some lane → lane.slot.isSettled = false →
            ∃ closing, c'.closing? i = some closing ∧
              closing.disposition = if lane.slot.begun then .timedOut else .failed "not dispatched") ∧
        ∀ later sent' r, Run s q later sent' r → ∀ entry ∈ c.called, ∀ effect ∈ more ++ sent',
          ¬ effect.Names entry.1) ∧
      ∀ limit k, 0 < k → step.policyIn d.op.type = .tolerant limit k →
        ∀ lane outcome taken, round.take? = some (lane, outcome, taken) →
          (p.turn.drive.GivesUp now step round ↔ Chapter.streak (c.outcomes ++ [outcome]) = k) := by
  have first := kept_opening s scene desk d step nodeSteps
  have kept := run.kept first
  refine ⟨(run.recorded first (recorded_opening s scene desk step nodeSteps inRange)).endings, ?_, ?_, ?_, ?_, ?_⟩
  · intro round inRound bounded
    have inOrder : (opening s scene desk d step nodeSteps).turn.InOrder := first.sound
    have rationed := Turn.Course.rationed run.course bounded inOrder
      (Turn.rationed_firstRound scene desk d step nodeSteps bounded)
    rw [← rationed step nodeSteps round inRound]
    exact round.busy_le_permits
  · intro round now more q inRound halts next i lane there waits later sent' r further
    obtain ⟨dismissed, silent⟩ := next.passes_over kept inRound halts there waits
    have last := further.dismissed (next.kept kept) dismissed
    refine ⟨fun effect member => ?_, fun within after slot inRound' here => last.not_begun within inRound' here,
      fun c there' => last.undispatched there'⟩
    rcases List.mem_append.1 member with past | afterwards
    · rcases List.mem_append.1 past with earlier | now
      · exact run.unheard first inRound there waits effect earlier
      · exact not_names_of_saved next.saved lane.id effect now
    · exact (further.silent (next.kept kept) silent).2 effect afterwards
  · intro skip c member entry listed away
    exact (run.leftOut first (leftOut_opening s scene desk d step nodeSteps) skip c member entry listed away).2
  · intro later more q further within agents
    exact ⟨further.storing agents within, fun now motion sent' r next agents' => (next.storing agents').2⟩
  · intro round c now inRound current
    refine ⟨fun gives more q next => ?_, fun limit k positive policy lane outcome taken took => ?_⟩
    · obtain ⟨c', concluded, called, closings, silent⟩ := next.gives_up kept inRound current gives
      refine ⟨⟨c', concluded, called, closings⟩, fun later sent' r further entry listed effect member => ?_⟩
      rcases List.mem_append.1 member with now | afterwards
      · exact not_names_of_saved next.saved entry.1 effect now
      · exact (further.silent (next.kept kept) (silent entry listed)).2 effect afterwards
    · have patient := run.patient policy positive first (patient_opening s scene desk d step nodeSteps positive)
      exact gives_up_iff kept patient policy positive inRound current took

end Proceedings

namespace Sample

/-- Both nodes are about to be drained, and the first that is not stops the dispatch. -/
def atStart : Proceedings := .opening settings scene desk drive retryStep nodeSteps

/-- The unreachable node is settled. -/
def afterHalt : Proceedings :=
  ⟨halted, atStart.concluded,
    some (Chapter.add ⟨(roundOf begun).called, scene.unreachable, []⟩
      (begun.drive.minutes scene retryStep (roundOf begun)))⟩

/-- The other node is passed over. -/
def afterPass : Proceedings := { afterHalt with turn := passedOver }

/-- Nobody is left to wait for, and another round begins. -/
def afterRetry : Proceedings :=
  afterPass.conclude scene retried
    (Chapter.add ⟨(roundOf begun).called, scene.unreachable, begun.drive.minutes scene retryStep (roundOf begun)⟩
      (passedOver.drive.minutes scene retryStep (roundOf passedOver)))

end Sample

open Sample in
theorem sample_passed_over : begun.drive.Halts scene retryStep (roundOf begun) ∧
    ∃ c, afterRetry.concluded = [c] ∧ c.Undispatched 1 := by
  have halts : begun.drive.Halts scene retryStep (roundOf begun) :=
    ⟨_, _, _, rfl, by simp [Drive.Finalizes], rfl⟩
  have stops : Proceedings.Next Sample.settings atStart scene .settle
      (halted.desk.effects.drop begun.desk.effects.length) afterHalt :=
    Proceedings.Next.settles (u := halted) scene begun.desk ⟨rfl, rfl⟩ rfl (Nat.le_refl _) rfl rfl
      (Proceedings.not_endsRound rfl rfl)
  have passes : Proceedings.Next Sample.settings afterHalt scene (.work 1) [] afterPass :=
    .works scene halted.desk 1 halted_inRound (Nat.le_refl _) rfl rfl
  have ends : Turn.EndsRound passedOver retried := .inr (by decide)
  have retries : Proceedings.Next Sample.settings afterPass scene .settle
      (retried.desk.effects.drop passedOver.desk.effects.length) afterRetry :=
    Proceedings.Next.concludes (u := retried) scene passedOver.desk ⟨rfl, rfl⟩ rfl (Nat.le_refl _) rfl rfl ends
  have further := (Proceedings.Run.refl.snoc passes).snoc retries
  obtain ⟨-, -, stopped, -⟩ := Proceedings.dispatch_promises Sample.settings scene Sample.desk drive retryStep
    nodeSteps fresh.inRange _ _ atStart .refl
  obtain ⟨-, -, undispatched⟩ := stopped (roundOf begun) scene _ afterHalt ⟨rfl, rfl⟩ halts stops 1 _ rfl
    trivial _ _ afterRetry further
  exact ⟨halts, _, rfl, undispatched _ rfl⟩

end Muster.Engine
