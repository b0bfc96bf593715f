import Muster.Proofs.Proceedings

/-!
# Who is heard of

Every envelope of a round names the node step that it is for. While a round is under way a node step goes
from slot to slot, and what lasts on its way (`Slot.Lasting`) lasts for its identifier to the end of the
step, since no identifier is given out twice (`Next.confined`). So whoever is silent once is never heard of
again (`Run.silent`), and whoever waits to begin has not been heard of yet (`Run.heard`).
-/

set_option autoImplicit false

namespace Muster.Engine

/-- The effect sends an envelope under an identifier. -/
def Effect.Names (id : String) : Effect → Prop
  | .send _ envelope => envelope.nodeStepId = id
  | .save _ => False
  | .finish _ => False

theorem Effect.Carries.names_iff {s : Settings} {c : RoundContext} {id other : String} {n : NodeStep}
    {effect : Effect} (carries : effect.Carries s c id n) : effect.Names other ↔ id = other := by
  obtain ⟨k, task, -, rfl⟩ := carries
  exact Iff.rfl

theorem not_names_of_saved {sent : List Effect} (saved : ∃ ops : List Operation, sent = ops.map .save)
    (id : String) : ∀ effect ∈ sent, ¬ effect.Names id := by
  obtain ⟨ops, rfl⟩ := saved
  intro effect member names
  obtain ⟨op, -, rfl⟩ := List.mem_map.1 member
  exact names

/-! ### What lasts -/

namespace Slot

/-- A property of a slot that is kept on the way of a node step through a round, and when the dispatch is
stopped or the outcome settled. -/
structure Lasting (P : Bool → Slot → Prop) : Prop where
  goes : ∀ {halted slot next}, Goes halted slot next → P halted slot → P halted next
  stopped : ∀ {slot}, P false slot → P true slot
  settled : ∀ {halted data}, P halted (.settled data)

variable {P : Bool → Slot → Prop} {halted : Bool} {slot next : Slot}

theorem Lasting.along (lasting : Lasting P) (goes : Relation.ReflTransGen (Goes halted) slot next)
    (holds : P halted slot) : P halted next := by
  induction goes with
  | refl => exact holds
  | tail _ goes ih => exact lasting.goes goes ih

theorem Lasting.mono (lasting : Lasting P) (more : Bool) (holds : P halted slot) :
    P (halted || more) slot := by
  cases halted with
  | true => exact holds
  | false =>
    cases more with
    | true => exact lasting.stopped holds
    | false => exact holds

/-- Silence lasts. -/
theorem lasting_silent : Lasting Silent where
  goes goes silent := silent_goes (.single goes) silent
  stopped {slot} silent := by
    cases slot with
    | running e => exact silent
    | ended outcome => trivial
    | settled data => trivial
    | _ => rfl
  settled := trivial

/-- Whoever has begun or left does not come back. -/
theorem lasting_gone : Lasting fun _ slot => ¬ slot.Waiting where
  goes goes gone := not_waiting_goes (.single goes) gone
  stopped gone := gone
  settled waits := waits

end Slot

namespace Round

variable {r t : Round}

/-- Every lane under an identifier has a property. -/
def Confines (P : Bool → Slot → Prop) (id : String) (r : Round) : Prop :=
  ∀ lane ∈ r.lanes, lane.id = id → P r.halted lane.slot

variable {P : Bool → Slot → Prop} {id : String} {lane : Lane} {outcome : Outcome}

theorem Confines.shifts (confines : r.Confines P id) (lasting : Slot.Lasting P)
    (shifts : Shifts r.halted r t) (halted : t.halted = r.halted) : t.Confines P id := by
  intro lane' member same
  obtain ⟨i, there'⟩ := List.mem_iff_getElem?.1 member
  obtain ⟨lane, there, id', -, goes⟩ := shifts i lane' there'
  rw [halted]
  exact lasting.along goes (confines lane (List.mem_of_getElem? there) (id' ▸ same))

theorem Confines.onward (confines : r.Confines P id) (lasting : Slot.Lasting P) (d : Drive) (step : Step)
    (sound : r.Sound) (took : r.take? = some (lane, outcome, t)) :
    (d.onward step lane outcome t).Confines P id := by
  intro lane' member same
  obtain ⟨i, there'⟩ := List.mem_iff_getElem?.1 member
  have halted := halted_onward d step lane outcome t
  rw [halted_of_take? took] at halted
  obtain ⟨old, there, id', -, goes⟩ :=
    shifts_onward d step sound (d.onward step lane outcome t).halted took i lane' there'
  apply lasting.along goes
  rcases (took_of_take? took).others old (List.mem_of_getElem? there) with before | rfl
  · rw [halted]
    exact lasting.mono _ (confines old before (id' ▸ same))
  · exact lasting.settled

end Round

/-! ### A round is set up -/

namespace Drive

variable {s : Settings} {scene : Scene} {desk : Desk} {d : Drive} {step : Step} {nodeSteps : List NodeStep}
  {round : Round}

/-- A round that begins: its identifiers are new, and whoever is left out has nothing to do. -/
structure Sets (scene : Scene) (used : Nat) (step : Step) (nodeSteps : List NodeStep) (u : Turn)
    (round : Round) : Prop where
  inRound : u.InRound step nodeSteps round
  fresh : ∀ lane ∈ round.lanes, Identifiers.Between used u.desk.identifiers.used lane.id
  left : step.skipUnreachable = true → ∀ lane ∈ round.lanes, scene.unreachable lane.nodeStep.nodeId = true →
    lane.slot = .ended .unreachable

theorem sets_dispatch (s : Settings) (scene : Scene) (desk : Desk) (d : Drive) (step : Step)
    (nodeSteps called : List NodeStep) :
    Sets scene desk.identifiers.used step nodeSteps (dispatch s scene desk d step nodeSteps called)
      (d.opening s scene desk step called) := by
  refine ⟨⟨rfl, rfl⟩, fun lane member => ?_, fun skip lane member away => ?_⟩
  · simp only [opening, Round.begin, List.mem_map] at member
    obtain ⟨entry, listed, rfl⟩ := member
    exact Identifiers.between_of_mem_freshFor (List.mem_map_of_mem listed)
  · simp only [opening, Round.begin, List.mem_map] at member
    obtain ⟨entry, -, rfl⟩ := member
    have both : (step.skipUnreachable && scene.unreachable entry.2.nodeId) = true := by
      rw [skip, Bool.true_and]
      exact away
    exact if_pos both

/-- If a round is under way after the end of another one then it has just begun. -/
theorem sets_concludeRound {used : Nat} (later : used ≤ desk.identifiers.used)
    (underWay : (concludeRound s scene desk d step nodeSteps round).verdict = .underWay) :
    ∃ next, Sets scene used step nodeSteps (concludeRound s scene desk d step nodeSteps round) next := by
  have cases := concludeRound_cases s scene desk d step nodeSteps round
  generalize concludeRound s scene desk d step nodeSteps round = u at cases underWay ⊢
  cases cases with
  | proceeds decided => cases underWay
  | aborts reason decided => cases underWay
  | nothingLeft decided none => cases underWay
  | retries decided some =>
    have sets := sets_dispatch s scene ((d.collect scene round).save (round.close desk)) (d.collect scene round)
      step nodeSteps (round.again (d.collect scene round).state)
    exact ⟨_, sets.inRound, fun lane member => (sets.fresh lane member).mono later (Nat.le_refl _), sets.left⟩

end Drive

namespace Proceedings

variable {s : Settings} {p q r : Proceedings} {scene : Scene} {motion : Motion} {sent more : List Effect}
  {history later : List (Scene × Motion)} {step : Step} {nodeSteps : List NodeStep} {round : Round}
  {c : Chapter} {d : Drive} {P : Bool → Slot → Prop} {id : String}

/-! ### One identifier -/

/-- An identifier has been given out, and whoever goes by it in the round under way has a property. -/
structure Confined (P : Bool → Slot → Prop) (id : String) (p : Proceedings) : Prop where
  spent : Identifiers.Between 0 p.turn.desk.identifiers.used id
  confines : ∀ step nodeSteps round, p.turn.InRound step nodeSteps round → round.Confines P id

theorem confined_of_inRound (spent : Identifiers.Between 0 p.turn.desk.identifiers.used id)
    (inRound : p.turn.InRound step nodeSteps round) (confines : round.Confines P id) : p.Confined P id := by
  refine ⟨spent, fun step' nodeSteps' round' inRound' => ?_⟩
  obtain ⟨-, -, rfl⟩ := inRound.unique inRound'
  exact confines

/-- In a round that has just begun nobody goes by an identifier given out before. -/
theorem confined_conclude {e : Drive} {after : Round} {desk : Desk}
    (spent : Identifiers.Between 0 desk.identifiers.used id) (c : Chapter) :
    (p.conclude scene (Drive.concludeRound s scene desk e step nodeSteps after) c).Confined P id := by
  obtain ⟨-, used⟩ := Drive.saves_concludeRound s scene desk e step nodeSteps after
  refine ⟨spent.mono (Nat.le_refl _) used, fun step' nodeSteps' round' inRound => ?_⟩
  obtain ⟨next, sets⟩ := Drive.sets_concludeRound (Nat.le_refl _) inRound.1
  obtain ⟨-, -, rfl⟩ := sets.inRound.unique inRound
  intro lane member same
  exact absurd same.symm (spent.ne (sets.fresh lane member) (Nat.le_refl _))

/-- **What lasts on the way through a round** lasts to the end of the step. -/
theorem Next.confined (kept : p.Kept d step nodeSteps) (next : Next s p scene motion sent q)
    (lasting : Slot.Lasting P) (confined : p.Confined P id) : q.Confined P id := by
  by_cases underWay : p.turn.verdict = .underWay
  · obtain ⟨round, c, here⟩ := kept.underWay underWay
    have order := kept.sound step nodeSteps round here.inRound
    have confines := confined.confines step nodeSteps round here.inRound
    have spent {used : Nat} (later : p.turn.desk.identifiers.used ≤ used) : Identifiers.Between 0 used id :=
      confined.spent.mono (Nat.le_refl _) later
    cases next.stage here with
    | idle desk later none => exact confined_of_inRound (spent later) ⟨rfl, here.inRound.2⟩ confines
    | settles desk later took note patient busy saved =>
      exact confined_of_inRound (spent later) ⟨rfl, rfl⟩ (confines.onward lasting _ step order took)
    | ends desk later took note patient atEnd saved =>
      apply confined_conclude
      exact spent later
    | finalizes desk later took note gaveUp sweep saved =>
      apply confined_conclude
      exact spent later
    | works desk i later speaks =>
      have used := congrArg Identifiers.used (Round.identifiers_work s scene desk round i)
      have halted := Round.halted_work s scene desk round i
      exact confined_of_inRound (spent (later.trans used.ge)) ⟨rfl, rfl⟩
        (confines.shifts lasting (Round.shifts_work s scene desk order i) halted)
    | asks => exact confined_of_inRound confined.spent here.inRound confines
    | abandons desk later requested saved => exact ⟨spent later, fun _ _ _ inRound => nomatch inRound.1⟩
  · obtain ⟨-, rfl⟩ := next.asked_of_decided underWay
    exact ⟨confined.spent, fun _ _ _ inRound => absurd inRound.1 underWay⟩

/-! ### Silence -/

/-- Whoever is silent is not heard of in the next move. -/
theorem Next.silent (kept : p.Kept d step nodeSteps) (next : Next s p scene motion sent q)
    (silent : p.Confined Slot.Silent id) : ∀ effect ∈ sent, ¬ effect.Names id := by
  rcases next.saved_or_works kept with saved | ⟨round, c, i, desk, here, -, speaks, -⟩
  · exact not_names_of_saved saved id
  · intro effect member names
    obtain ⟨lane, there, able, carries⟩ := speaks.own here.faithful effect member
    have mute := silent.confines step nodeSteps round here.inRound lane (List.mem_of_getElem? there)
      (carries.names_iff.1 names)
    exact mute.not_able able

/-- **Whoever is silent once** is never heard of again. -/
theorem Run.silent (run : Run s p history sent q) (kept : p.Kept d step nodeSteps)
    (silent : p.Confined Slot.Silent id) :
    q.Confined Slot.Silent id ∧ ∀ effect ∈ sent, ¬ effect.Names id := by
  induction run with
  | refl => exact ⟨silent, fun _ member => nomatch member⟩
  | snoc run next ih =>
    obtain ⟨still, old⟩ := ih
    refine ⟨next.confined (run.kept kept) Slot.lasting_silent still, fun effect member => ?_⟩
    rcases List.mem_append.1 member with earlier | latest
    · exact old effect earlier
    · exact next.silent (run.kept kept) still effect latest

/-! ### Being heard of -/

theorem At.eq_of_called {i j : Nat} {entry entry' : String × NodeStep} (here : p.At step nodeSteps round c)
    (there : round.called[i]? = some entry) (there' : round.called[j]? = some entry')
    (same : entry.1 = entry'.1) : i = j := by
  rw [here.tells.called] at there there'
  have ids {k : Nat} {e : String × NodeStep} (at_k : c.called[k]? = some e) :
      (c.called.map Prod.fst)[k]? = some e.1 := by
    rw [List.getElem?_map, at_k]
    rfl
  have inside : i < (c.called.map Prod.fst).length := (List.getElem?_eq_some_iff.1 (ids there)).1
  apply (List.getElem?_inj inside here.distinct).1
  rw [ids there, ids there', same]

theorem At.eq_of_id {i j : Nat} {lane lane' : Lane} (here : p.At step nodeSteps round c)
    (there : round.lanes[i]? = some lane) (there' : round.lanes[j]? = some lane') (same : lane.id = lane'.id) :
    i = j :=
  here.eq_of_called (Round.called_getElem? there) (Round.called_getElem? there') same

/-- Whoever is heard of goes by an identifier that was given out before. -/
theorem Next.named (kept : p.Kept d step nodeSteps) (next : Next s p scene motion sent q)
    {effect : Effect} (member : effect ∈ sent) (names : effect.Names id) :
    Identifiers.Between 0 p.turn.desk.identifiers.used id := by
  rcases next.saved_or_works kept with saved | ⟨round, c, i, desk, here, -, speaks, -⟩
  · exact absurd names (not_names_of_saved saved id effect member)
  · obtain ⟨lane, there, -, carries⟩ := speaks.own here.faithful effect member
    obtain rfl := carries.names_iff.1 names
    apply here.spent (lane.id, lane.nodeStep)
    rw [← here.tells.called]
    exact List.mem_of_getElem? (Round.called_getElem? there)

/-- Whoever is heard of has begun. -/
theorem Next.begun (kept : p.Kept d step nodeSteps) (next : Next s p scene motion sent q)
    {effect : Effect} (member : effect ∈ sent) (names : effect.Names id) :
    q.Confined (fun _ slot => ¬ slot.Waiting) id := by
  have spent := next.named kept member names
  rcases next.saved_or_works kept with saved | ⟨round, c, i, desk, here, later, speaks, turn⟩
  · exact absurd names (not_names_of_saved saved id effect member)
  · obtain ⟨lane, there, -, carries⟩ := speaks.own here.faithful effect member
    obtain rfl := carries.names_iff.1 names
    have order := kept.sound step nodeSteps round here.inRound
    have used := congrArg Identifiers.used (Round.identifiers_work s scene desk round i)
    have inRound : q.turn.InRound step nodeSteps (round.work s scene desk i).1 := by
      rw [turn]
      exact ⟨rfl, rfl⟩
    refine confined_of_inRound ?_ inRound ?_
    · rw [turn]
      exact spent.mono (Nat.le_refl _) (later.trans used.ge)
    · intro lane' member' same
      obtain ⟨j, there'⟩ := List.mem_iff_getElem?.1 member'
      obtain ⟨old, before, id', -, -⟩ := Round.shifts_work s scene desk order i j lane' there'
      obtain rfl := here.eq_of_id there before (same.symm.trans id')
      exact Slot.not_waiting_of_begun (speaks.begun effect member lane'.slot (Round.slot?_of_lane there'))

/-- **Whoever has been heard of** does not wait to begin any more. -/
theorem Run.heard (run : Run s p history sent q) (kept : p.Kept d step nodeSteps) {effect : Effect}
    (member : effect ∈ sent) (names : effect.Names id) : q.Confined (fun _ slot => ¬ slot.Waiting) id := by
  induction run with
  | refl => cases member
  | snoc run next ih =>
    rcases List.mem_append.1 member with earlier | latest
    · exact next.confined (run.kept kept) Slot.lasting_gone (ih earlier)
    · exact next.begun (run.kept kept) latest names

end Proceedings

end Muster.Engine
