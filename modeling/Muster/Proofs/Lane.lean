import Mathlib.Logic.Relation
import Muster.Proofs.Sending
import Muster.Proofs.Turn

/-!
# How a node step of a round gets on

A lane goes from slot to slot by `Slot.Goes`, and a round that goes on moves every lane along it
(`Round.Shifts`). Once the dispatch has been stopped nobody begins any more: whoever still waits can only
leave. What a node step sends it sends itself, when it begins or has begun (`Round.speaks_work`).
-/

set_option autoImplicit false

namespace Muster.Engine

open Relation (ReflTransGen)

/-! ### From slot to slot -/

namespace Slot

/-- The node step waits to begin. -/
def Waiting : Slot → Prop
  | .spawned => True
  | .queued => True
  | .granted => True
  | _ => False

/-- The node step may send something when it goes on. -/
def Able (halted : Bool) : Slot → Prop
  | .spawned => halted = false
  | .granted => halted = false
  | .running _ => True
  | _ => False

/-- The node step sends nothing any more. -/
def Silent (halted : Bool) : Slot → Prop
  | .spawned => halted = true
  | .queued => halted = true
  | .granted => halted = true
  | .running _ => False
  | .ended _ => True
  | .settled _ => True

/-- What a node step may do next, or what may be done to it. -/
inductive Goes (halted : Bool) : Slot → Slot → Prop where
  | queues (free : halted = false) : Goes halted .spawned .queued
  | granted : Goes halted .queued .granted
  /-- It begins, and may have ended at once. -/
  | begins {slot next : Slot} (waits : slot.Waiting) (free : halted = false) (begun : next.begun = true) :
      Goes halted slot next
  | goesOn {e : Exchange} {next : Slot} (begun : next.begun = true) : Goes halted (.running e) next
  /-- The dispatch has been stopped. -/
  | leaves {slot : Slot} (waits : slot.Waiting) (stopped : halted = true) :
      Goes halted slot (.ended .notDispatched)

variable {halted : Bool} {slot next : Slot}

theorem isSettled_of_begun (begun : slot.begun = true) : slot.isSettled = false := by
  cases slot with
  | settled data => cases begun
  | _ => rfl

theorem Waiting.isSettled (waits : slot.Waiting) : slot.isSettled = false := by
  cases slot with
  | settled data => cases waits
  | _ => rfl

/-- Whoever goes on is not settled, before and afterwards. -/
theorem Goes.unsettled (goes : Goes halted slot next) : slot.isSettled = false ∧ next.isSettled = false := by
  cases goes with
  | queues free => exact ⟨rfl, rfl⟩
  | granted => exact ⟨rfl, rfl⟩
  | begins waits free begun => exact ⟨waits.isSettled, isSettled_of_begun begun⟩
  | goesOn begun => exact ⟨rfl, isSettled_of_begun begun⟩
  | leaves waits stopped => exact ⟨waits.isSettled, rfl⟩

/-- An outcome that was handed in stays until it is settled. -/
theorem Goes.not_ended {outcome : Outcome} (goes : Goes halted (.ended outcome) next) : False := by
  cases goes with
  | begins waits free begun => exact waits
  | leaves waits stopped => exact waits

theorem isSettled_goes (goes : ReflTransGen (Goes halted) slot next) : next.isSettled = slot.isSettled := by
  induction goes with
  | refl => rfl
  | tail _ goes ih => rw [goes.unsettled.2, ← ih, goes.unsettled.1]

theorem eq_of_settled (goes : ReflTransGen (Goes halted) slot next) (settled : slot.isSettled = true) :
    next = slot := by
  induction goes with
  | refl => rfl
  | tail _ goes ih =>
    have unsettled := goes.unsettled.1
    rw [ih, settled] at unsettled
    cases unsettled

theorem eq_of_ended {outcome : Outcome} (goes : ReflTransGen (Goes halted) (.ended outcome) next) :
    next = .ended outcome := by
  induction goes with
  | refl => rfl
  | tail _ goes ih =>
    rw [ih] at goes
    exact goes.not_ended.elim

/-- What a node step has returned stays as it is until its outcome is settled. -/
theorem data?_goes (goes : ReflTransGen (Goes halted) slot next) : next.data? = slot.data? := by
  have nothing {slot : Slot} (unsettled : slot.isSettled = false) : slot.data? = none := by
    cases slot with
    | settled data => cases unsettled
    | _ => rfl
  cases settled : slot.isSettled with
  | true => rw [eq_of_settled goes settled]
  | false => rw [nothing settled, nothing ((isSettled_goes goes).trans settled)]

theorem not_waiting_of_begun (begun : slot.begun = true) : ¬ slot.Waiting := by
  intro waits
  cases slot with
  | running e => exact waits
  | ended outcome => exact waits
  | settled data => exact waits
  | _ => cases begun

/-- Whoever has begun or left does not wait to begin any more. -/
theorem not_waiting_goes (goes : ReflTransGen (Goes halted) slot next) (gone : ¬ slot.Waiting) :
    ¬ next.Waiting := by
  induction goes with
  | refl => exact gone
  | tail _ goes ih =>
    cases goes with
    | queues free => exact absurd trivial ih
    | granted => exact absurd trivial ih
    | begins waits free begun => exact not_waiting_of_begun begun
    | goesOn begun => exact not_waiting_of_begun begun
    | leaves waits stopped => exact fun waits => waits

theorem Silent.not_able (silent : slot.Silent halted) : ¬ slot.Able halted := by
  intro able
  have free (stopped : halted = true) (free : halted = false) : False := by
    rw [stopped] at free
    cases free
  cases slot with
  | spawned => exact free silent able
  | granted => exact free silent able
  | running e => exact silent
  | _ => exact able

/-- Whoever sends nothing any more never will again. -/
theorem silent_goes (goes : ReflTransGen (Goes halted) slot next) (silent : slot.Silent halted) :
    next.Silent halted := by
  induction goes with
  | refl => exact silent
  | @tail between next _ goes ih =>
    cases goes with
    | queues free => exact ih
    | granted => exact ih
    | begins waits free begun =>
      have stopped : halted = true := by
        cases between with
        | spawned => exact ih
        | queued => exact ih
        | granted => exact ih
        | _ => exact False.elim waits
      rw [free] at stopped
      cases stopped
    | goesOn begun => exact False.elim ih
    | leaves waits stopped => trivial

theorem Waiting.silent (waits : slot.Waiting) : slot.Silent true := by
  cases slot with
  | running e => exact waits
  | ended outcome => trivial
  | settled data => trivial
  | _ => rfl

/-- Whoever waits when the dispatch has been stopped never begins. -/
theorem waiting_or_left (goes : ReflTransGen (Goes true) slot next) (waits : slot.Waiting) :
    next.Waiting ∨ next = .ended .notDispatched := by
  induction goes with
  | refl => exact .inl waits
  | tail _ goes ih =>
    rcases ih with waits' | rfl
    · cases goes with
      | queues free => cases free
      | granted => exact .inl trivial
      | begins _ free begun => cases free
      | goesOn begun => cases waits'
      | leaves _ stopped => exact .inr rfl
    · exact goes.not_ended.elim

end Slot

/-! ### Moves of a node step -/

/-- Where a node step stands after a move. -/
def Standing.slot : Standing → Slot
  | .waiting e => .running e
  | .ended outcome => .ended outcome

namespace Exchange

variable {s : Settings} {c : RoundContext} {scene : Scene} {router : ReplyRouter} {e : Exchange}

theorem begun_dispatch (index : Nat) (tasks : List Task) :
    (dispatch s c scene router e index tasks).standing.slot.begun = true := by
  cases tasks with
  | nil => rfl
  | cons task rest =>
    rw [dispatch]
    split <;> rfl

theorem begun_begin (id : String) (n : NodeStep) :
    (begin s c scene router id n).standing.slot.begun = true :=
  begun_dispatch 0 n.tasks

theorem begun_resume : (e.resume s c scene router).standing.slot.begun = true := by
  simp only [resume]
  split
  · split
    · rfl
    · split <;> rfl
  · split
    · exact begun_dispatch ..
    · rfl

end Exchange

/-! ### A round goes on -/

namespace Round

variable {r t u : Round} {halted : Bool} {i : Nat} {slot old : Slot}

theorem slot?_of_lane {lane : Lane} (there : r.lanes[i]? = some lane) : r.slot? i = some lane.slot := by
  rw [slot?, there]
  rfl

theorem called_getElem? {lane : Lane} (there : r.lanes[i]? = some lane) :
    r.called[i]? = some (lane.id, lane.nodeStep) := by
  rw [called, List.getElem?_map, there]
  rfl

theorem slot?_isSome (r : Round) (i : Nat) : (r.slot? i).isSome = true ↔ i < r.called.length := by
  simp [slot?, called]

/-- A round goes on as another one: every lane has got on. -/
def Shifts (halted : Bool) (r t : Round) : Prop :=
  ∀ (i : Nat) (lane' : Lane), t.lanes[i]? = some lane' → ∃ lane, r.lanes[i]? = some lane ∧
    lane'.id = lane.id ∧ lane'.nodeStep = lane.nodeStep ∧
    ReflTransGen (Slot.Goes halted) lane.slot lane'.slot

namespace Shifts

theorem of_lanes (lanes : t.lanes = r.lanes) : Shifts halted r t := by
  intro i lane' here
  rw [lanes] at here
  exact ⟨lane', here, rfl, rfl, .refl⟩

theorem trans (first : Shifts halted r t) (second : Shifts halted t u) : Shifts halted r u := by
  intro i lane'' there
  obtain ⟨lane', between, id', nodeStep', goes'⟩ := second i lane'' there
  obtain ⟨lane, here, id, nodeStep, goes⟩ := first i lane' between
  exact ⟨lane, here, id'.trans id, nodeStep'.trans nodeStep, goes.trans goes'⟩

theorem of_free (free : r.halted = false) (shifts : Shifts false r t) : Shifts r.halted r t := by
  rw [free]
  exact shifts

theorem of_stopped (stopped : r.halted = true) (shifts : Shifts true r t) : Shifts r.halted r t := by
  rw [stopped]
  exact shifts

theorem setSlot (here : r.slot? i = some old) (goes : old.Goes halted slot) :
    Shifts halted r (r.setSlot i slot) := by
  intro j lane' there
  simp only [Round.setSlot, List.getElem?_modify] at there
  by_cases same : i = j
  · subst same
    simp only [if_true, Option.map_eq_map, Option.map_eq_some_iff] at there
    obtain ⟨lane, found, rfl⟩ := there
    rw [slot?, found, Option.map_some, Option.some.injEq] at here
    exact ⟨lane, found, rfl, rfl, .single (here ▸ goes)⟩
  · simp only [same, if_false, Option.map_eq_map, Option.map_id_fun', id] at there
    exact ⟨lane', there, rfl, rfl, .refl⟩

theorem report {outcome : Outcome} (here : r.slot? i = some old) (goes : old.Goes halted (.ended outcome)) :
    Shifts halted r (r.report i outcome) :=
  (setSlot here goes).trans (.of_lanes rfl)

theorem release (sound : r.Sound) : Shifts halted r r.release := by
  rw [Round.release]
  split
  · exact .of_lanes rfl
  · next next rest found =>
    have queued := sound.queued next (by rw [found]; exact List.mem_cons_self)
    exact (setSlot queued .granted).trans (.of_lanes rfl)

theorem passOn (sound : r.Sound) (halts : Bool) (outcome : Outcome) :
    Shifts halted r (r.passOn halts outcome) := by
  have noted : Shifts halted r { r with halted := r.halted || halts } := .of_lanes rfl
  rw [Round.passOn]
  split
  · exact noted.trans (.release ⟨sound.queued, sound.once⟩)
  · exact noted

end Shifts

/-- The lane at a position takes over where a move led to. -/
theorem lanes_follow (r : Round) (i : Nat) (move : Move) :
    (r.follow i move).lanes = (r.setSlot i move.standing.slot).lanes := by
  rw [follow]
  cases move.standing <;> rfl

theorem shifts_follow {move : Move} (here : r.slot? i = some old)
    (goes : old.Goes halted move.standing.slot) : Shifts halted r (r.follow i move) :=
  (Shifts.setSlot here goes).trans (.of_lanes (lanes_follow r i move))

theorem shifts_start (s : Settings) (scene : Scene) (desk : Desk) (here : r.slot? i = some old)
    (waits : old.Waiting) : Shifts false r (start s scene desk r i).1 := by
  rw [start]
  split
  · exact .of_lanes rfl
  · exact shifts_follow here (.begins waits rfl (Exchange.begun_begin ..))

/-- **A node step that goes on** gets on along its way, and nobody else does more than that. -/
theorem shifts_work (s : Settings) (scene : Scene) (desk : Desk) (sound : r.Sound) (i : Nat) :
    Shifts r.halted r (r.work s scene desk i).1 := by
  rw [work]
  split
  · next here =>
    split
    · next stopped => exact .of_stopped stopped (.report here (.leaves trivial rfl))
    · next free =>
      apply Shifts.of_free (Bool.eq_false_iff.2 free)
      split
      · exact (Shifts.setSlot here (.queues rfl)).trans (.of_lanes rfl)
      · have taken : Shifts false r { r with free := r.free - 1 } := .of_lanes rfl
        exact taken.trans (shifts_start s scene desk (r := { r with free := r.free - 1 }) here trivial)
  · next here =>
    split
    · next stopped =>
      have left : Shifts true r { r with line := r.line.filter fun j => j ≠ i } := .of_lanes rfl
      exact .of_stopped stopped (left.trans
        (.report (r := { r with line := r.line.filter fun j => j ≠ i }) here (.leaves trivial rfl)))
    · exact .of_lanes rfl
  · next here =>
    split
    · next stopped =>
      have left := sound.slot?_release here (by simp)
      exact .of_stopped stopped ((Shifts.release sound).trans (.report left (.leaves trivial rfl)))
    · next free => exact .of_free (Bool.eq_false_iff.2 free) (shifts_start s scene desk here trivial)
  · next e here => exact shifts_follow here (.goesOn Exchange.begun_resume)
  · exact .of_lanes rfl

/-! ### What does not change when a node step goes on -/

/-- What is decided when an outcome is settled stays as it is in between. -/
def verdicts (r : Round) : Bool × Nat := (r.halted, r.timeouts)

theorem verdicts_release (r : Round) : r.release.verdicts = r.verdicts := by
  rw [release]
  split <;> rfl

theorem verdicts_follow (r : Round) (i : Nat) (move : Move) : (r.follow i move).verdicts = r.verdicts := by
  rw [follow]
  split <;> rfl

theorem verdicts_start (s : Settings) (scene : Scene) (desk : Desk) (r : Round) (i : Nat) :
    (start s scene desk r i).1.verdicts = r.verdicts := by
  rw [start]
  split
  · rfl
  · exact verdicts_follow ..

theorem verdicts_work (s : Settings) (scene : Scene) (desk : Desk) (r : Round) (i : Nat) :
    (r.work s scene desk i).1.verdicts = r.verdicts := by
  rw [work]
  split
  · split
    · rfl
    · split
      · rfl
      · exact verdicts_start ..
  · split <;> rfl
  · split
    · exact verdicts_release r
    · exact verdicts_start ..
  · exact verdicts_follow ..
  · rfl

theorem halted_work (s : Settings) (scene : Scene) (desk : Desk) (r : Round) (i : Nat) :
    (r.work s scene desk i).1.halted = r.halted :=
  congrArg Prod.fst (verdicts_work s scene desk r i)

theorem timeouts_work (s : Settings) (scene : Scene) (desk : Desk) (r : Round) (i : Nat) :
    (r.work s scene desk i).1.timeouts = r.timeouts :=
  congrArg Prod.snd (verdicts_work s scene desk r i)

theorem timeouts_passOn (r : Round) (halts : Bool) (outcome : Outcome) :
    (r.passOn halts outcome).timeouts = r.timeouts := by
  rw [passOn]
  split
  · exact congrArg Prod.snd (verdicts_release _)
  · rfl

/-! ### What a node step sends -/

/-- What the lane at a position sends when it goes on, it sends itself: it was able to, and it has begun
now. -/
structure Speaks (s : Settings) (r : Round) (i : Nat) (desk : Desk) (after : Round × Desk)
    (sent : List Effect) : Prop where
  effects : after.2.effects = desk.effects ++ sent
  own : r.Faithful → ∀ effect ∈ sent, ∃ lane, r.lanes[i]? = some lane ∧ lane.slot.Able r.halted ∧
    effect.Carries s r.context lane.id lane.nodeStep
  begun : ∀ effect ∈ sent, ∀ slot, after.1.slot? i = some slot → slot.begun = true

theorem speaks_nothing (s : Settings) (r t : Round) (i : Nat) (desk : Desk) :
    r.Speaks s i desk (t, desk) [] :=
  ⟨(List.append_nil _).symm, fun _ _ member => (nomatch member), fun _ member _ _ => nomatch member⟩

theorem slot?_follow (r : Round) (i : Nat) (move : Move) :
    (r.follow i move).slot? i = (r.slot? i).map fun _ => move.standing.slot := by
  have moved : (r.setSlot i move.standing.slot).slot? i = _ := slot?_setSlot
  rw [if_pos rfl, slot?, ← lanes_follow] at moved
  exact moved

theorem speaks_follow {s : Settings} {desk : Desk} {lane : Lane} {move : Move}
    (there : r.lanes[i]? = some lane) (able : lane.slot.Able r.halted)
    (begun : move.standing.slot.begun = true)
    (speaks : r.Faithful → move.Speaks s r.context lane.id lane.nodeStep) :
    r.Speaks s i desk (r.follow i move, desk.follow move) move.effects where
  effects := rfl
  own faithful effect member := ⟨lane, there, able, (speaks faithful).carries effect member⟩
  begun _ _ slot here := by
    rw [slot?_follow, Option.map_eq_some_iff] at here
    obtain ⟨old, -, rfl⟩ := here
    exact begun

theorem speaks_start (s : Settings) (scene : Scene) (desk : Desk) (here : r.slot? i = some old)
    (able : old.Able r.halted) : ∃ sent, r.Speaks s i desk (start s scene desk r i) sent := by
  rw [start]
  split
  · exact ⟨[], speaks_nothing ..⟩
  · next lane there =>
    rw [slot?, there, Option.map_some, Option.some.injEq] at here
    exact ⟨_, speaks_follow there (here ▸ able) (Exchange.begun_begin ..)
      fun _ => Exchange.speaks_begin scene desk.router⟩

/-- **A node step sends for itself**, and only when it begins or has begun. -/
theorem speaks_work (s : Settings) (scene : Scene) (desk : Desk) (r : Round) (i : Nat) :
    ∃ sent, r.Speaks s i desk (r.work s scene desk i) sent := by
  rw [work]
  split
  · next here =>
    split
    · exact ⟨[], speaks_nothing ..⟩
    · next free =>
      split
      · exact ⟨[], speaks_nothing ..⟩
      · -- Taking a permit changes no lane.
        obtain ⟨sent, began⟩ := speaks_start s scene desk (r := { r with free := r.free - 1 }) here
          (Bool.eq_false_iff.2 free)
        exact ⟨sent, began.effects, began.own, began.begun⟩
  · split <;> exact ⟨[], speaks_nothing ..⟩
  · next here =>
    split
    · exact ⟨[], speaks_nothing ..⟩
    · next free => exact speaks_start s scene desk here (Bool.eq_false_iff.2 free)
  · next e here =>
    simp only [slot?, Option.map_eq_some_iff] at here
    obtain ⟨lane, there, running⟩ := here
    have able : lane.slot.Able r.halted := by
      rw [running]
      trivial
    refine ⟨_, speaks_follow there able Exchange.begun_resume fun faithful => ?_⟩
    exact (faithful lane (List.mem_of_getElem? there) e running).speaks_resume scene desk.router
  · exact ⟨[], speaks_nothing ..⟩

/-! ### An outcome is taken -/

theorem take?_eq_some {lane : Lane} {outcome : Outcome} (took : r.take? = some (lane, outcome, t)) :
    ∃ i later, r.outcomes = i :: later ∧ r.lanes[i]? = some lane ∧ lane.slot = .ended outcome ∧
      t = { r.setSlot i (.settled outcome.data?) with outcomes := later } := by
  rw [take?] at took
  split at took
  · cases took
  · next i later found =>
    split at took
    · next here at_i =>
      split at took
      · next result ended =>
        simp only [Option.some.injEq, Prod.mk.injEq] at took
        obtain ⟨rfl, rfl, rfl⟩ := took
        exact ⟨i, later, found, at_i, ended, rfl⟩
      · cases took
    · cases took

variable {lane : Lane} {outcome : Outcome}

theorem take?_unique {lane' : Lane} {outcome' : Outcome} {u : Round}
    (took : r.take? = some (lane, outcome, t)) (took' : r.take? = some (lane', outcome', u)) :
    lane = lane' ∧ outcome = outcome' ∧ t = u := by
  have same := took.symm.trans took'
  simp only [Option.some.injEq, Prod.mk.injEq] at same
  exact same

theorem slot?_of_take? (took : r.take? = some (lane, outcome, t)) (j : Nat) :
    (t.count outcome).slot? j =
      if r.outcomes.headD 0 = j then some (.settled outcome.data?) else r.slot? j := by
  obtain ⟨i, later, found, there, -, rfl⟩ := take?_eq_some took
  have moved : (r.setSlot i (.settled outcome.data?)).slot? j = _ := slot?_setSlot
  rw [found, List.headD_cons]
  refine moved.trans ?_
  split
  · next here => rw [← here, slot?_of_lane there, Option.map_some]
  · rfl

theorem slot?_headD (took : r.take? = some (lane, outcome, t)) :
    r.slot? (r.outcomes.headD 0) = some (.ended outcome) := by
  obtain ⟨i, later, found, there, ended, rfl⟩ := take?_eq_some took
  rw [found, List.headD_cons, slot?_of_lane there, ended]

theorem halted_of_take? (took : r.take? = some (lane, outcome, t)) : t.halted = r.halted := by
  obtain ⟨i, later, -, -, -, rfl⟩ := take?_eq_some took
  rfl

theorem halted_onward (d : Drive) (step : Step) (lane : Lane) (outcome : Outcome) (taken : Round) :
    (d.onward step lane outcome taken).halted =
      (taken.halted || (step.policyIn d.op.type).halts d.state lane.nodeStep.nodeId) := by
  rw [Drive.onward, passOn]
  split
  · exact congrArg Prod.fst (verdicts_release _)
  · rfl

/-- After an outcome was settled the round goes on from where its lanes were. -/
theorem shifts_onward (d : Drive) (step : Step) (sound : r.Sound) (halted : Bool)
    (took : r.take? = some (lane, outcome, t)) : Shifts halted (t.count outcome) (d.onward step lane outcome t) :=
  .passOn ((keeps_count t outcome).sound ((took_of_take? took).sound sound)) _ outcome

end Round

end Muster.Engine
