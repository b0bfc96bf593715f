import Muster.Proofs.Lane

/-!
# The permits of a round

A node step holds a permit from the moment it is given one until its outcome is settled: the permit travels
with the outcome and comes back when that is settled. Whatever a node step does, the permits that are free
and those that are held add up to the same number (`Round.permits_work`), so the bound of an engine on
the node steps at work holds at every moment of a course (`Turn.Course.rationed`).
-/

set_option autoImplicit false

namespace Muster.Engine

/-- Whether the node step holds a permit. -/
def Slot.holds : Slot → Bool
  | .granted => true
  | slot => slot.begun

theorem Slot.holds_of_begun {slot : Slot} (begun : slot.begun = true) : slot.holds = true := by
  cases slot with
  | granted => rfl
  | _ => exact begun

namespace Round

variable {r t : Round} {i : Nat} {slot old : Slot}

/-- The number of node steps that hold a permit. -/
def holders (r : Round) : Nat := r.lanes.countP fun lane => lane.slot.holds

/-- The number of node steps that have begun and are not settled. -/
def busy (r : Round) : Nat := r.lanes.countP fun lane => lane.slot.begun

/-- All permits, those that nobody holds and those that are held. -/
def permits (r : Round) : Nat := r.free + r.holders

theorem busy_le_permits (r : Round) : r.busy ≤ r.permits := by
  have held : r.busy ≤ r.holders := List.countP_mono_left fun lane _ => Slot.holds_of_begun
  exact held.trans (Nat.le_add_left ..)

theorem permits_of_lanes (lanes : t.lanes = r.lanes) (free : t.free = r.free) : t.permits = r.permits := by
  rw [permits, permits, holders, holders, lanes, free]

/-- Whoever goes elsewhere brings along a permit or gives one up. -/
theorem permits_setSlot (here : r.slot? i = some old) :
    (r.setSlot i slot).permits + old.holds.toNat = r.permits + slot.holds.toNat := by
  have moved : (r.setSlot i slot).holders + old.holds.toNat = r.holders + slot.holds.toNat := by
    obtain ⟨context, lanes, free, line, outcomes, halted, timeouts⟩ := r
    simp only [slot?, Option.map_eq_some_iff] at here
    simp only [holders, setSlot]
    -- The induction is on the lanes up to the position.
    induction lanes generalizing i with
    | nil =>
      obtain ⟨lane, there, -⟩ := here
      cases there
    | cons lane rest ih =>
      cases i with
      | zero =>
        obtain ⟨lane', there, rfl⟩ := here
        cases there
        simp only [List.modify_zero_cons, List.countP_cons]
        cases lane.slot.holds <;> cases slot.holds <;> simp
      | succ i =>
        have moved := ih here
        simp only [List.modify_succ_cons, List.countP_cons]
        omega
  have free : (r.setSlot i slot).free = r.free := rfl
  rw [permits, permits, free]
  omega

/-- Handing in an outcome takes the permit along, if there is one. -/
theorem permits_report {outcome : Outcome} (here : r.slot? i = some old) :
    (r.report i outcome).permits + old.holds.toNat = r.permits + outcome.begun.toNat := by
  have moved : (r.setSlot i (.ended outcome)).permits + old.holds.toNat = r.permits + outcome.begun.toNat :=
    permits_setSlot here
  exact moved

/-- A permit that comes back goes to the first in line. -/
theorem permits_release (sound : r.Sound) : r.release.permits = r.permits + 1 := by
  rw [release]
  split
  · have more : permits { r with free := r.free + 1 } = r.free + 1 + r.holders := rfl
    rw [more, permits]
    omega
  · next next line found =>
    have queued := sound.queued next (by rw [found]; exact List.mem_cons_self)
    have moved : (r.setSlot next .granted).permits + 0 = r.permits + 1 := permits_setSlot queued
    have same : permits { r.setSlot next .granted with line } = (r.setSlot next .granted).permits := rfl
    rw [same]
    exact moved

/-- A node step that goes on needs a permit, and keeps it. -/
theorem permits_follow {move : Move} (here : r.slot? i = some old)
    (begun : move.standing.slot.begun = true) :
    (r.follow i move).permits + old.holds.toNat = r.permits + 1 := by
  have moved : (r.setSlot i move.standing.slot).permits + old.holds.toNat
      = r.permits + move.standing.slot.holds.toNat := permits_setSlot here
  have same : (r.follow i move).permits = (r.setSlot i move.standing.slot).permits := by
    apply permits_of_lanes (lanes_follow r i move)
    rw [follow]
    split <;> rfl
  rw [Slot.holds_of_begun begun] at moved
  rw [same]
  exact moved

theorem permits_start (s : Settings) (scene : Scene) (desk : Desk) (here : r.slot? i = some old) :
    (start s scene desk r i).1.permits + old.holds.toNat = r.permits + 1 := by
  rw [start]
  split
  · next none =>
    rw [slot?, none] at here
    cases here
  · exact permits_follow here (Exchange.begun_begin ..)

/-- **A node step that goes on** leaves the number of permits as it is. -/
theorem permits_work (s : Settings) (scene : Scene) (desk : Desk) (sound : r.Sound) (i : Nat) :
    (r.work s scene desk i).1.permits = r.permits := by
  rw [work]
  split
  · next here =>
    split
    · have ended : (r.report i .notDispatched).permits + 0 = r.permits + 0 := permits_report here
      exact ended
    · split
      · have queued : (r.setSlot i .queued).permits + 0 = r.permits + 0 := permits_setSlot here
        exact queued
      · next some =>
        -- It takes a free permit.
        have taken : permits { r with free := r.free - 1 } + 1 = r.permits := by
          have less : permits { r with free := r.free - 1 } = r.free - 1 + r.holders := rfl
          rw [less, permits]
          omega
        have began : (start s scene desk { r with free := r.free - 1 } i).1.permits + 0 = _ + 1 :=
          permits_start (r := { r with free := r.free - 1 }) s scene desk here
        rw [taken] at began
        exact began
  · next here =>
    split
    · have left : permits { r with line := r.line.filter fun j => j ≠ i } = r.permits := rfl
      have ended : (Round.report { r with line := r.line.filter fun j => j ≠ i } i .notDispatched).permits + 0
          = permits { r with line := r.line.filter fun j => j ≠ i } + 0 := permits_report here
      rw [left] at ended
      exact ended
    · rfl
  · next here =>
    split
    · have still := sound.slot?_release here (by simp)
      have ended : (r.release.report i .notDispatched).permits + 1 = r.release.permits + 0 :=
        permits_report still
      rw [permits_release sound] at ended
      exact Nat.add_right_cancel ended
    · have began : (start s scene desk r i).1.permits + 1 = r.permits + 1 := permits_start s scene desk here
      exact Nat.add_right_cancel began
  · next e here =>
    have went : (r.follow i (e.resume s r.context scene desk.router)).permits + 1 = r.permits + 1 :=
      permits_follow here Exchange.begun_resume
    exact Nat.add_right_cancel went
  · rfl

/-- When an outcome is taken its permit is in nobody's hands. -/
theorem permits_of_take? {lane : Lane} {outcome : Outcome} (took : r.take? = some (lane, outcome, t)) :
    t.permits + outcome.begun.toNat = r.permits := by
  obtain ⟨i, later, -, there, ended, rfl⟩ := take?_eq_some took
  have here : r.slot? i = some (.ended outcome) := by rw [slot?, there, Option.map_some, ended]
  have moved : (r.setSlot i (.settled outcome.data?)).permits + outcome.begun.toNat = r.permits + 0 :=
    permits_setSlot here
  exact moved

theorem permits_passOn (sound : r.Sound) (halts : Bool) (outcome : Outcome) :
    (r.passOn halts outcome).permits = r.permits + outcome.begun.toNat := by
  rw [passOn]
  split
  · next begun =>
    have sound' : Sound { r with halted := r.halted || halts } := ⟨sound.queued, sound.once⟩
    rw [begun]
    exact permits_release sound'
  · next idle =>
    rw [Bool.eq_false_iff.2 idle]
    rfl

/-- A round begins with the permits that the engine allows, and nobody holds one. -/
theorem permits_begin (s : Settings) (scene : Scene) (skip : Bool) (c : RoundContext)
    (named : List (String × NodeStep)) (bounded : 0 < s.maxParallel) :
    (begin s scene skip c named).permits = s.maxParallel := by
  have nobody : (begin s scene skip c named).holders = 0 := by
    apply List.countP_eq_zero.2
    intro lane member
    simp only [begin, List.mem_map] at member
    obtain ⟨entry, -, rfl⟩ := member
    simp only [firstSlot]
    split <;> simp [Slot.holds, Slot.begun, Outcome.begun]
  have free : (begin s scene skip c named).free = s.maxParallel := if_neg (by omega)
  rw [permits, nobody, free, Nat.add_zero]

end Round

namespace Turn

variable {s : Settings} {t u : Turn} {step : Step} {nodeSteps : List NodeStep} {round : Round}

/-- If a round is under way then its permits are those that the engine allows. -/
def Rationed (s : Settings) (t : Turn) : Prop :=
  ∀ step nodeSteps round, t.InRound step nodeSteps round → round.permits = s.maxParallel

theorem InRound.rationed (inRound : t.InRound step nodeSteps round) (permits : round.permits = s.maxParallel) :
    t.Rationed s := by
  intro step' nodeSteps' round' inRound'
  obtain ⟨-, -, rfl⟩ := inRound.unique inRound'
  exact permits

theorem rationed_dispatch (scene : Scene) (desk : Desk) (d : Drive) (step : Step)
    (nodeSteps called : List NodeStep) (bounded : 0 < s.maxParallel) :
    (Drive.dispatch s scene desk d step nodeSteps called).Rationed s :=
  InRound.rationed ⟨rfl, Drive.phase_dispatch ..⟩ (Round.permits_begin _ _ _ _ _ bounded)

theorem rationed_concludeRound (scene : Scene) (desk : Desk) (d : Drive) (step : Step)
    (nodeSteps : List NodeStep) (round : Round) (bounded : 0 < s.maxParallel) :
    (Drive.concludeRound s scene desk d step nodeSteps round).Rationed s := by
  have cases := Drive.concludeRound_cases s scene desk d step nodeSteps round
  generalize Drive.concludeRound s scene desk d step nodeSteps round = turn at cases ⊢
  cases cases with
  | proceeds decided => exact fun _ _ _ inRound => nomatch inRound.1
  | aborts reason decided => exact fun _ _ _ inRound => nomatch inRound.1
  | nothingLeft decided none => exact fun _ _ _ inRound => nomatch inRound.1
  | retries decided some => apply rationed_dispatch _ _ _ _ _ _ bounded

theorem rationed_firstRound (scene : Scene) (desk : Desk) (d : Drive) (step : Step)
    (nodeSteps : List NodeStep) (bounded : 0 < s.maxParallel) :
    (Drive.firstRound s scene desk d step nodeSteps).Rationed s := by
  by_cases none : nodeSteps = []
  · subst none
    rw [Drive.firstRound_nil]
    apply rationed_concludeRound _ _ _ _ _ _ bounded
  · rw [Drive.firstRound_of_ne_nil s scene desk d step nodeSteps none]
    apply rationed_dispatch _ _ _ _ _ _ bounded

theorem Move.rationed (move : Move s t u) (bounded : 0 < s.maxParallel) (inOrder : t.InOrder)
    (rationed : t.Rationed s) : u.Rationed s := by
  cases move with
  | @settle step nodeSteps round scene desk inRound later =>
    have sound := inOrder step nodeSteps round inRound
    have permits := rationed step nodeSteps round inRound
    have cases := Drive.settle_cases s scene desk t.drive step nodeSteps round
    generalize Drive.settle s scene desk t.drive step nodeSteps round = turn at cases ⊢
    cases cases with
    | idle none => exact InRound.rationed ⟨rfl, inRound.2⟩ permits
    | finalizes lane outcome taken noted swept took note gaveUp sweep =>
      apply rationed_concludeRound _ _ _ _ _ _ bounded
    | ends lane outcome taken noted took note patient atEnd =>
      apply rationed_concludeRound _ _ _ _ _ _ bounded
    | goesOn lane outcome taken noted took note patient busy =>
      -- The permit of the outcome comes back.
      have left := Round.permits_of_take? took
      have counted : (taken.count outcome).Sound :=
        (Round.keeps_count taken outcome).sound ((Round.took_of_take? took).sound sound)
      have back := Round.permits_passOn counted
        ((step.policyIn noted.op.type).halts noted.state lane.nodeStep.nodeId) outcome
      have same : (taken.count outcome).permits = taken.permits := rfl
      refine InRound.rationed ⟨rfl, rfl⟩ ?_
      rw [Drive.onward, back, same, left, permits]
  | @work step nodeSteps round scene desk i inRound later =>
    have sound := inOrder step nodeSteps round inRound
    rw [Drive.work_dispatching s scene desk i inRound.2]
    refine InRound.rationed ⟨rfl, rfl⟩ ?_
    rw [Round.permits_work s scene desk sound i]
    exact rationed step nodeSteps round inRound
  | request => exact fun step nodeSteps round inRound => rationed step nodeSteps round inRound
  | abandon scene desk inRound requested later => exact fun _ _ _ inRound => Verdict.noConfusion inRound.1

theorem Course.rationed (course : Course s t u) (bounded : 0 < s.maxParallel) (inOrder : t.InOrder)
    (rationed : t.Rationed s) : u.Rationed s := by
  induction course with
  | refl => exact rationed
  | tail course move ih => exact move.rationed bounded (Course.inOrder course inOrder) ih

end Turn

end Muster.Engine
