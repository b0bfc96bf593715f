import Muster.Proofs.Round

/-!
# The tally of a round

While a round is under way the record of its step knows how those have ended who are settled or take no
part, and nobody else is done with. `Tally` says so; it is kept when a node step goes on, when an outcome
is settled and when waiting is given up, and whichever way the round ends, everybody has ended then.
-/

set_option autoImplicit false

namespace Muster.Engine

/-! ### The tally of a round -/

/-- How a node ended on which no other round is tried. -/
def Done (ending : Option Disposition) : Prop := ending = some .succeeded ∨ ending = some .unreachable

theorem Done.isSome {ending : Option Disposition} (h : Done ending) : ending.isSome = true := by
  rcases h with rfl | rfl <;> rfl

/-- What the record of a step knows while a round of its node steps is under way. -/
structure Tally (nodeSteps : List NodeStep) (r : Round) (state : StepState) : Prop where
  distinct : (nodeSteps.map NodeStep.nodeId).Nodup
  sound : r.Sound
  exclusive : state.Exclusive
  /-- The node steps that take part do so in the order of the step. -/
  inOrder : r.called.map Prod.snd = nodeSteps.filter fun n => decide (n.nodeId ∈ r.targets)
  known : ∀ node, (state.disposition node).isSome = true → node ∈ nodeSteps.map NodeStep.nodeId
  settled : ∀ lane ∈ r.lanes, lane.slot.isSettled = true →
    (state.disposition lane.nodeStep.nodeId).isSome = true
  unsettled : ∀ lane ∈ r.lanes, lane.slot.isSettled = false →
    ¬ Done (state.disposition lane.nodeStep.nodeId)
  /-- Whoever takes no part was done with in an earlier round. -/
  absent : ∀ n ∈ nodeSteps, n.nodeId ∉ r.targets → Done (state.disposition n.nodeId)

section Tally

variable {nodeSteps : List NodeStep} {r t : Round} {state : StepState}

theorem Tally.mem_nodeSteps (h : Tally nodeSteps r state) {lane : Lane} (member : lane ∈ r.lanes) :
    lane.nodeStep ∈ nodeSteps := by
  have listed : lane.nodeStep ∈ r.lanes.map Lane.nodeStep := List.mem_map_of_mem member
  rw [Round.nodeSteps_eq, h.inOrder] at listed
  exact (List.mem_filter.1 listed).1

theorem Tally.targets_nodup (h : Tally nodeSteps r state) : r.targets.Nodup := by
  rw [Round.targets_eq, h.inOrder]
  exact h.distinct.sublist (List.filter_sublist.map NodeStep.nodeId)

theorem Tally.of_roster (h : Tally nodeSteps r state) (sound : t.Sound) (same : t.roster = r.roster) :
    Tally nodeSteps t state := by
  have lanes : ∀ lane ∈ t.lanes, ∃ other ∈ r.lanes, other.nodeStep = lane.nodeStep ∧
      other.slot.isSettled = lane.slot.isSettled := by
    intro lane member
    obtain ⟨other, present, entry⟩ := Round.mem_of_roster_eq same member
    simp only [Lane.entry, Prod.mk.injEq] at entry
    exact ⟨other, present, entry.2.1, entry.2.2⟩
  have called := Round.called_eq_of_roster same
  have targets := Round.targets_eq_of_called called
  refine ⟨h.distinct, sound, h.exclusive, ?_, h.known, ?_, ?_, ?_⟩
  · rw [called, targets]
    exact h.inOrder
  · intro lane member settled
    obtain ⟨other, present, nodeStep, flag⟩ := lanes lane member
    rw [← nodeStep]
    exact h.settled other present (flag.trans settled)
  · intro lane member unsettled
    obtain ⟨other, present, nodeStep, flag⟩ := lanes lane member
    rw [← nodeStep]
    exact h.unsettled other present (flag.trans unsettled)
  · rw [targets]
    exact h.absent

theorem Tally.keeps (h : Tally nodeSteps r state) (kept : r.Keeps t) : Tally nodeSteps t state :=
  h.of_roster (kept.sound h.sound) (kept.roster h.sound)

theorem Tally.of_endings {after : StepState} (h : Tally nodeSteps r state)
    (same : after.endings = state.endings) : Tally nodeSteps r after := by
  have ended (node : String) : after.disposition node = state.disposition node :=
    StepState.disposition_eq_of_endings same
  refine ⟨h.distinct, h.sound, h.exclusive.of_endings same, h.inOrder, ?_, ?_, ?_, ?_⟩
  · intro node
    rw [ended]
    exact h.known node
  · intro lane member settled
    rw [ended]
    exact h.settled lane member settled
  · intro lane member unsettled
    rw [ended]
    exact h.unsettled lane member unsettled
  · intro n member away
    rw [ended]
    exact h.absent n member away

/-- Settling an outcome keeps the tally: its lane is settled now, and its node is classified. -/
theorem Tally.settle {lane : Lane} {outcome : Outcome} (h : Tally nodeSteps r state)
    (took : r.Took lane outcome t) :
    Tally nodeSteps t (state.classify lane.nodeStep.nodeId outcome.disposition) := by
  have classified (node : String) (before : (state.disposition node).isSome = true ∨
      node = lane.nodeStep.nodeId) :
      ((state.classify lane.nodeStep.nodeId outcome.disposition).disposition node).isSome = true := by
    rw [StepState.disposition_classify]
    split
    · rfl
    · next differ => exact before.resolve_right differ
  have targets := Round.targets_eq_of_called took.called
  refine ⟨h.distinct, took.sound h.sound, h.exclusive.classify _ _, ?_, ?_, ?_, ?_, ?_⟩
  · rw [took.called, targets]
    exact h.inOrder
  · intro node ended
    rw [StepState.disposition_classify] at ended
    split at ended
    · next here =>
      rw [here]
      exact List.mem_map_of_mem (h.mem_nodeSteps took.mem)
    · exact h.known node ended
  · intro l member settled
    rcases took.others l member with old | rfl
    · exact classified _ (.inl (h.settled l old settled))
    · exact classified _ (.inr rfl)
  · intro l member unsettled
    -- The lane that is settled now is the only one of its node.
    have differ : l.nodeStep.nodeId ≠ lane.nodeStep.nodeId := by
      intro here
      have distinct : t.targets.Nodup := targets ▸ h.targets_nodup
      have same := List.inj_on_of_nodup_map distinct member took.taken here
      rw [same] at unsettled
      cases unsettled
    rw [StepState.disposition_classify_of_ne differ]
    rcases took.others l member with old | rfl
    · exact h.unsettled l old unsettled
    · cases unsettled
  · intro n member away
    rw [targets] at away
    have differ : n.nodeId ≠ lane.nodeStep.nodeId := by
      intro here
      rw [here] at away
      exact away (List.mem_map_of_mem took.mem)
    rw [StepState.disposition_classify_of_ne differ]
    exact h.absent n member away

/-- Settling an outcome leaves those alone who take no part or are done with. -/
theorem Tally.ne_of_took {lane : Lane} {outcome : Outcome} {node : String} (h : Tally nodeSteps r state)
    (took : r.Took lane outcome t) (apart : node ∉ r.targets ∨ Done (state.disposition node)) :
    node ≠ lane.nodeStep.nodeId := by
  rintro rfl
  rcases apart with away | done
  · exact away (List.mem_map_of_mem took.mem)
  · refine h.unsettled lane took.mem ?_ done
    rw [took.ended]
    rfl

/-- Everybody has ended once every outcome is settled. -/
theorem Tally.sorted_of_isOver (h : Tally nodeSteps r state) (atEnd : r.isOver = true) :
    state.Sorted (nodeSteps.map NodeStep.nodeId) := by
  refine ⟨h.exclusive, fun node => StepState.disposition_isSome_iff.symm.trans ⟨h.known node, ?_⟩⟩
  intro member
  obtain ⟨n, present, rfl⟩ := List.mem_map.1 member
  by_cases takesPart : n.nodeId ∈ r.targets
  · obtain ⟨lane, inside, same⟩ := List.mem_map.1 takesPart
    rw [← same]
    exact h.settled lane inside (Round.isOver_iff.1 atEnd lane inside)
  · exact (h.absent n present takesPart).isSome

/-! ### A round is given up -/

section Sweep

variable (ending : Slot → Disposition)

/-- Giving up a round leaves those alone who take no part or are done with. -/
theorem Tally.disposition_sweep {node : String} (h : Tally nodeSteps r state)
    (apart : node ∉ r.targets ∨ Done (state.disposition node)) :
    (r.sweep ending state).disposition node = state.disposition node := by
  rcases Round.sweep_cases ending state node r with ⟨lane, member, unsettled, rfl, -⟩ | ⟨-, kept⟩
  · rcases apart with away | done
    · exact absurd (List.mem_map_of_mem member) away
    · exact absurd done (h.unsettled lane member unsettled)
  · exact kept

/-- Everybody has ended once the round is given up. -/
theorem Tally.sorted_sweep (h : Tally nodeSteps r state) :
    (r.sweep ending state).Sorted (nodeSteps.map NodeStep.nodeId) := by
  refine ⟨Round.exclusive_sweep ending state r h.exclusive, fun node =>
    StepState.disposition_isSome_iff.symm.trans ⟨?_, ?_⟩⟩
  · intro ended
    rcases Round.sweep_cases ending state node r with ⟨lane, member, -, here, -⟩ | ⟨-, kept⟩
    · rw [← here]
      exact List.mem_map_of_mem (h.mem_nodeSteps member)
    · rw [kept] at ended
      exact h.known node ended
  · intro member
    rcases Round.sweep_cases ending state node r with ⟨lane, -, -, -, ended⟩ | ⟨away, kept⟩
    · rw [ended]
      rfl
    · rw [kept]
      obtain ⟨n, present, rfl⟩ := List.mem_map.1 member
      by_cases takesPart : n.nodeId ∈ r.targets
      · obtain ⟨lane, inside, same⟩ := List.mem_map.1 takesPart
        have settled : lane.slot.isSettled = true := by
          cases flag : lane.slot.isSettled with
          | true => rfl
          | false => exact absurd same (away lane inside flag)
        rw [← same]
        exact h.settled lane inside settled
      · exact (h.absent n present takesPart).isSome

/-- Giving up a round keeps the tally if nobody is said to be done with. -/
theorem Tally.sweep (h : Tally nodeSteps r state) (notDone : ∀ slot, ¬ Done (some (ending slot))) :
    Tally nodeSteps r (r.sweep ending state) := by
  have sorted := h.sorted_sweep ending
  refine ⟨h.distinct, h.sound, sorted.exclusive, h.inOrder, fun node => sorted.disposition_isSome.1, ?_, ?_, ?_⟩
  · intro lane member _
    exact sorted.disposition_isSome.2 (List.mem_map_of_mem (h.mem_nodeSteps member))
  · intro lane member unsettled
    rcases Round.sweep_cases ending state lane.nodeStep.nodeId r with
      ⟨other, -, -, -, ended⟩ | ⟨away, -⟩
    · rw [ended]
      exact notDone other.slot
    · exact absurd rfl (away lane member unsettled)
  · intro n member away
    rw [h.disposition_sweep ending (.inl away)]
    exact h.absent n member away

theorem not_done_givenUp (slot : Slot) : ¬ Done (some (Round.givenUp slot)) := by
  rw [Round.givenUp]
  split <;> simp [Done]

end Sweep

/-! ### A round begins -/

/-- A round begins with a tally if it calls up, in the order of the step, everybody who is not done
with. -/
theorem tally_begin (s : Settings) (scene : Scene) (skip : Bool) (c : RoundContext)
    {named : List (String × NodeStep)} {calls : NodeStep → Bool}
    (distinct : (nodeSteps.map NodeStep.nodeId).Nodup) (exclusive : state.Exclusive)
    (known : ∀ node, (state.disposition node).isSome = true → node ∈ nodeSteps.map NodeStep.nodeId)
    (called : named.map Prod.snd = nodeSteps.filter calls)
    (done : ∀ n ∈ nodeSteps, calls n = false ↔ Done (state.disposition n.nodeId)) :
    Tally nodeSteps (Round.begin s scene skip c named) state := by
  have lanes : (Round.begin s scene skip c named).called.map Prod.snd = nodeSteps.filter calls := by
    rw [Round.called_begin, called]
  have targets : ∀ n ∈ nodeSteps,
      n.nodeId ∈ (Round.begin s scene skip c named).targets ↔ calls n = true := by
    intro n member
    rw [Round.targets_eq, lanes]
    constructor
    · intro listed
      obtain ⟨other, chosen, same⟩ := List.mem_map.1 listed
      obtain ⟨present, yes⟩ := List.mem_filter.1 chosen
      rw [← List.inj_on_of_nodup_map distinct present member same]
      exact yes
    · intro yes
      exact List.mem_map_of_mem (List.mem_filter.2 ⟨member, yes⟩)
  refine ⟨distinct, Round.sound_begin s scene skip c named, exclusive, ?_, known, ?_, ?_, ?_⟩
  · rw [lanes]
    refine List.filter_congr fun n member => ?_
    rw [Bool.eq_iff_iff, decide_eq_true_eq]
    exact (targets n member).symm
  · intro lane member settled
    rw [Round.unsettled_begin s scene skip c named member] at settled
    cases settled
  · intro lane member _
    have listed : lane.nodeStep ∈ nodeSteps.filter calls := by
      rw [← lanes, ← Round.nodeSteps_eq]
      exact List.mem_map_of_mem member
    obtain ⟨present, yes⟩ := List.mem_filter.1 listed
    rw [← done _ present, yes]
    simp
  · intro n member away
    rw [targets n member, Bool.not_eq_true] at away
    exact (done n member).1 away

end Tally

end Muster.Engine
