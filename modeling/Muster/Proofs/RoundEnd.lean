import Muster.Proofs.Progress

/-!
# Every node is accounted for when a round ends

A round may end because every outcome is settled, because waiting is given up, or because the operation
is cancelled. Whichever way it ends, those who are left get an ending, so the four sets of the record are
disjoint and hold exactly the nodes of the step.
-/

set_option autoImplicit false

namespace Muster.Engine

/-- How far a step has come: a round is under way and its tally holds, or everybody has ended. -/
structure Turn.Accounts (step : Step) (nodeSteps : List NodeStep) (t : Turn) : Prop where
  inRange : t.drive.InRange
  underWay : t.verdict = .underWay →
    ∃ round, t.InRound step nodeSteps round ∧ Tally nodeSteps round t.drive.state
  atEnd : t.verdict ≠ .underWay → t.drive.state.Sorted (nodeSteps.map NodeStep.nodeId)

namespace Turn

variable {s : Settings} {t u : Turn} {step : Step} {nodeSteps : List NodeStep} {round : Round}

theorem Aftermath.accounts {desk : Desk} {d : Drive} (after : Aftermath desk d step nodeSteps u)
    (sorted : d.state.Sorted (nodeSteps.map NodeStep.nodeId)) :
    u.Accounts step nodeSteps ∧ u.drive.state.endings = d.state.endings ∧
      (u.verdict ≠ .underWay ∨ u.drive.rounds ≠ d.rounds) := by
  cases after with
  | decided along endings used ruling =>
    have decided := ruling.verdict_ne
    exact ⟨⟨along.inRange, fun underWay => absurd underWay decided, fun _ => sorted.of_endings endings⟩,
      endings, .inl decided⟩
  | repeats round inRound inRange rounds type endings attempts decided called used tally =>
    refine ⟨⟨inRange, fun _ => ⟨round, inRound, tally⟩, fun atEnd => absurd inRound.1 atEnd⟩, endings,
      .inr ?_⟩
    rw [rounds]
    exact Nat.succ_ne_self _

theorem accounts_firstRound {d : Drive} (s : Settings) (scene : Scene) (desk : Desk) (step : Step)
    (fresh : d.Fresh) (distinct : (nodeSteps.map NodeStep.nodeId).Nodup) :
    (Drive.firstRound s scene desk d step nodeSteps).Accounts step nodeSteps := by
  by_cases empty : nodeSteps = []
  · subst empty
    obtain ⟨sorted, after⟩ := Drive.aftermath_firstRound s scene desk step fresh
    exact (after.accounts sorted).1
  · rw [Drive.firstRound_of_ne_nil _ _ _ _ _ _ empty]
    have tally := Drive.tally_first s scene desk step fresh distinct
    exact ⟨Drive.inRange_dispatch _ _ _ _ _ _ fresh.inRange,
      fun _ => ⟨_, ⟨rfl, Drive.phase_dispatch ..⟩, tally⟩, fun atEnd => absurd rfl atEnd⟩

/-- **A move in a round** leaves nodes alone that take no part. Either the round goes on with the same
nodes, or everybody has ended. -/
theorem Move.inRound (accounts : t.Accounts step nodeSteps) (inRound : t.InRound step nodeSteps round)
    (move : Move s t u) :
    u.Accounts step nodeSteps ∧ round.Spares t.drive.state u.drive.state ∧
    ((∃ after, u.InRound step nodeSteps after ∧ u.drive.rounds = t.drive.rounds ∧
      after.called = round.called) ∨
    (EndsRound t u ∧ u.drive.state.Sorted (nodeSteps.map NodeStep.nodeId))) := by
  obtain ⟨round', inRound', tally⟩ := accounts.underWay inRound.1
  obtain ⟨-, -, rfl⟩ := inRound.unique inRound'
  cases move.progress accounts.inRange inRound tally with
  | stays after goesOn called along used tally' spares =>
    exact ⟨⟨along.inRange, fun _ => ⟨after, goesOn, tally'⟩, fun atEnd => absurd goesOn.1 atEnd⟩, spares,
      .inl ⟨after, goesOn, along.rounds, called⟩⟩
  | ends desk d after along used sorted spares =>
    obtain ⟨accounts', endings, atEnd⟩ := after.accounts sorted
    refine ⟨accounts', fun node apart => ?_, .inr ⟨?_, sorted.of_endings endings⟩⟩
    · exact (StepState.disposition_eq_of_endings endings).trans (spares node apart)
    · rw [EndsRound, ← along.rounds]
      exact atEnd
  | cancelled verdict along used sorted spares =>
    have atEnd : u.verdict ≠ .underWay := by
      rw [verdict]
      simp
    exact ⟨⟨along.inRange, fun underWay => absurd underWay atEnd, fun _ => sorted⟩, spares,
      .inr ⟨.inl atEnd, sorted⟩⟩

/-- Every move is one in a round, or a request that comes after the verdict. -/
theorem Move.progress_or_request (accounts : t.Accounts step nodeSteps) (move : Move s t u) :
    (∃ round, t.InRound step nodeSteps round ∧ Tally nodeSteps round t.drive.state ∧
      Progress t step nodeSteps round u) ∨
    (t.verdict ≠ .underWay ∧ u = { t with drive := { t.drive with cancelRequested := true } }) := by
  by_cases underWay : t.verdict = .underWay
  · obtain ⟨round, inRound, tally⟩ := accounts.underWay underWay
    exact .inl ⟨round, inRound, tally, move.progress accounts.inRange inRound tally⟩
  · refine .inr ⟨underWay, ?_⟩
    cases move with
    | settle scene desk inRound later => exact absurd inRound.1 underWay
    | work scene desk i inRound later => exact absurd inRound.1 underWay
    | request => rfl
    | abandon scene desk inRound requested later => exact absurd inRound.1 underWay

theorem Move.accounts (accounts : t.Accounts step nodeSteps) (move : Move s t u) :
    u.Accounts step nodeSteps := by
  rcases move.progress_or_request accounts with ⟨round, inRound, -, -⟩ | ⟨atEnd, rfl⟩
  · exact (move.inRound accounts inRound).1
  · exact ⟨accounts.inRange, fun underWay => absurd underWay atEnd, accounts.atEnd⟩

theorem Course.accounts (accounts : t.Accounts step nodeSteps) (course : Course s t u) :
    u.Accounts step nodeSteps := by
  induction course with
  | refl => exact accounts
  | tail _ move ih => exact move.accounts ih

/-- As long as no other round begins, the same nodes take part and the others are left alone. -/
theorem Course.inRound (accounts : t.Accounts step nodeSteps) (inRound : t.InRound step nodeSteps round)
    (course : Course s t u) (underWay : u.verdict = .underWay) (same : u.drive.rounds = t.drive.rounds) :
    ∃ after, u.InRound step nodeSteps after ∧ after.called = round.called ∧
      ∀ node ∉ round.targets, u.drive.state.disposition node = t.drive.state.disposition node := by
  induction course with
  | refl => exact ⟨round, inRound, rfl, fun _ _ => rfl⟩
  | @tail v w course move ih =>
    have rounds : v.drive.rounds = t.drive.rounds :=
      Nat.le_antisymm (move.rounds_le.trans same.le) (Course.rounds_le course)
    obtain ⟨before, inRound, called, outside⟩ := ih (move.underWay_of underWay) rounds
    have targets := Round.targets_eq_of_called called
    obtain ⟨-, spares, goesOn | ends⟩ := move.inRound (Course.accounts accounts course) inRound
    · obtain ⟨after, inRound, -, called'⟩ := goesOn
      refine ⟨after, inRound, called'.trans called, fun node away => ?_⟩
      exact (spares node (.inl (targets ▸ away))).trans (outside node away)
    · rcases ends.1 with atEnd | other
      · exact absurd underWay atEnd
      · exact absurd (same.trans rounds.symm) other

/-- **Whichever way a round ends**, the nodes of its step are in one of four disjoint sets each, and
nobody else is; nodes that took no part in it keep the ending they had. `t` is any moment of a round,
and `u` a later one of the same round; `v` is where it has ended, as every outcome is settled, waiting
is given up or the operation is cancelled. A step without node steps is over after its first turn. -/
theorem sorted_when_round_ends (s : Settings) (scene : Scene) (desk : Desk) (d : Drive) (step : Step)
    (nodeSteps : List NodeStep) (fresh : d.Fresh) (distinct : (nodeSteps.map NodeStep.nodeId).Nodup) :
    let first := Drive.firstRound s scene desk d step nodeSteps
    let everybody (state : StepState) : Prop :=
      state.Sorted (nodeSteps.map NodeStep.nodeId) ∧ state.settled = nodeSteps.length
    (first.verdict ≠ .underWay → everybody first.drive.state) ∧
    ∀ t, Course s first t → t.verdict = .underWay → ∃ round, t.InRound step nodeSteps round ∧
      ∀ u v, Course s t u → u.verdict = .underWay → u.drive.rounds = t.drive.rounds →
        Move s u v → EndsRound u v →
        everybody v.drive.state ∧
        ∀ node ∉ round.targets, v.drive.state.disposition node = t.drive.state.disposition node := by
  intro first everybody
  have counted {state : StepState} (sorted : state.Sorted (nodeSteps.map NodeStep.nodeId)) :
      everybody state :=
    ⟨sorted, (sorted.settled_eq distinct).trans (List.length_map ..)⟩
  have begun : first.Accounts step nodeSteps := accounts_firstRound s scene desk step fresh distinct
  refine ⟨fun atEnd => counted (begun.atEnd atEnd), fun t course underWay => ?_⟩
  have accounts := Course.accounts begun course
  obtain ⟨round, inRound, -⟩ := accounts.underWay underWay
  refine ⟨round, inRound, fun u v onward goesOn same move ends => ?_⟩
  obtain ⟨last, inRound', called, outside⟩ := Course.inRound accounts inRound onward goesOn same
  have targets := Round.targets_eq_of_called called
  obtain ⟨-, spares, ⟨after, inRound'', rounds, -⟩ | ⟨-, sorted⟩⟩ :=
    move.inRound (Course.accounts accounts onward) inRound'
  · -- A round that goes on has not ended.
    rcases ends with atEnd | other
    · exact absurd inRound''.1 atEnd
    · exact absurd rounds other
  · exact ⟨counted sorted, fun node away =>
      (spares node (.inl (targets ▸ away))).trans (outside node away)⟩

end Turn

open Sample in
/-- A round is cancelled after one of its two nodes was settled and before the other has begun. -/
theorem sorted_when_sample_cancelled :
    let v := Drive.abandon scene third.desk third.drive (roundOf second)
    v.drive.state.Sorted ["a", "b"] ∧ v.drive.state.settled = 2 ∧
      v.drive.state.disposition "b" = some (.failed "cancelled") := by
  obtain ⟨-, rounds⟩ :=
    Turn.sorted_when_round_ends Sample.settings scene Sample.desk drive Sample.step nodeSteps fresh
      (by decide)
  obtain ⟨begun, inRound, ends⟩ := rounds first .refl rfl
  have settles : Turn.Move Sample.settings first second :=
    .settle scene first.desk first_inRound (Nat.le_refl _)
  have course : Turn.Course Sample.settings first third := (Relation.ReflTransGen.single settles).tail .request
  have cancels : Turn.Move Sample.settings third (Drive.abandon scene third.desk third.drive (roundOf second)) :=
    .abandon scene third.desk second_inRound rfl (Nat.le_refl _)
  obtain ⟨⟨sorted, settled⟩, -⟩ := ends third _ course rfl rfl cancels (.inl (by simp [Drive.abandon]))
  exact ⟨sorted, settled, by decide⟩

end Muster.Engine
