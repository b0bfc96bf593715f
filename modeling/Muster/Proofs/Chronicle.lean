import Muster.Proofs.Log

/-!
# Every act keeps the log in order

There is one lemma for each kind of act. Acts that take a drive to another step need what is left of the
steps to fit the record; acts within a step need the last record to show the step running.
-/

set_option autoImplicit false

namespace Muster.Engine

section

variable {s : Settings} {cluster : Cluster} {steps : List Step} {op : Operation} {log : List Effect}
  {owner : String → Nat} {n m : Nat} {d d' : Drive} {step : Step} {nodeSteps : List NodeStep}
  {round : Round} {a b : Station} {effects : List Effect}

/-- A record is saved, and what it leads to stands. -/
theorem Kept.save {record : Operation} (kept : Kept s cluster steps op owner log a)
    (used : b.used = a.used) (cluster' : b.drive.cluster = a.drive.cluster)
    (underway : Underway cluster steps op log record)
    (stands : Underway cluster steps op (log ++ [.save record]) record →
      latest? (log ++ [.save record]) = some record →
      Stands cluster steps op owner (log ++ [.save record]) b) :
    Kept s cluster steps op owner (log ++ [.save record]) b where
  written := kept.written.save underway.record underway.below underway.excused
  owned := used ▸ kept.owned.save record
  stands := stands underway.save (latest?_save log record)
  cluster := cluster'.trans kept.cluster

/-- Nothing is added to the log. -/
theorem Kept.quiet (kept : Kept s cluster steps op owner log a) (used : b.used = a.used)
    (cluster' : b.drive.cluster = a.drive.cluster) (stands : Stands cluster steps op owner log b) :
    Kept s cluster steps op owner log b :=
  ⟨kept.written, used ▸ kept.owned, stands, cluster'.trans kept.cluster⟩

/-! ### Between steps -/

theorem Kept.setsOff (scene : Scene) (kept : Kept s cluster steps op owner log ⟨.starting, d, n⟩) :
    Kept s cluster steps op owner (log ++ [.save (d.setOff scene).op]) ⟨.entering, d.setOff scene, n⟩ := by
  obtain ⟨written, owned, stands, same⟩ := kept
  cases stands with
  | starting opening record status index later current pending =>
    have first : records log = [d.op] := by rw [opening]; rfl
    have below : ∀ r ∈ records log, r.currentStep ≤ (d.setOff scene).op.currentStep := by
      intro r member
      rw [first, List.mem_singleton] at member
      rw [member]
      exact UInt64.le_refl _
    have excused (log : List Effect) :
        ∀ k, (d.setOff scene).op.statuses[k]? = some .skipped → Excused cluster steps log k := by
      intro k skipped
      have still := (pending k .skipped skipped).2 (Nat.zero_le k)
      cases still
    have record' : RecordOf steps op (d.setOff scene).op :=
      ⟨record.id, record.type, record.length, record.aligned⟩
    have running : (d.setOff scene).op.status = op.type.runningStatus := by
      rw [← record.type]
      rfl
    have both : records (log ++ [.save (d.setOff scene).op]) = [d.op, (d.setOff scene).op] := by
      rw [records_append, first]
      rfl
    have underway : Underway cluster steps op (log ++ [.save (d.setOff scene).op]) (d.setOff scene).op := by
      refine ⟨record', running, fun r member => ?_, excused _, ⟨0, ?_⟩, fun last member => ?_⟩
      · rw [both] at member
        rcases List.mem_pair.1 member with rfl | rfl <;> exact UInt64.le_refl _
      · rw [both, List.map_cons, List.map_singleton, status, running]
        rfl
      · rw [opening] at member
        simp at member
    have start : (d.setOff scene).index = 0 := index
    refine ⟨written.save record' below (excused _), owned.save _, .entering underway ?_ ?_ ?_, same⟩
    · rw [start, List.drop_zero]
      exact later
    · rw [start]
      exact pending
    · have zero : (d.setOff scene).op.currentStep = 0 := current
      rw [zero, start]
      rfl

theorem Kept.completes (none : d.later = [])
    (kept : Kept s cluster steps op owner log ⟨.entering, d, n⟩) :
    Kept s cluster steps op owner log ⟨.stopping (.ok ()), d, n⟩ := by
  refine kept.quiet rfl rfl ?_
  cases kept.stands with
  | entering underway later reached current =>
    refine .completing underway fun status member => ?_
    have beyond : steps.length ≤ d.index := by
      rw [← List.drop_eq_nil_iff, ← later]
      exact none
    obtain ⟨k, found⟩ := List.mem_iff_getElem?.1 member
    have inside : k < d.op.statuses.length := (List.getElem?_eq_some_iff.1 found).1
    rw [underway.record.length] at inside
    exact (reached k status found).1 (by omega)

theorem Kept.turnsBack (some : d.later ≠ [])
    (kept : Kept s cluster steps op owner log ⟨.entering, d, n⟩) :
    Kept s cluster steps op owner log ⟨.stopping (.error .cancelled), d, n⟩ := by
  refine kept.quiet rfl rfl ?_
  cases kept.stands with
  | entering underway later reached current =>
    have inside : d.index < d.op.statuses.length := by
      rw [underway.record.length, ← Nat.not_le, ← List.drop_eq_nil_iff, ← later]
      exact some
    have found := List.getElem?_eq_getElem inside
    refine .failing underway ⟨_, List.mem_of_getElem? found, ?_⟩
    rw [(reached d.index _ found).2 (Nat.le_refl _)]
    simp [StepStatus.Passed]

theorem Kept.takesUp {later : List Step} (scene : Scene) (fits : steps.length ≤ UInt64.size)
    (some : d.later = step :: later) (kept : Kept s cluster steps op owner log ⟨.entering, d, n⟩) :
    Kept s cluster steps op owner (log ++ [.save (d.takeUp scene later).op])
      ⟨.takenUp step, d.takeUp scene later, n⟩ := by
  cases kept.stands with
  | entering underway left reached current =>
    rw [some] at left
    have here : steps[d.index]? = Option.some step := by
      rw [← List.head?_drop, ← left]
      rfl
    have rest : later = steps.drop (d.index + 1) := by
      rw [← List.tail_drop, ← left]
      rfl
    have inside : d.index < steps.length := (List.getElem?_eq_some_iff.1 here).1
    have now : (d.takeUp scene later).op.currentStep.toNat = d.index :=
      Drive.currentStep_takeUp scene later (by omega) (by omega)
    have statuses := Drive.statuses_takeUp d scene later
    have within : Within steps (d.takeUp scene later) step := by
      refine ⟨here, rest, reached.set (Nat.le_succ _) statuses, now, ?_⟩
      rw [statuses]
      exact List.getElem?_set_self (by rw [underway.record.length]; exact inside)
    have ahead : d.op.currentStep ≤ (d.takeUp scene later).op.currentStep := by
      rw [UInt64.le_iff_toNat_le]
      omega
    have aligned : (d.takeUp scene later).op.Aligned := by
      apply within.reached.aligned
      · exact now.le
      · exact Nat.succ_le_succ now.ge
    have underway' : Underway cluster steps op log (d.takeUp scene later).op :=
      underway.set ⟨rfl, rfl, rfl⟩ statuses aligned ahead fun same => nomatch same
    exact kept.save rfl rfl underway' fun saved latest => .takenUp saved within latest

/-! ### Leaving a step -/

theorem Within.stuck (within : Within steps d step) : ∃ status ∈ d.op.statuses, ¬ status.Passed :=
  ⟨.running, List.mem_of_getElem? within.running.running, by simp [StepStatus.Passed]⟩

/-- A drive that has a step in progress is within it. -/
theorem Stands.within {p : Point} (stands : Stands cluster steps op owner log ⟨p, d, n⟩)
    (inStep : p.step? = some step) : Underway cluster steps op log d.op ∧ Within steps d step := by
  cases stands with
  | takenUp underway within latest =>
    cases inStep
    exact ⟨underway, within⟩
  | calling underway within calls =>
    cases inStep
    exact ⟨underway, within⟩
  | _ => cases inStep

theorem Kept.breaksOff (kept : Kept s cluster steps op owner log ⟨.takenUp step, d, n⟩) :
    Kept s cluster steps op owner log ⟨.stopping (.error .cancelled), d, n⟩ := by
  obtain ⟨underway, within⟩ := kept.stands.within rfl
  exact kept.quiet rfl rfl (.failing underway within.stuck)

theorem Kept.fails {p : Point} (e : EngineError) (inStep : p.step? = some step)
    (kept : Kept s cluster steps op owner log ⟨p, d, n⟩) :
    Kept s cluster steps op owner log ⟨.stopping (.error e), d.setStatus .error, n⟩ := by
  obtain ⟨underway, within⟩ := kept.stands.within inStep
  have statuses := Drive.statuses_setStatus d .error
  have aligned : (d.setStatus .error).op.Aligned := by
    apply (within.reached.set (Nat.le_refl _) statuses).aligned
    · exact within.running.current.le
    · exact Nat.succ_le_succ within.running.current.ge
  have underway' : Underway cluster steps op log (d.setStatus .error).op :=
    underway.set ⟨rfl, rfl, rfl⟩ statuses aligned (UInt64.le_refl _) fun same => nomatch same
  refine kept.quiet rfl rfl (.failing underway' ⟨.error, ?_, by simp [StepStatus.Passed]⟩)
  rw [statuses]
  exact List.mem_set (by rw [underway.record.length]; exact within.index_lt) _

/-- A step that has passed is left for the next one. -/
theorem Kept.leaves {p : Point} {status : StepStatus} (inStep : p.step? = some step)
    (kept : Kept s cluster steps op owner log ⟨p, d, n⟩) (same : Advances d.op d'.op)
    (statuses : d'.op.statuses = d.op.statuses.set d.index status) (passed : status.Passed)
    (current : d'.op.currentStep = d.op.currentStep) (index : d'.index = d.index)
    (later : d'.later = d.later) (cluster' : d'.cluster = d.cluster)
    (excused : status = .skipped → Excused cluster steps log d.index) :
    Kept s cluster steps op owner (log ++ [.save d'.op]) ⟨.entering, d'.leave, n⟩ := by
  obtain ⟨underway, within⟩ := kept.stands.within inStep
  have reached := within.reached.pass passed statuses
  have now : d'.op.currentStep.toNat = d.index := by rw [current, within.running.current]
  have aligned : d'.op.Aligned := (reached.mono (Nat.le_succ _) (Nat.le_refl _)).aligned now.le
    (Nat.succ_le_succ now.ge)
  have ahead : d.op.currentStep ≤ d'.op.currentStep := by
    rw [current]
    exact UInt64.le_refl _
  have underway' := underway.set same statuses aligned ahead excused
  have next : d'.leave.index = d.index + 1 := congrArg Nat.succ index
  refine kept.save rfl cluster' underway' fun saved _ => .entering saved ?_ ?_ ?_
  · rw [next]
    exact later.trans within.later
  · rw [next]
    exact reached
  · rw [next]
    exact now

theorem Kept.skips {reason : String} (fails : step.workload.yield d.cluster d.op = .error reason)
    (ignored : step.ignoreDynamicError = true)
    (kept : Kept s cluster steps op owner log ⟨.takenUp step, d, n⟩) :
    Kept s cluster steps op owner (log ++ [.save (d.setStatus .skipped).op])
      ⟨.entering, (d.setStatus .skipped).leave, n⟩ := by
  refine kept.leaves rfl ⟨rfl, rfl, rfl⟩ (Drive.statuses_setStatus d .skipped) (.inr rfl) rfl rfl rfl rfl
    fun _ => ?_
  cases kept.stands with
  | takenUp underway within latest =>
    cases work : step.workload with
    | fixed nodeSteps =>
      rw [work] at fails
      cases fails
    | built builder =>
      rw [work] at fails
      have here : d.cluster = cluster := kept.cluster
      rw [here] at fails
      exact ⟨step, builder, reason, d.op, within.here, work, ignored, mem_of_latest? latest,
        within.running, fails⟩

theorem Kept.proceeds (scene : Scene)
    (kept : Kept s cluster steps op owner log ⟨.calling step nodeSteps round, d, n⟩) :
    Kept s cluster steps op owner (log ++ [.save (d.proceed scene).op])
      ⟨.entering, (d.proceed scene).leave, n⟩ :=
  kept.leaves rfl ⟨rfl, rfl, rfl⟩ (Drive.statuses_proceed d scene) (.inl rfl) rfl rfl rfl rfl
    fun same => nomatch same

/-! ### Within a step -/

/-- A round begins with node steps of the step. -/
theorem Kept.opens {p : Point} {called : List NodeStep} (scene : Scene) (desk : Desk)
    (inStep : p.step? = some step)
    (kept : Kept s cluster steps op owner log ⟨p, d, desk.identifiers.used⟩)
    (latest : ∃ record, latest? log = some record ∧ record.Running d.index)
    (yields : ∃ record ∈ records log, record.Running d.index ∧
      step.workload.yield cluster record = .ok nodeSteps)
    (among : ∀ n ∈ called, n ∈ nodeSteps) :
    ∃ owner', Kept s cluster steps op owner' log
      ⟨.calling step nodeSteps (d.opening s scene desk step called), d.attempt,
        desk.identifiers.used + called.length⟩ := by
  obtain ⟨underway, within⟩ := kept.stands.within inStep
  obtain ⟨owner', owned, own⟩ := kept.owned.extend d.index called.length
  have statuses := Drive.statuses_attempt d
  have underway' : Underway cluster steps op log d.attempt.op :=
    underway.same ⟨rfl, rfl, rfl⟩ statuses rfl
  have within' : Within steps d.attempt step := within.same statuses rfl rfl rfl
  refine ⟨owner', kept.written, owned, .calling underway' within' ⟨latest, yields, ?_, ?_⟩,
    kept.cluster⟩
  · exact Round.faithful_begin _ _ _ _ _
  · intro entry member
    obtain ⟨listed, between⟩ := d.called_opening s scene desk step called entry member
    exact ⟨among _ listed, between.mono (Nat.zero_le _) (Nat.le_refl _), own _ between⟩

theorem Kept.calls (scene : Scene) (desk : Desk)
    (yields : step.workload.yield d.cluster d.op = .ok nodeSteps)
    (kept : Kept s cluster steps op owner log ⟨.takenUp step, d, desk.identifiers.used⟩) :
    ∃ owner', Kept s cluster steps op owner' log
      ⟨.calling step nodeSteps (d.opening s scene desk step nodeSteps), d.attempt,
        desk.identifiers.used + nodeSteps.length⟩ := by
  have stands := kept.stands
  cases stands with
  | takenUp underway within latest =>
    have here : d.cluster = cluster := kept.cluster
    rw [here] at yields
    exact kept.opens scene desk rfl ⟨d.op, latest, within.running⟩
      ⟨d.op, mem_of_latest? latest, within.running, yields⟩ fun _ => id

theorem Kept.retries (scene : Scene) (desk : Desk)
    (kept : Kept s cluster steps op owner log
      ⟨.calling step nodeSteps round, d, desk.identifiers.used⟩) :
    ∃ owner', Kept s cluster steps op owner' log
      ⟨.calling step nodeSteps (d.opening s scene desk step (round.again d.state)), d.attempt,
        desk.identifiers.used + (round.again d.state).length⟩ := by
  have stands := kept.stands
  cases stands with
  | calling underway within calls =>
    refine kept.opens scene desk rfl calls.latest calls.yields fun n member => ?_
    have listed : n ∈ round.called.map Prod.snd := by
      rw [← Round.nodeSteps_eq]
      exact (List.mem_filter.1 member).1
    obtain ⟨entry, called, rfl⟩ := List.mem_map.1 listed
    exact (calls.called entry called).1

theorem Kept.works {desk : Desk} {moved : Round × Desk} {sent : List Effect}
    (sends : round.Sends s desk moved sent)
    (kept : Kept s cluster steps op owner log ⟨.calling step nodeSteps round, d, n⟩) :
    Kept s cluster steps op owner (log ++ sent) ⟨.calling step nodeSteps moved.1, d, n⟩ := by
  obtain ⟨written, owned, stands, same⟩ := kept
  cases stands with
  | calling underway within calls =>
    obtain ⟨last, latest, running⟩ := calls.latest
    obtain ⟨record, member, wasRunning, yields⟩ := calls.yields
    have sending : Sending sent := by
      intro effect member
      obtain ⟨lane, -, k, task, -, same⟩ := sends.carries calls.faithful effect member
      exact ⟨_, _, same⟩
    have unseen {before : List Effect} (part : ∀ effect ∈ before, effect ∈ sent) :
        records (log ++ before) = records log := by
      have sending' : Sending before := fun effect member => sending effect (part effect member)
      exact sending'.records_append log
    -- Whatever is sent is a task of a lane, whose identifier the step owns.
    have carried {effect : Effect} (member : effect ∈ sent) :
        ∃ entry ∈ round.called, effect.Carries s round.context entry.1 entry.2 := by
      obtain ⟨lane, here, carries⟩ := sends.carries calls.faithful effect member
      exact ⟨(lane.id, lane.nodeStep), List.mem_map_of_mem here, carries⟩
    refine ⟨written.append sending.records_eq, ⟨owned.sends.append ?_, ?_⟩,
      .calling (underway.sent sending) within ⟨?_, ?_, sends.continues.faithful calls.faithful, ?_⟩, same⟩
    · intro before effect rest split nodeId envelope send
      have inside : effect ∈ sent := by
        rw [split]
        exact List.mem_append_right _ List.mem_cons_self
      have part : records (log ++ before) = records log := unseen fun other member => by
        rw [split]
        exact List.mem_append_left _ member
      obtain ⟨entry, here, carries⟩ := carried inside
      obtain ⟨k, task, found, same⟩ := carries
      have id : envelope.nodeStepId = entry.1 := by
        rw [send] at same
        obtain ⟨-, rfl⟩ := Effect.send.inj same
        rfl
      obtain ⟨among, -, own⟩ := calls.called entry here
      rw [id, own]
      refine ⟨⟨step, nodeSteps, record, entry.2, round.context, within.here, ?_, wasRunning, yields,
        among, k, task, found, same⟩, last, ?_, running⟩
      · rw [part]
        exact member
      · rw [latest?, part]
        exact latest
    · intro nodeId envelope member
      rcases List.mem_append.1 member with old | new
      · exact owned.known nodeId envelope old
      · obtain ⟨entry, here, k, task, -, same⟩ := carried new
        obtain ⟨-, rfl⟩ := Effect.send.inj same
        exact (calls.called entry here).2.1
    · rw [latest?, sending.records_append]
      exact ⟨last, latest, running⟩
    · rw [sending.records_append]
      exact ⟨record, member, wasRunning, yields⟩
    · rw [sends.continues.called]
      exact calls.called

theorem Kept.records {continued : Round} (edits : d.Edits d') (continues : round.Continues continued)
    (kept : Kept s cluster steps op owner log ⟨.calling step nodeSteps round, d, n⟩) :
    Kept s cluster steps op owner (log ++ [.save d'.op]) ⟨.calling step nodeSteps continued, d', n⟩ := by
  have stands := kept.stands
  cases stands with
  | calling underway within calls =>
    have statuses := edits.statuses
    have underway' := underway.same ⟨edits.id, edits.type, edits.status⟩ statuses edits.currentStep
    have within' : Within steps d' step :=
      within.same statuses edits.currentStep edits.index edits.later
    obtain ⟨record, member, running, yields⟩ := calls.yields
    refine kept.save rfl edits.cluster underway' fun saved latest => .calling saved within'
      ⟨⟨d'.op, latest, within'.running⟩, ⟨record, ?_, edits.index ▸ running, yields⟩,
        continues.faithful calls.faithful, ?_⟩
    · rw [records_append]
      exact List.mem_append_left _ member
    · rw [continues.called, edits.index]
      exact calls.called

/-! ### The end -/

theorem Kept.finishes {result : Except EngineError Unit} (scene : Scene)
    (kept : Kept s cluster steps op owner log ⟨.stopping result, d, n⟩) :
    Kept s cluster steps op owner
      (log ++ [.save (d.final scene result), .finish (d.final scene result)])
      ⟨.ended, { d with op := d.final scene result }, n⟩ := by
  obtain ⟨written, owned, stands, same⟩ := kept
  obtain ⟨id, type, current, statuses⟩ := d.frame_final scene result
  have status := d.status_final scene result
  have ended (underway : Underway cluster steps op log d.op)
      (terminal : (d.final scene result).status.isTerminal = true)
      (successful : (d.final scene result).status = .successful ↔
        ∀ status ∈ (d.final scene result).statuses, status.Passed) :
      Kept s cluster steps op owner
        (log ++ [.save (d.final scene result), .finish (d.final scene result)])
        ⟨.ended, { d with op := d.final scene result }, n⟩ := by
    have record : RecordOf steps op (d.final scene result) :=
      ⟨id.trans underway.record.id, type.trans underway.record.type,
        statuses ▸ underway.record.length, underway.record.aligned.congr statuses current⟩
    have saved := written.save record (current ▸ underway.below) (statuses ▸ underway.excused)
    obtain ⟨k, before⟩ := underway.statuses
    have closed : Closed op (log ++ [.save (d.final scene result), .finish (d.final scene result)])
        (d.final scene result) := ⟨⟨log, k, rfl, before⟩, terminal, successful⟩
    have silent : Owned s cluster steps
        (log ++ [.save (d.final scene result)] ++ [.finish (d.final scene result)]) n owner :=
      (owned.save _).silent fun _ _ same => nomatch same
    have split : log ++ [.save (d.final scene result), .finish (d.final scene result)] =
        log ++ [.save (d.final scene result)] ++ [.finish (d.final scene result)] := by simp
    rw [split] at closed ⊢
    exact ⟨saved.append rfl, silent, .ended closed, same⟩
  cases stands with
  | completing underway passed =>
    refine ended underway (by rw [status]; rfl) ⟨fun _ => ?_, fun _ => status⟩
    rw [statuses]
    exact passed
  | failing underway stuck =>
    refine ended underway (by rw [status]; rfl) ⟨fun success => ?_, fun all => ?_⟩
    · rw [status] at success
      cases success
    · obtain ⟨left, member, unpassed⟩ := stuck
      rw [statuses] at all
      exact absurd (all left member) unpassed

theorem Kept.rests {p : Point} (same : d.Rests d') (more : n ≤ m)
    (kept : Kept s cluster steps op owner log ⟨p, d, n⟩) :
    Kept s cluster steps op owner log ⟨p, d', m⟩ := by
  obtain ⟨written, owned, stands, here⟩ := kept
  refine ⟨written, ⟨owned.sends, fun nodeId envelope member => ?_⟩, ?_, same.cluster.trans here⟩
  · exact (owned.known nodeId envelope member).mono (Nat.le_refl _) more
  · obtain ⟨op', cluster', index, later, -⟩ := same
    have within {step : Step} (within : Within steps d step) : Within steps d' step :=
      within.same (congrArg Operation.statuses op') (congrArg Operation.currentStep op') index later
    cases stands with
    | starting opening record status start left current pending =>
      exact .starting (op' ▸ opening) (op' ▸ record) (op' ▸ status) (index.trans start)
        (later.trans left) (op' ▸ current) (op' ▸ pending)
    | entering underway left reached current =>
      refine .entering (op' ▸ underway) ?_ ?_ ?_
      · rw [later, left, index]
      · rw [op', index]
        exact reached
      · rw [op', index]
        exact current
    | takenUp underway inside latest =>
      exact .takenUp (op' ▸ underway) (within inside) (op' ▸ latest)
    | calling underway inside calls =>
      refine .calling (op' ▸ underway) (within inside)
        ⟨index ▸ calls.latest, index ▸ calls.yields, calls.faithful, fun entry member => ?_⟩
      obtain ⟨among, between, own⟩ := calls.called entry member
      exact ⟨among, between.mono (Nat.le_refl _) more, own.trans index.symm⟩
    | completing underway passed => exact .completing (op' ▸ underway) (op' ▸ passed)
    | failing underway stuck => exact .failing (op' ▸ underway) (op' ▸ stuck)
    | ended closed => exact .ended closed

/-! ### Any number of acts -/

/-- **An act keeps the log in order.** -/
theorem Act.kept (fits : steps.length ≤ UInt64.size) (act : Act s a effects b)
    (kept : Kept s cluster steps op owner log a) :
    ∃ owner', Kept s cluster steps op owner' (log ++ effects) b := by
  have quiet {owner' : String → Nat} (kept : Kept s cluster steps op owner' log b) :
      ∃ owner', Kept s cluster steps op owner' (log ++ []) b :=
    ⟨owner', by rwa [List.append_nil]⟩
  cases act with
  | setsOff scene => exact ⟨owner, kept.setsOff scene⟩
  | completes none => exact quiet (kept.completes none)
  | turnsBack some requested => exact quiet (kept.turnsBack some)
  | takesUp scene some wanted => exact ⟨owner, kept.takesUp scene fits some⟩
  | breaksOff requested => exact quiet kept.breaksOff
  | skips fails ignored => exact ⟨owner, kept.skips fails ignored⟩
  | calls scene desk yields =>
    obtain ⟨owner', kept'⟩ := kept.calls scene desk yields
    exact quiet kept'
  | works sends => exact ⟨owner, kept.works sends⟩
  | records edits continues => exact ⟨owner, kept.records edits continues⟩
  | retries scene desk =>
    obtain ⟨owner', kept'⟩ := kept.retries scene desk
    exact quiet kept'
  | proceeds scene => exact ⟨owner, kept.proceeds scene⟩
  | fails e inStep => exact quiet (kept.fails e inStep)
  | finishes scene result => exact ⟨owner, kept.finishes scene⟩
  | rests same more => exact quiet (kept.rests same more)

/-- **Any number of acts** keeps the log in order. -/
theorem Acts.kept (fits : steps.length ≤ UInt64.size) (acts : Acts s a effects b)
    (kept : Kept s cluster steps op owner log a) :
    ∃ owner', Kept s cluster steps op owner' (log ++ effects) b := by
  induction acts with
  | refl => exact ⟨owner, by rwa [List.append_nil]⟩
  | snoc _ act ih =>
    obtain ⟨owner', kept'⟩ := ih
    rw [← List.append_assoc]
    exact act.kept fits kept'

end

end Muster.Engine
