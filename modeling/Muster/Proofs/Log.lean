import Muster.Proofs.Record

/-!
# What is written of an operation

The log of an operation is what a drive does to the world, the oldest first. `Kept` relates a log to the
station that the drive has reached: the records so far ascend and are aligned (`Written`), what is sent
belongs to the step that the last record shows as running (`Owned`), and what is left of the steps fits
the record (`Stands`).
-/

set_option autoImplicit false

namespace Muster.Engine

/-! ### Logs -/

/-- The records that are handed to the store, the oldest first. -/
def records (log : List Effect) : List Operation :=
  log.filterMap fun effect =>
    match effect with
    | .save op => some op
    | _ => none

/-- The record that was handed to the store last. -/
def latest? (log : List Effect) : Option Operation := (records log).getLast?

/-- Every effect of a log has a property of what came before it. -/
def Each (P : List Effect → Effect → Prop) (log : List Effect) : Prop :=
  ∀ before effect after, log = before ++ effect :: after → P before effect

section

variable {P Q : List Effect → Effect → Prop} {log more : List Effect} {effect : Effect}

theorem records_append (log more : List Effect) : records (log ++ more) = records log ++ records more :=
  List.filterMap_append

theorem latest?_save (log : List Effect) (op : Operation) : latest? (log ++ [.save op]) = some op := by
  rw [latest?, records_append]
  exact List.getLast?_concat

theorem mem_of_latest? {op : Operation} (last : latest? log = some op) : op ∈ records log :=
  List.mem_of_getLast? last

theorem Each.append (each : Each P log)
    (next : ∀ before effect after, more = before ++ effect :: after → P (log ++ before) effect) :
    Each P (log ++ more) := by
  intro before effect after split
  rcases List.append_eq_append_iff.1 split with ⟨middle, rfl, rest⟩ | ⟨middle, whole, rest⟩
  · exact next middle effect after rest
  · cases middle with
    | nil =>
      rw [List.append_nil] at whole
      have first := next [] effect after rest.symm
      rw [List.append_nil, whole] at first
      exact first
    | cons first middle =>
      obtain ⟨rfl, -⟩ := List.cons.inj rest
      exact each before effect middle whole

theorem Each.snoc (each : Each P log) (last : P log effect) : Each P (log ++ [effect]) := by
  apply each.append
  intro before other after split
  cases before with
  | nil =>
    obtain ⟨rfl, -⟩ := List.cons.inj split
    rw [List.append_nil]
    exact last
  | cons first before => simp at split

theorem Each.mono (each : Each P log)
    (weaker : ∀ before effect, effect ∈ log → P before effect → Q before effect) : Each Q log := by
  intro before effect after split
  exact weaker before effect (by rw [split]; simp) (each before effect after split)

end

/-! ### What a log says -/

section

variable (s : Settings) (cluster : Cluster) (steps : List Step) (op : Operation)

/-- A step may be left out: it allows for that, and its node steps could not be built out of a record
that shows it running. -/
def Excused (log : List Effect) (k : Nat) : Prop :=
  ∃ step builder reason record, steps[k]? = some step ∧ step.workload = .built builder ∧
    step.ignoreDynamicError = true ∧ record ∈ records log ∧ record.Running k ∧
    builder record.returnData cluster record = .error reason

/-- An effect sends a task of a step, under the identifier of one of its node steps. The node steps are
those that the step yields on a record that shows it running. -/
def Belongs (log : List Effect) (k : Nat) (id : String) (effect : Effect) : Prop :=
  ∃ step nodeSteps record n c, steps[k]? = some step ∧ record ∈ records log ∧ record.Running k ∧
    step.workload.yield cluster record = .ok nodeSteps ∧ n ∈ nodeSteps ∧ effect.Carries s c id n

/-- Whoever is shown as skipped is excused by what came before. -/
def SkipsExcused (before : List Effect) (effect : Effect) : Prop :=
  ∀ record, effect = .save record →
    ∀ k, record.statuses[k]? = some .skipped → Excused cluster steps before k

/-- Whatever is sent belongs to the step that the last record shows as running. `owner` says which step
an identifier of a node step belongs to. -/
def SendsRunning (owner : String → Nat) (before : List Effect) (effect : Effect) : Prop :=
  ∀ nodeId envelope, effect = .send nodeId envelope →
    Belongs s cluster steps before (owner envelope.nodeStepId) envelope.nodeStepId effect ∧
    ∃ record, latest? before = some record ∧ record.Running (owner envelope.nodeStepId)

/-- A record of an operation over steps. -/
structure RecordOf (record : Operation) : Prop where
  id : record.id = op.id
  type : record.type = op.type
  length : record.statuses.length = steps.length
  aligned : record.Aligned

/-- What holds of every log of an operation. -/
structure Written (log : List Effect) : Prop where
  record : ∀ record ∈ records log, RecordOf steps op record
  ascending : (records log).Pairwise fun a b => a.currentStep ≤ b.currentStep
  excused : Each (SkipsExcused cluster steps) log

/-- Which step an identifier belongs to is settled for those in use. -/
structure Owned (log : List Effect) (used : Nat) (owner : String → Nat) : Prop where
  sends : Each (SendsRunning s cluster steps owner) log
  known : ∀ nodeId envelope, .send nodeId envelope ∈ log →
    Identifiers.Between 0 used envelope.nodeStepId

/-- An operation has set off and not ended, and this is its record now, saved or not. -/
structure Underway (log : List Effect) (now : Operation) : Prop where
  record : RecordOf steps op now
  status : now.status = op.type.runningStatus
  below : ∀ record ∈ records log, record.currentStep ≤ now.currentStep
  excused : ∀ k, now.statuses[k]? = some .skipped → Excused cluster steps log k
  statuses : ∃ n, (records log).map Operation.status =
    .pending :: List.replicate (n + 1) op.type.runningStatus
  unfinished : Unfinished log

/-- An operation has ended with its last record. -/
structure Closed (log : List Effect) (last : Operation) : Prop where
  log : ∃ earlier n, log = earlier ++ [.save last, .finish last] ∧
    (records earlier).map Operation.status =
      .pending :: List.replicate (n + 1) op.type.runningStatus
  terminal : last.status.isTerminal = true
  successful : last.status = .successful ↔ ∀ status ∈ last.statuses, status.Passed

/-- A drive is within a step. -/
structure Within (d : Drive) (step : Step) : Prop where
  here : steps[d.index]? = some step
  later : d.later = steps.drop (d.index + 1)
  reached : d.op.Reached d.index (d.index + 1)
  running : d.op.Running d.index

/-- The round of a drive speaks for node steps of its step. -/
structure Calls (owner : String → Nat) (log : List Effect) (d : Drive) (used : Nat) (step : Step)
    (nodeSteps : List NodeStep) (round : Round) : Prop where
  latest : ∃ record, latest? log = some record ∧ record.Running d.index
  yields : ∃ record ∈ records log, record.Running d.index ∧
    step.workload.yield cluster record = .ok nodeSteps
  faithful : round.Faithful
  called : ∀ entry ∈ round.called, entry.2 ∈ nodeSteps ∧ Identifiers.Between 0 used entry.1 ∧
    owner entry.1 = d.index

/-- What is left to do at a station fits what has been written. -/
inductive Stands (owner : String → Nat) (log : List Effect) : Station → Prop where
  | starting {d : Drive} {n : Nat} (opening : log = [.save d.op]) (record : RecordOf steps op d.op)
      (status : d.op.status = .pending) (index : d.index = 0) (later : d.later = steps)
      (current : d.op.currentStep = 0) (pending : d.op.Reached 0 0) :
      Stands owner log ⟨.starting, d, n⟩
  | entering {d : Drive} {n : Nat} (underway : Underway cluster steps op log d.op)
      (later : d.later = steps.drop d.index) (reached : d.op.Reached d.index d.index)
      (current : d.op.currentStep.toNat = d.index - 1) :
      Stands owner log ⟨.entering, d, n⟩
  | takenUp {d : Drive} {n : Nat} {step : Step} (underway : Underway cluster steps op log d.op)
      (within : Within steps d step) (latest : latest? log = some d.op) :
      Stands owner log ⟨.takenUp step, d, n⟩
  | calling {d : Drive} {n : Nat} {step : Step} {nodeSteps : List NodeStep} {round : Round}
      (underway : Underway cluster steps op log d.op) (within : Within steps d step)
      (calls : Calls cluster owner log d n step nodeSteps round) :
      Stands owner log ⟨.calling step nodeSteps round, d, n⟩
  | completing {d : Drive} {n : Nat} (underway : Underway cluster steps op log d.op)
      (passed : ∀ status ∈ d.op.statuses, status.Passed) :
      Stands owner log ⟨.stopping (.ok ()), d, n⟩
  | failing {d : Drive} {n : Nat} {e : EngineError} (underway : Underway cluster steps op log d.op)
      (stuck : ∃ status ∈ d.op.statuses, ¬ status.Passed) :
      Stands owner log ⟨.stopping (.error e), d, n⟩
  | ended {d : Drive} {n : Nat} {last : Operation} (closed : Closed op log last) :
      Stands owner log ⟨.ended, d, n⟩

/-- The log of an operation and the station that its drive has reached. -/
structure Kept (owner : String → Nat) (log : List Effect) (a : Station) : Prop where
  written : Written cluster steps op log
  owned : Owned s cluster steps log a.used owner
  stands : Stands cluster steps op owner log a
  cluster : a.drive.cluster = cluster

end

/-! ### What is added to a log -/

section

variable {s : Settings} {cluster : Cluster} {steps : List Step} {op now after : Operation}
  {log : List Effect} {owner : String → Nat} {n k : Nat} {d d' : Drive} {step : Step}

theorem Excused.append (excused : Excused cluster steps log k) (more : List Effect) :
    Excused cluster steps (log ++ more) k := by
  obtain ⟨step, builder, reason, record, here, built, ignored, member, running, fails⟩ := excused
  refine ⟨step, builder, reason, record, here, built, ignored, ?_, running, fails⟩
  rw [records_append]
  exact List.mem_append_left _ member

theorem Written.save (written : Written cluster steps op log) (record : RecordOf steps op after)
    (below : ∀ record ∈ records log, record.currentStep ≤ after.currentStep)
    (excused : ∀ k, after.statuses[k]? = some .skipped → Excused cluster steps log k) :
    Written cluster steps op (log ++ [.save after]) := by
  have added : records (log ++ [.save after]) = records log ++ [after] := records_append ..
  refine ⟨fun r member => ?_, ?_, written.excused.snoc fun r same => ?_⟩
  · rw [added, List.mem_append, List.mem_singleton] at member
    rcases member with old | rfl
    · exact written.record r old
    · exact record
  · rw [added, List.pairwise_append]
    refine ⟨written.ascending, List.pairwise_singleton .., fun a old b new => ?_⟩
    rw [List.mem_singleton.1 new]
    exact below a old
  · cases same
    exact excused

/-- An effect that sends nothing leaves the owners as they are. -/
theorem Owned.silent {effect : Effect} (owned : Owned s cluster steps log n owner)
    (silent : ∀ nodeId envelope, effect ≠ .send nodeId envelope) :
    Owned s cluster steps (log ++ [effect]) n owner := by
  refine ⟨owned.sends.snoc fun nodeId envelope same => absurd same (silent nodeId envelope), ?_⟩
  intro nodeId envelope member
  rw [List.mem_append, List.mem_singleton] at member
  rcases member with old | new
  · exact owned.known nodeId envelope old
  · exact absurd new.symm (silent nodeId envelope)

theorem Owned.save (owned : Owned s cluster steps log n owner) (record : Operation) :
    Owned s cluster steps (log ++ [.save record]) n owner :=
  owned.silent fun _ _ same => nomatch same

theorem Underway.save (underway : Underway cluster steps op log now) :
    Underway cluster steps op (log ++ [.save now]) now := by
  have added : records (log ++ [.save now]) = records log ++ [now] := records_append ..
  refine ⟨underway.record, underway.status, fun r member => ?_,
    fun k skipped => (underway.excused k skipped).append _, ?_, fun last member => ?_⟩
  · rw [added, List.mem_append, List.mem_singleton] at member
    rcases member with old | rfl
    · exact underway.below r old
    · exact UInt64.le_refl _
  · obtain ⟨m, same⟩ := underway.statuses
    refine ⟨m + 1, ?_⟩
    rw [added, List.map_append, same, List.map_singleton, underway.status, List.cons_append,
      ← List.replicate_succ']
  · rw [List.mem_append, List.mem_singleton] at member
    rcases member with old | new
    · exact underway.unfinished last old
    · cases new

/-- A record that changes in nothing but its steps and its data. -/
structure Advances (now after : Operation) : Prop where
  id : after.id = now.id
  type : after.type = now.type
  status : after.status = now.status

theorem Underway.change (underway : Underway cluster steps op log now) (same : Advances now after)
    (length : after.statuses.length = now.statuses.length) (aligned : after.Aligned)
    (current : now.currentStep ≤ after.currentStep)
    (excused : ∀ k, after.statuses[k]? = some .skipped →
      now.statuses[k]? = some .skipped ∨ Excused cluster steps log k) :
    Underway cluster steps op log after where
  record := ⟨same.id.trans underway.record.id, same.type.trans underway.record.type,
    length.trans underway.record.length, aligned⟩
  status := same.status.trans underway.status
  below r member := UInt64.le_trans (underway.below r member) current
  excused k skipped := (excused k skipped).elim (underway.excused k) id
  statuses := underway.statuses
  unfinished := underway.unfinished

/-- The record after one of its steps has changed its status. -/
theorem Underway.set {i : Nat} {status : StepStatus} (underway : Underway cluster steps op log now)
    (same : Advances now after) (statuses : after.statuses = now.statuses.set i status)
    (aligned : after.Aligned) (current : now.currentStep ≤ after.currentStep)
    (excused : status = .skipped → Excused cluster steps log i) :
    Underway cluster steps op log after := by
  apply underway.change same _ aligned current
  · intro k skipped
    rw [statuses, List.getElem?_set] at skipped
    split at skipped
    · next here =>
      subst here
      split at skipped
      · exact .inr (excused (Option.some.inj skipped))
      · cases skipped
    · exact .inl skipped
  · rw [statuses, List.length_set]

/-- Other changes leave the statuses and the current step as they are. -/
theorem Underway.same (underway : Underway cluster steps op log now) (same : Advances now after)
    (statuses : after.statuses = now.statuses) (current : after.currentStep = now.currentStep) :
    Underway cluster steps op log after := by
  apply underway.change same (congrArg List.length statuses)
  · exact underway.record.aligned.congr statuses current
  · rw [current]
    exact UInt64.le_refl _
  · intro k skipped
    rw [statuses] at skipped
    exact .inl skipped

theorem Within.same (within : Within steps d step) (statuses : d'.op.statuses = d.op.statuses)
    (current : d'.op.currentStep = d.op.currentStep) (index : d'.index = d.index)
    (later : d'.later = d.later) : Within steps d' step where
  here := index ▸ within.here
  later := by rw [later, within.later, index]
  reached := index ▸ within.reached.congr statuses
  running := index ▸ within.running.congr statuses current

theorem Within.index_lt (within : Within steps d step) : d.index < steps.length :=
  (List.getElem?_eq_some_iff.1 within.here).1

/-! ### Effects that are no records -/

section

variable {more : List Effect}

/-- What is added sends something. -/
def Sending (more : List Effect) : Prop := ∀ effect ∈ more, ∃ nodeId envelope, effect = .send nodeId envelope

theorem Sending.records_eq (sending : Sending more) : records more = [] := by
  apply List.filterMap_eq_nil_iff.2
  intro effect member
  obtain ⟨nodeId, envelope, rfl⟩ := sending effect member
  rfl

theorem Sending.records_append (sending : Sending more) (log : List Effect) :
    records (log ++ more) = records log := by
  rw [Engine.records_append, sending.records_eq, List.append_nil]

theorem Written.append (written : Written cluster steps op log) (none : records more = []) :
    Written cluster steps op (log ++ more) := by
  have same : records (log ++ more) = records log := by rw [records_append, none, List.append_nil]
  refine ⟨?_, ?_, written.excused.append fun before effect rest split record save => ?_⟩
  · rw [same]
    exact written.record
  · rw [same]
    exact written.ascending
  · have member : record ∈ records more := by
      rw [split, save, records_append]
      exact List.mem_append_right _ List.mem_cons_self
    rw [none] at member
    cases member

theorem Underway.sent (underway : Underway cluster steps op log now) (sending : Sending more) :
    Underway cluster steps op (log ++ more) now where
  record := underway.record
  status := underway.status
  below := by
    rw [sending.records_append]
    exact underway.below
  excused k skipped := (underway.excused k skipped).append more
  statuses := by
    rw [sending.records_append]
    exact underway.statuses
  unfinished last member := by
    rcases List.mem_append.1 member with old | new
    · exact underway.unfinished last old
    · obtain ⟨nodeId, envelope, same⟩ := sending _ new
      cases same

end

/-! ### Calling up node steps -/

/-- Identifiers that are handed out for a step are its own. -/
theorem Owned.extend (owned : Owned s cluster steps log n owner) (i count : Nat) :
    ∃ owner', Owned s cluster steps log (n + count) owner' ∧
      ∀ id, Identifiers.Between n (n + count) id → owner' id = i := by
  classical
  let owner' (id : String) : Nat := if Identifiers.Between 0 n id then owner id else i
  refine ⟨owner', ⟨owned.sends.mono ?_, ?_⟩, ?_⟩
  · intro before effect member sends nodeId envelope same
    have old : owner' envelope.nodeStepId = owner envelope.nodeStepId :=
      if_pos (owned.known nodeId envelope (same ▸ member))
    rw [old]
    exact sends nodeId envelope same
  · intro nodeId envelope member
    exact (owned.known nodeId envelope member).mono (Nat.le_refl _) (Nat.le_add_right ..)
  · intro id fresh
    exact if_neg fun old => old.ne fresh (Nat.le_refl _) rfl

theorem Drive.called_opening (s : Settings) (scene : Scene) (desk : Desk) (d : Drive) (step : Step)
    (called : List NodeStep) :
    ∀ entry ∈ (d.opening s scene desk step called).called, entry.2 ∈ called ∧
      Identifiers.Between desk.identifiers.used (desk.identifiers.used + called.length) entry.1 := by
  intro entry member
  rw [Drive.opening, Round.called_begin] at member
  have step : entry.2 ∈ (Drive.named desk called).map Prod.snd := List.mem_map_of_mem member
  have id : entry.1 ∈ (Drive.named desk called).map Prod.fst := List.mem_map_of_mem member
  have between := Identifiers.between_of_mem_freshFor id
  rw [Identifiers.freshFor_used] at between
  rw [Drive.named, Identifiers.freshFor_snd] at step
  exact ⟨step, between⟩

end

end Muster.Engine
