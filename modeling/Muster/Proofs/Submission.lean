import Muster.Proofs.Chronicle
import Muster.Proofs.EngineRun

/-!
# The chronicle of a submitted operation

From the moment an operation is submitted to its end, what an engine writes and sends for it obeys
`Chronicle`, whatever else the engine does: others are submitted, replies arrive or never do, the clock
runs as it likes and requests to cancel come at any moment.
-/

set_option autoImplicit false

namespace Muster.Engine

section

variable (s : Settings) (cluster : Cluster) (steps : List Step) (op : Operation)

/-- An operation that has not ended: its status is pending first and then that of its type. -/
structure Open (log : List Effect) : Prop where
  statuses : ∃ n, (records log).map Operation.status = .pending :: List.replicate n op.type.runningStatus
  unfinished : Unfinished log

/-- What is written and sent for an operation. -/
structure Chronicle (log : List Effect) : Prop where
  /-- In every record the steps before the current one have passed, and those after it are pending. -/
  record : ∀ record ∈ records log, RecordOf steps op record
  ascending : (records log).Pairwise fun a b => a.currentStep ≤ b.currentStep
  excused : Each (SkipsExcused cluster steps) log
  /-- An envelope is sent only while the step is running that its node step belongs to. -/
  sends : ∃ owner, Each (SendsRunning s cluster steps owner) log
  /-- A terminal status occurs only in the last record, with which the operation ends. -/
  ends : Open op log ∨ ∃ last, Closed op log last

end

section

variable {s : Settings} {cluster : Cluster} {steps : List Step} {op : Operation} {log : List Effect}
  {owner : String → Nat} {a : Station}

theorem Underway.isOpen {now : Operation} (underway : Underway cluster steps op log now) : Open op log :=
  ⟨underway.statuses.imp' _ fun _ same => same, underway.unfinished⟩

theorem Kept.chronicle (kept : Kept s cluster steps op owner log a) :
    Chronicle s cluster steps op log := by
  refine ⟨kept.written.record, kept.written.ascending, kept.written.excused,
    ⟨owner, kept.owned.sends⟩, ?_⟩
  cases kept.stands with
  | starting opening record status index later current pending =>
    refine .inl ⟨⟨0, ?_⟩, fun last member => ?_⟩
    · rw [opening, ← status]
      rfl
    · rw [opening] at member
      simp at member
  | entering underway later reached current => exact .inl underway.isOpen
  | takenUp underway within latest => exact .inl underway.isOpen
  | calling underway within calls => exact .inl underway.isOpen
  | completing underway passed => exact .inl underway.isOpen
  | failing underway stuck => exact .inl underway.isOpen
  | ended closed => exact .inr ⟨_, closed⟩

theorem Drive.statuses_submitted (s : Settings) (scene : Scene) (op : Operation) (cluster : Cluster)
    (steps : List Step) : (submitted s scene op cluster steps).op.statuses = steps.map fun _ => .pending := by
  simp [submitted, Operation.statuses, Operation.touch, StepState.named, Function.comp_def]

/-- No step of a submitted operation has begun. -/
theorem Drive.reached_submitted (s : Settings) (scene : Scene) (op : Operation) (cluster : Cluster)
    (steps : List Step) : (submitted s scene op cluster steps).op.Reached 0 0 := by
  intro k status found
  rw [statuses_submitted, List.getElem?_map, Option.map_eq_some_iff] at found
  obtain ⟨step, -, rfl⟩ := found
  exact ⟨fun less => absurd less (Nat.not_lt_zero k), fun _ => rfl⟩

/-- The first record of an operation that is pending before its first step. -/
theorem kept_submitted (s : Settings) (scene : Scene) (cluster : Cluster) (steps : List Step) (n : Nat)
    (pending : op.status = .pending) (first : op.currentStep = 0) :
    Kept s cluster steps op (fun _ => 0) [.save (Drive.submitted s scene op cluster steps).op]
      ⟨.starting, .submitted s scene op cluster steps, n⟩ := by
  have statuses := Drive.statuses_submitted s scene op cluster steps
  have reached := Drive.reached_submitted s scene op cluster steps
  have record : RecordOf steps op (Drive.submitted s scene op cluster steps).op := by
    refine ⟨rfl, rfl, by rw [statuses, List.length_map], reached.mono ?_ (Nat.zero_le _)⟩
    have current : (Drive.submitted s scene op cluster steps).op.currentStep = 0 := first
    rw [current]
    exact Nat.le_refl 0
  have empty : Written cluster steps op [] :=
    ⟨fun r member => absurd member List.not_mem_nil, .nil, fun _ _ _ split => by simp at split⟩
  refine ⟨empty.save record (fun r member => absurd member List.not_mem_nil) (fun k skipped => ?_),
    ⟨?_, fun nodeId envelope member => by simp at member⟩,
    .starting rfl record pending rfl rfl first reached, rfl⟩
  · have still := (reached k .skipped skipped).2 (Nat.zero_le k)
    cases still
  · intro before effect after split nodeId envelope send
    cases before with
    | nil =>
      obtain ⟨same, -⟩ := List.cons.inj split
      rw [send] at same
      cases same
    | cons first before => simp at split

theorem isRunning_eq_false {e : Engine} {id : String} :
    e.isRunning id = false ↔ e.drives.get? id = none := by
  rw [isRunning, Dict.contains, Option.isSome_eq_false_iff, Option.isNone_iff_eq_none]

theorem chronicle_of_accepted {e : Engine} {scene : Scene} {moved : Engine × List Effect}
    (filed : e.Filed) (pending : op.status = .pending) (first : op.currentStep = 0)
    (fits : steps.length ≤ UInt64.size) (accepted : e.submit scene op cluster steps = .ok moved)
    (history : List (Scene × Event)) :
    let after := moved.1.run history
    let log := tenure (concerning op.id (moved.2 ++ after.2))
    Chronicle e.settings cluster steps op log ∧
      (after.1.isRunning op.id = false → ∃ last, Closed op log last) := by
  intro after log
  have filed' : moved.1.Filed := (Change.submits accepted).filed filed
  obtain ⟨-, -, -, same⟩ := submit_eq_ok.1 accepted
  have here : moved.1.drives.get? op.id = some (.submitted e.settings scene op cluster steps) := by
    rw [same]
    exact Dict.get?_insert_self ..
  have settings : moved.1.settings = e.settings := by rw [same]
  have save : moved.2 = [.save (Drive.submitted e.settings scene op cluster steps).op] := by rw [same]
  have opening : concerning op.id moved.2 = moved.2 := by
    apply concerning_all
    intro effect member
    rw [save, List.mem_singleton] at member
    rw [member]
    rfl
  have unfinished : Unfinished moved.2 := by
    intro last member
    rw [save] at member
    simp at member
  have joined : concerning op.id (moved.2 ++ after.2) = moved.2 ++ concerning op.id after.2 := by
    rw [concerning_append, opening]
  have split : log = moved.2 ++ tenure (concerning op.id after.2) := by
    rw [← tenure_append unfinished, ← joined]
  obtain ⟨b, acts, stands⟩ := run_running filed' here history
  have kept := kept_submitted e.settings scene cluster steps moved.1.identifiers.used pending first
  rw [settings] at acts
  obtain ⟨owner, kept'⟩ := acts.kept fits kept
  rw [← save, ← split] at kept'
  refine ⟨kept'.chronicle, fun idle => ?_⟩
  rcases stands with atEnd | ⟨d', running, -⟩
  · obtain ⟨point, drive, used⟩ := b
    have point' : point = .ended := atEnd
    subst point'
    cases kept'.stands with
    | ended closed => exact ⟨_, closed⟩
  · rw [isRunning_eq_false, running] at idle
    cases idle

end

/-- **The chronicle of a freshly created operation.** An engine that has been through anything accepts it
over any steps that 64 bits can count, as long as it does not drive it already. What it writes and sends
for it from then on, up to the end of the operation, is a chronicle at every moment. When the operation is
no longer running the chronicle is closed by its last record, and nothing more is done for it unless it
is submitted again. -/
theorem chronicle_of_submission (settings : Settings) (before : List (Scene × Event)) (scene : Scene)
    (id name : String) (type : OperationType) (clusterId : String) (parameters : Dict String)
    (createdAt : UInt64) (cluster : Cluster) (steps : List Step) (some : steps ≠ [])
    (fits : steps.length ≤ UInt64.size)
    (idle : ((started settings).run before).1.isRunning id = false) :
    let op := Operation.create id name type clusterId parameters createdAt
    ∃ submitted first,
      ((started settings).run before).1.submit scene op cluster steps = .ok (submitted, first) ∧
      ∀ history : List (Scene × Event),
        let after := submitted.run history
        let log := tenure (concerning id (first ++ after.2))
        Chronicle settings cluster steps op log ∧
        (after.1.isRunning id = false → (∃ last, Closed op log last) ∧
          ∀ later : List (Scene × Event),
            (∀ entry ∈ later, ∀ op cluster steps, entry.2 = .submit op cluster steps → op.id ≠ id) →
            concerning id (after.1.run later).2 = []) := by
  intro op
  have filed := filed_run (filed_started settings) before
  have same : ((started settings).run before).1.settings = settings := settings_run ..
  obtain ⟨⟨submitted, first⟩, accepted⟩ :
      ∃ moved, ((started settings).run before).1.submit scene op cluster steps = .ok moved :=
    ⟨_, submit_eq_ok.2 ⟨some, .inl rfl, isRunning_eq_false.1 idle, rfl⟩⟩
  refine ⟨submitted, first, accepted, fun history => ?_⟩
  obtain ⟨chronicle, closed⟩ := chronicle_of_accepted filed rfl rfl fits accepted history
  rw [same] at chronicle
  refine ⟨chronicle, fun atEnd => ⟨closed atEnd, fun later other => ?_⟩⟩
  have filed' := filed_run ((Change.submits accepted).filed filed) history
  exact (run_absent filed' (isRunning_eq_false.1 atEnd) later other).2

/-! ### An operation that is cancelled -/

namespace Sample

def operation : Operation := .create "op" "update" .upgrade "c" .empty 0

/-- A step that may be left out, and one for a single node. -/
def plan : List Step :=
  [{ Step.built "look" (fun _ _ _ => .error "no data") with ignoreDynamicError := true },
    .fixed "drain" [.forNode "drain b" "b" [.runCommand ⟨default, ["drain"], false⟩]]]

def submitted : Engine × List Effect :=
  ((started Sample.settings).submit scene operation default plan).toOption.getD (started Sample.settings, [])

/-- The node step of the second step sends its task, and then the operation is cancelled. -/
def history : List (Scene × Event) :=
  [(scene, .step "op"), (scene, .work "op" 1 0), (scene, .cancel "op"), (scene, .heed "op")]

def written : List Effect := tenure (concerning "op" (submitted.2 ++ (submitted.1.run history).2))

end Sample

open Sample in
theorem sample_chronicled :
    Chronicle Sample.settings default plan operation written ∧ (∃ last, Closed operation written last) ∧
      (records written).map Operation.statuses =
        [[.pending, .pending], [.pending, .pending], [.running, .pending], [.skipped, .pending],
          [.skipped, .running], [.skipped, .running], [.skipped, .error]] ∧
      written.length = 9 := by
  obtain ⟨e, first, accepted, all⟩ := chronicle_of_submission Sample.settings [] scene "op" "update" .upgrade
    "c" .empty 0 default plan (by simp [plan]) (by decide) rfl
  have same : submitted = (e, first) := by
    have computed : (started Sample.settings).submit scene operation default plan = .ok submitted := rfl
    exact Except.ok.inj (computed.symm.trans accepted)
  have e_eq : e = submitted.1 := by rw [same]
  have first_eq : first = submitted.2 := by rw [same]
  subst e_eq first_eq
  obtain ⟨chronicle, ends⟩ := all history
  exact ⟨chronicle, (ends rfl).1, rfl, rfl⟩

end Muster.Engine
