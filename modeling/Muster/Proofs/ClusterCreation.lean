import Muster.Plan
import Muster.Proofs.Envelope
import Muster.Proofs.Trace

/-!
# Nodes join only what is there

A cluster is created in a fixed order of steps, and all of them but the last are strict. So when a node
is asked to join, every machine has been prepared, and the control plane has been started on the first
master; when a worker is asked, all the other masters have joined (`joins_follow_preparation`).
-/

set_option autoImplicit false

namespace Muster

/-! ### The plan -/

namespace Plan

/-- The steps that prepare every machine, each with the task that it has for a machine. -/
def preparing (c : Cluster) : List (String × (Machine → Task)) :=
  [("bootstrap", fun _ => bootstrap), ("rename", rename), ("hosts", fun _ => hosts c),
    ("container-runtime", fun _ => runtime c .creating)] ++
  if c.spec.lbEnabled then [("load-balancer", fun _ => loadBalancer c .creating)] else []

/-- A step that prepares every machine. -/
def prepare (c : Cluster) (entry : String × (Machine → Task)) : Step :=
  perMachine entry.1 c.machines fun m => [entry.2 m]

/-- Starts the control plane. -/
def initialise (c : Cluster) (first : Machine) : Task :=
  .kubeadmInit ⟨.creating, (controlPlaneConfig c first).toUTF8⟩

/-- The step that starts the control plane on the first master. -/
def startStep (c : Cluster) (first : Machine) : Step :=
  (Step.fixed "init-control-plane" [.forNode "kubeadm-init" first.id [initialise c first]]).withPolicy
    (.strict true)

/-- The step in which the other masters join. -/
def mastersStep (first : Machine) : Step := .built "join-control-plane" (joinMasters first.id)

/-- The step in which the workers join. -/
def workersStep : Step :=
  (Step.built "join-workers" fun data c _ => joinWorkers data c (c.workers.map Machine.id)).withPolicy
    .minority

/-- The steps that create a cluster. -/
def creation (c : Cluster) (first : Machine) : List Step :=
  (preparing c).map (prepare c) ++ [startStep c first, mastersStep first, workersStep]

variable {c : Cluster} {first : Machine} {others : List Machine} {k : Nat} {step : Step}

theorem createCluster_eq (masters : c.masters = first :: others) :
    createCluster c = .ok (creation c first) := by
  have here : firstMaster c = .ok first := by rw [firstMaster, masters]
  have steps : balancerSteps c c.machines = (if c.spec.lbEnabled then
      [("load-balancer", fun _ => loadBalancer c .creating)] else []).map (prepare c) := by
    rw [balancerSteps]
    split <;> rfl
  rw [createCluster, here, creation, preparing, List.map_append, ← steps]
  rfl

/-- Every step of the plan is one of those that prepare, or one of the last three. -/
theorem creation_cases (here : (creation c first)[k]? = some step) :
    (∃ entry ∈ preparing c, step = prepare c entry) ∨
    (k = (preparing c).length ∧ step = startStep c first) ∨
    (k = (preparing c).length + 1 ∧ step = mastersStep first) ∨
    (k = (preparing c).length + 2 ∧ step = workersStep) := by
  rw [creation] at here
  by_cases early : k < (preparing c).length
  · rw [List.getElem?_append_left (by simpa using early), List.getElem?_map, Option.map_eq_some_iff] at here
    obtain ⟨entry, found, rfl⟩ := here
    exact .inl ⟨entry, List.mem_of_getElem? found, rfl⟩
  · obtain ⟨j, rfl⟩ := Nat.exists_eq_add_of_le (Nat.le_of_not_lt early)
    rw [List.getElem?_append_right (by simp), List.length_map, Nat.add_sub_cancel_left] at here
    match j, here with
    | 0, here => exact .inr (.inl ⟨rfl, (Option.some.inj here).symm⟩)
    | 1, here => exact .inr (.inr (.inl ⟨rfl, (Option.some.inj here).symm⟩))
    | 2, here => exact .inr (.inr (.inr ⟨rfl, (Option.some.inj here).symm⟩))

theorem creation_preparing {entry : String × (Machine → Task)} (found : (preparing c)[k]? = some entry) :
    (creation c first)[k]? = some (prepare c entry) := by
  have early : k < ((preparing c).map (prepare c)).length := by
    rw [List.length_map]
    exact (List.getElem?_eq_some_iff.1 found).1
  rw [creation, List.getElem?_append_left early, List.getElem?_map, found]
  rfl

theorem creation_last (j : Nat) : (creation c first)[(preparing c).length + j]? =
    [startStep c first, mastersStep first, workersStep][j]? := by
  rw [creation, List.getElem?_append_right (by simp), List.length_map, Nat.add_sub_cancel_left]

/-! ### Who is called -/

/-- With the first master among them, the others are those with another id. -/
theorem others_eq (masters : c.masters = first :: others) (distinct : (c.machines.map Machine.id).Nodup) :
    (c.masters.filter fun m => m.id ≠ first.id) = others := by
  have once : (c.masters.map Machine.id).Nodup := distinct.sublist (List.filter_sublist.map Machine.id)
  rw [masters, List.map_cons, List.nodup_cons] at once
  rw [masters, List.filter_cons_of_neg (by simp), List.filter_eq_self]
  intro m member
  have differ : m.id ≠ first.id := fun same => once.1 (same ▸ List.mem_map_of_mem member)
  exact decide_eq_true differ

/-- The node steps of the other masters carry the command that was returned. -/
theorem mem_joinMasters {data : ReturnData} {nodeSteps : List NodeStep}
    (masters : c.masters = first :: others) (distinct : (c.machines.map Machine.id).Nodup)
    (op : Operation) (yields : joinMasters first.id data c op = .ok nodeSteps) :
    nodeSteps.map NodeStep.nodeId = others.map Machine.id ∧
    ∀ n ∈ nodeSteps, ∃ command, data.get? ReturnKey.joinControlPlane = some command ∧
      n.tasks = [.joinControlPlane ⟨.creating, command⟩] := by
  rw [joinMasters, others_eq masters distinct] at yields
  cases others with
  | nil =>
    cases yields
    exact ⟨rfl, fun n member => nomatch member⟩
  | cons m rest =>
    simp only [returned] at yields
    cases found : data.get? ReturnKey.joinControlPlane with
    | none =>
      rw [found] at yields
      cases yields
    | some command =>
      rw [found] at yields
      cases yields
      refine ⟨by simp [NodeStep.forNode], fun n member => ⟨command, rfl, ?_⟩⟩
      obtain ⟨other, -, rfl⟩ := List.mem_map.1 member
      rfl

/-- The node steps of the workers carry the command that was returned. -/
theorem mem_joinWorkers {data : ReturnData} {ids : List String} {nodeSteps : List NodeStep}
    (yields : joinWorkers data c ids = .ok nodeSteps) :
    nodeSteps.map NodeStep.nodeId = ids ∧
    ∀ n ∈ nodeSteps, ∃ command, data.get? ReturnKey.joinWorker = some command ∧
      n.tasks = [.joinWorker ⟨.creating, command, localEndpoint c⟩] := by
  rw [joinWorkers] at yields
  split at yields
  · next none =>
    cases yields
    exact ⟨by rw [List.isEmpty_iff.1 none]; rfl, fun n member => nomatch member⟩
  · simp only [returned] at yields
    cases found : data.get? ReturnKey.joinWorker with
    | none =>
      rw [found] at yields
      cases yields
    | some command =>
      rw [found] at yields
      cases yields
      refine ⟨by simp [NodeStep.forNode, Function.comp_def], fun n member => ⟨command, rfl, ?_⟩⟩
      obtain ⟨other, -, rfl⟩ := List.mem_map.1 member
      rfl

/-! ### What the steps ask for -/

/-- Preparing a machine neither starts a control plane nor joins one. -/
theorem kind_of_preparing {entry : String × (Machine → Task)} (listed : entry ∈ preparing c) (m : Machine) :
    (entry.2 m).kind ≠ .kubeadmInit ∧ (entry.2 m).kind ≠ .joinControlPlane ∧
      (entry.2 m).kind ≠ .joinWorker := by
  rw [preparing, List.mem_append] at listed
  rcases listed with always | balanced
  · simp only [List.mem_cons, List.not_mem_nil, or_false] at always
    rcases always with rfl | rfl | rfl | rfl
    all_goals exact ⟨nofun, nofun, nofun⟩
  · split at balanced
    · rw [List.mem_singleton.1 balanced]
      exact ⟨nofun, nofun, nofun⟩
    · cases balanced

/-- No step of the plan calls on a machine twice. -/
theorem distinct_creation (masters : c.masters = first :: others)
    (distinct : (c.machines.map Machine.id).Nodup) : Engine.Distinct c (creation c first) := by
  intro step listed record nodeSteps yields
  obtain ⟨k, here⟩ := List.getElem?_of_mem listed
  rcases creation_cases here with ⟨entry, -, rfl⟩ | ⟨-, rfl⟩ | ⟨-, rfl⟩ | ⟨-, rfl⟩
  · cases yields
    rw [List.map_map]
    exact distinct
  · cases yields
    exact List.nodup_singleton _
  · obtain ⟨ids, -⟩ := mem_joinMasters masters distinct record yields
    have once : (c.masters.map Machine.id).Nodup := distinct.sublist (List.filter_sublist.map Machine.id)
    rw [masters] at once
    rw [ids]
    exact (List.nodup_cons.1 once).2
  · obtain ⟨ids, -⟩ := mem_joinWorkers yields
    rw [ids]
    exact distinct.sublist (List.filter_sublist.map Machine.id)

end Plan

namespace Engine

/-! ### Steps that have succeeded -/

/-- A node was sent a task for an operation, and answered with success. -/
def Achieved (id : String) (log : List Entry) (nodeId : String) (task : Task) : Prop :=
  ∃ envelope, envelope.operationId = id ∧ envelope.task = .ok task ∧ Confirmed log nodeId envelope

/-- A node has done its task in a step, and is on record as having succeeded there. -/
structure Succeeded (steps : List Step) (id : String) (log : List Entry) (name nodeId : String)
    (task : Task) : Prop where
  achieved : Achieved id log nodeId task
  recorded : ∃ (k : Nat) (record : Operation) (state : StepState),
    (steps.map Step.name)[k]? = some name ∧ record ∈ saved id log ∧ record.steps[k]? = some state ∧
    state.succeeded.contains nodeId = true

/-- The command was under a key of the returned data when a step was built. -/
def BuiltWith (steps : List Step) (id : String) (log : List Entry) (name key command : String) : Prop :=
  ∃ k record, (steps.map Step.name)[k]? = some name ∧
    (saved id log).find? (Operation.shows k) = some record ∧ record.returnData.get? key = some command

section

variable {s : Settings} {cluster : Cluster} {steps : List Step} {op : Operation} {log : List Entry}
  {k : Nat} {step : Step} {n : NodeStep} {nodeSteps : List NodeStep} {nodeId : String}
  {envelope : Envelope} {task : Task}

theorem task_of_envelope (c : RoundContext) (id : String) (k : Nat) (task : Task) :
    (Exchange.envelope s c id k task).task = .ok task := Envelope.task_of_payload rfl rfl

theorem mem_saved {record : Operation} (saves : .did (.save record) ∈ log) (own : record.id = op.id) :
    record ∈ saved op.id log := by
  refine List.mem_filterMap.2 ⟨.save record, List.mem_filter.2 ⟨?_, decide_eq_true own⟩, rfl⟩
  exact List.mem_filterMap.2 ⟨_, saves, rfl⟩

/-- A node step that was performed has had each of its tasks done. -/
theorem Performed.achieved (performed : Performed s op log n) (listed : task ∈ n.tasks) :
    Achieved op.id log n.nodeId task := by
  obtain ⟨c, id, operation, through⟩ := performed
  obtain ⟨k, here⟩ := List.getElem?_of_mem listed
  have below : k < n.tasks.length := (List.getElem?_eq_some_iff.1 here).1
  exact ⟨_, operation, task_of_envelope c id k task, through k task below here⟩

/-- The envelope carries a task of a node step to the node of that node step. -/
theorem Grounds.mem_tasks (grounds : Grounds s cluster steps op log k n nodeId envelope)
    (asks : envelope.task = .ok task) : nodeId = n.nodeId ∧ task ∈ n.tasks := by
  obtain ⟨c, id, position, other, here, same⟩ := grounds.carries
  cases same
  rw [task_of_envelope] at asks
  obtain rfl := Except.ok.inj asks
  exact ⟨rfl, List.mem_of_getElem? here⟩

/-- **A strict step is passed with all its node steps succeeded.** -/
theorem Passed.succeeded {abortFirst : Bool} (passed : Passed s cluster op log k step)
    (here : steps[k]? = some step) (needed : step.ignoreDynamicError = false)
    (strict : step.policyIn op.type = .strict abortFirst) (distinct : Distinct cluster steps) :
    ∃ record nodeSteps, step.workload.yield cluster record = .ok nodeSteps ∧
      ∀ n ∈ nodeSteps, ∀ task ∈ n.tasks, Succeeded steps op.id log step.name n.nodeId task := by
  cases passed with
  | skipped ignored =>
    rw [needed] at ignored
    cases ignored
  | proceeded built record nodeSteps state yields saves own there credits everybody =>
    have once := distinct step (List.mem_of_getElem? here) built nodeSteps yields
    refine ⟨built, nodeSteps, yields, fun n listed task asked => ?_⟩
    have succeeded := everybody abortFirst strict n listed
    obtain ⟨n', listed', node, performed⟩ := credits n.nodeId succeeded
    obtain rfl := List.inj_on_of_nodup_map once listed' listed node
    have named : (steps.map Step.name)[k]? = some step.name := by rw [List.getElem?_map, here]; rfl
    exact ⟨performed.achieved asked, k, record, state, named, mem_saved saves own, there,
      StepState.contains_succeeded_iff.2 succeeded⟩

end

/-! ### What a task rests on -/

/-- What is so when a node is sent a task by the steps that create a cluster. -/
structure Due (c : Cluster) (first : Machine) (others : List Machine) (id : String) (log : List Entry)
    (nodeId : String) (task : Task) : Prop where
  prepared : task.kind = .joinControlPlane ∨ task.kind = .joinWorker →
    ∀ entry ∈ Plan.preparing c, ∀ m ∈ c.machines,
      Succeeded (Plan.creation c first) id log entry.1 m.id (entry.2 m)
  started : task.kind = .joinControlPlane ∨ task.kind = .joinWorker →
    Succeeded (Plan.creation c first) id log "init-control-plane" first.id (Plan.initialise c first)
  joined : task.kind = .joinWorker → ∀ m ∈ others, ∃ command,
    Succeeded (Plan.creation c first) id log "join-control-plane" m.id
      (.joinControlPlane ⟨.creating, command⟩)
  alone : task.kind = .kubeadmInit → nodeId = first.id
  masterCommand : ∀ join, task = .joinControlPlane join → BuiltWith (Plan.creation c first) id log
    "join-control-plane" ReturnKey.joinControlPlane join.joinCommand
  workerCommand : ∀ join, task = .joinWorker join → BuiltWith (Plan.creation c first) id log
    "join-workers" ReturnKey.joinWorker join.joinCommand

section

open Plan

variable {s : Settings} {c : Cluster} {first : Machine} {others : List Machine} {op : Operation}
  {log : List Entry} {k : Nat} {n : NodeStep} {nodeId : String} {envelope : Envelope} {task : Task}
  (masters : c.masters = first :: others) (distinct : (c.machines.map Machine.id).Nodup)
  (creates : op.type = .createCluster)
  (past : ∀ i < k, ∃ step, (creation c first)[i]? = some step ∧ Passed s c op log i step)

include past in
theorem passed_of_past {i : Nat} {step : Step} (early : i < k) (here : (creation c first)[i]? = some step) :
    Passed s c op log i step := by
  obtain ⟨other, there, passed⟩ := past i early
  obtain rfl := Option.some.inj (here.symm.trans there)
  exact passed

include masters distinct creates past in
theorem succeeded_preparing (after : (preparing c).length ≤ k) {entry : String × (Machine → Task)}
    (listed : entry ∈ preparing c) {m : Machine} (member : m ∈ c.machines) :
    Succeeded (creation c first) op.id log entry.1 m.id (entry.2 m) := by
  obtain ⟨i, found⟩ := List.getElem?_of_mem listed
  have early : i < (preparing c).length := (List.getElem?_eq_some_iff.1 found).1
  have here : (creation c first)[i]? = some (prepare c entry) := creation_preparing found
  have strict : (prepare c entry).policyIn op.type = .strict false := by
    rw [creates]
    rfl
  obtain ⟨record, nodeSteps, yields, succeeded⟩ :=
    (passed_of_past past (early.trans_le after) here).succeeded here rfl strict
      (distinct_creation masters distinct)
  cases yields
  exact succeeded (.forNode entry.1 m.id [entry.2 m]) (List.mem_map_of_mem member) _
    (List.mem_singleton_self _)

include masters distinct past in
theorem succeeded_start (after : (preparing c).length < k) :
    Succeeded (creation c first) op.id log "init-control-plane" first.id (initialise c first) := by
  have here : (creation c first)[(preparing c).length]? = some (startStep c first) := creation_last 0
  obtain ⟨record, nodeSteps, yields, succeeded⟩ :=
    (passed_of_past past after here).succeeded here rfl rfl (distinct_creation masters distinct)
  cases yields
  exact succeeded _ (List.mem_singleton_self _) _ (List.mem_singleton_self _)

include masters distinct creates past in
theorem succeeded_masters (after : (preparing c).length + 1 < k) {m : Machine} (member : m ∈ others) :
    ∃ command, Succeeded (creation c first) op.id log "join-control-plane" m.id
      (.joinControlPlane ⟨.creating, command⟩) := by
  have here : (creation c first)[(preparing c).length + 1]? = some (mastersStep first) := creation_last 1
  have strict : (mastersStep first).policyIn op.type = .strict false := by
    rw [creates]
    rfl
  obtain ⟨record, nodeSteps, yields, succeeded⟩ :=
    (passed_of_past past after here).succeeded here rfl strict (distinct_creation masters distinct)
  obtain ⟨ids, commands⟩ := mem_joinMasters masters distinct record yields
  have called : m.id ∈ nodeSteps.map NodeStep.nodeId := ids ▸ List.mem_map_of_mem member
  obtain ⟨n, listed, node⟩ := List.mem_map.1 called
  obtain ⟨command, -, tasks⟩ := commands n listed
  rw [← node]
  exact ⟨command, succeeded n listed _ (tasks ▸ List.mem_singleton_self _)⟩

include masters distinct creates in
/-- A task that has its grounds is due. -/
theorem Grounds.due (grounds : Grounds s c (creation c first) op log k n nodeId envelope)
    (asks : envelope.task = .ok task) : Due c first others op.id log nodeId task := by
  obtain ⟨rfl, asked⟩ := grounds.mem_tasks asks
  obtain ⟨step, nodeSteps, record, here, showing, yields, listed⟩ := grounds.built
  have past := grounds.past
  have named : ((creation c first).map Step.name)[k]? = some step.name := by
    rw [List.getElem?_map, here]
    rfl
  rcases creation_cases here with ⟨entry, prepares, rfl⟩ | ⟨rfl, rfl⟩ | ⟨rfl, rfl⟩ | ⟨rfl, rfl⟩
  · cases yields
    obtain ⟨m, -, rfl⟩ := List.mem_map.1 listed
    obtain rfl := List.mem_singleton.1 asked
    obtain ⟨noInit, noMaster, noWorker⟩ := kind_of_preparing prepares m
    have neither : ¬ ((entry.2 m).kind = .joinControlPlane ∨ (entry.2 m).kind = .joinWorker) :=
      not_or.2 ⟨noMaster, noWorker⟩
    exact ⟨fun joins => absurd joins neither, fun joins => absurd joins neither,
      fun joins => absurd joins noWorker, fun inits => absurd inits noInit,
      fun join same => absurd (congrArg Task.kind same) noMaster,
      fun join same => absurd (congrArg Task.kind same) noWorker⟩
  · cases yields
    obtain rfl := List.mem_singleton.1 listed
    obtain rfl := List.mem_singleton.1 asked
    exact ⟨nofun, nofun, nofun, fun _ => rfl, nofun, nofun⟩
  · obtain ⟨-, commands⟩ := mem_joinMasters masters distinct record yields
    obtain ⟨command, returned, tasks⟩ := commands n listed
    rw [tasks] at asked
    obtain rfl := List.mem_singleton.1 asked
    refine ⟨fun _ entry prepares m member => ?_, fun _ => ?_, nofun, nofun, fun join same => ?_, nofun⟩
    · exact succeeded_preparing masters distinct creates past (Nat.le_succ _) prepares member
    · exact succeeded_start masters distinct past (Nat.lt_succ_self _)
    · cases same
      exact ⟨_, record, named, showing, returned⟩
  · obtain ⟨-, commands⟩ := mem_joinWorkers yields
    obtain ⟨command, returned, tasks⟩ := commands n listed
    rw [tasks] at asked
    obtain rfl := List.mem_singleton.1 asked
    refine ⟨fun _ entry prepares m member => ?_, fun _ => ?_, fun _ m member => ?_, nofun, nofun,
      fun join same => ?_⟩
    · exact succeeded_preparing masters distinct creates past (by omega) prepares member
    · exact succeeded_start masters distinct past (by omega)
    · exact succeeded_masters masters distinct creates past (Nat.lt_succ_self _) member
    · cases same
      exact ⟨_, record, named, showing, returned⟩

end

/-- **Nodes join only what is there.** A cluster has a master, and its machines have different ids. An
engine that may have been through anything accepts the operation that creates it. Whatever happens from
then on, each task that is sent for this operation is due, until it ends, and for ever if it is not
submitted again: a join has every machine prepared before it and the control plane started on the first
master, the workers join after all the other masters, the control plane starts nowhere else, and a join
carries the command that was among the returned data when its step was built. -/
theorem joins_follow_preparation (settings : Settings) (before : List (Scene × Event)) (scene : Scene)
    (op : Operation) (cluster : Cluster) (first : Machine) (others : List Machine)
    (creates : op.type = .createCluster) (masters : cluster.masters = first :: others)
    (distinct : (cluster.machines.map Machine.id).Nodup) :
    Plan.createCluster cluster = .ok (Plan.creation cluster first) ∧
    ∀ submitted opening, ((started settings).run before).1.submit scene op cluster
        (Plan.creation cluster first) = .ok (submitted, opening) →
      ∀ (history : List (Scene × Event)) (earlier later : List Entry) (nodeId : String)
        (envelope : Envelope) (task : Task),
        opening.map .did ++ submitted.trace history = earlier ++ .did (.send nodeId envelope) :: later →
        (¬ Ended op.id earlier ∨ ∀ entry ∈ history, ∀ other cluster steps,
          entry.2 = .submit other cluster steps → other.id ≠ op.id) →
        envelope.operationId = op.id → envelope.task = .ok task →
        Due cluster first others op.id earlier nodeId task := by
  refine ⟨Plan.createCluster_eq masters, fun submitted opening accepted => ?_⟩
  intro history earlier later nodeId envelope task split goesOn own asks
  have healthy := (healthy_started settings).run before
  have goesOn' : ¬ Ended op.id earlier :=
    goesOn.elim id fun once => not_ended_of_send healthy accepted once split own
  obtain ⟨k, n, grounds⟩ :=
    grounds_of_send healthy (Plan.distinct_creation masters distinct) accepted split goesOn' own
  exact grounds.due masters distinct creates asks

/-! ### A cluster of two machines

Replies reach an engine in their written form. What it makes of them is what it makes of the replies
themselves (`run_events`), so a run can be followed without reading anything. -/

/-- What may happen to an engine, with replies as they are before they are written. -/
inductive Stimulus where
  | reply (r : Reply)
  | event (e : Event)

def Stimulus.toEvent : Stimulus → Event
  | .reply r => .receive r.encode
  | .event e => e

/-- What an engine becomes, and what it adds to the trace. -/
def respond (e : Engine) (scene : Scene) : Stimulus → Engine × List Entry
  | .reply r => if e.routing then ({ e with router := (e.router.route r).2 }, [.heard r]) else (e, [])
  | .event event => ((e.next scene event).1, e.intake event ++ (e.next scene event).2.map .did)

def rehearse (e : Engine) (scene : Scene) : List Stimulus → Engine × List Entry
  | [] => (e, [])
  | stimulus :: rest =>
    let (e, entries) := e.respond scene stimulus
    let (e, later) := e.rehearse scene rest
    (e, entries ++ later)

/-- The events that stimuli are, all at the same moment. -/
def Stimulus.events (scene : Scene) (stimuli : List Stimulus) : List (Scene × Event) :=
  stimuli.map fun stimulus => (scene, stimulus.toEvent)

theorem respond_eq (e : Engine) (scene : Scene) (stimulus : Stimulus) :
    e.respond scene stimulus = ((e.next scene stimulus.toEvent).1,
      e.intake stimulus.toEvent ++ (e.next scene stimulus.toEvent).2.map .did) := by
  cases stimulus with
  | event event => rfl
  | reply r =>
    simp only [Stimulus.toEvent, respond, intake, next, receive, ReplyRouter.receive,
      Reply.decode_encode_self]
    split <;> rfl

theorem run_events (e : Engine) (scene : Scene) (stimuli : List Stimulus) :
    (e.run (Stimulus.events scene stimuli)).1 = (e.rehearse scene stimuli).1 ∧
      e.trace (Stimulus.events scene stimuli) = (e.rehearse scene stimuli).2 := by
  induction stimuli generalizing e with
  | nil => exact ⟨rfl, rfl⟩
  | cons stimulus rest ih =>
    obtain ⟨reached, traced⟩ := ih (e.next scene stimulus.toEvent).1
    simp only [rehearse, respond_eq, ← reached, ← traced]
    exact ⟨rfl, rfl⟩

namespace Rollout

def settings : Settings := ⟨"h1", 30000, 0, ""⟩

def scene : Scene := ⟨0, fun _ => true, fun _ => false⟩

def master : Machine := ⟨"m", "m1", "10.0.0.1", .master, "", .running⟩

def worker : Machine := ⟨"w", "w1", "10.0.0.2", .worker, "", .running⟩

def cluster : Cluster :=
  ⟨"c", "prod", "1.30.0", { ClusterSpec.standard with lbEnabled := false }, [master, worker]⟩

def operation : Operation := .create "op" "set up" .createCluster "c" .empty 0

def submitted : Engine × List Effect :=
  ((started settings).submit scene operation cluster (Plan.creation cluster master)).toOption.getD
    (started settings, [])

/-- What the master returns when the control plane has been started. -/
def returned : ReturnData := Dict.ofList [(ReturnKey.joinWorker, "kubeadm join")]

/-- A node does its task, and the round takes note of it. -/
def turn (round number index : Nat) (nodeId : String) (data : ReturnData) : List Stimulus :=
  [.event (.work "op" round index),
    .reply ⟨"op", .successful, "", data, nodeId, Identifiers.text number, 0⟩,
    .event (.work "op" round index), .event (.step "op")]

/-- Both machines do what a step has for them. -/
def turns (round number : Nat) : List Stimulus :=
  turn round number 0 "m" .empty ++ turn round (number + 1) 1 "w" .empty

/-- Both machines are prepared, and the control plane is started. -/
def stimuli : List Stimulus :=
  .event (.step "op") :: (turns 1 0 ++ turns 2 2 ++ turns 3 4 ++ turns 4 6 ++ turn 5 8 0 "m" returned)

def history : List (Scene × Event) := Stimulus.events scene stimuli

def earlier : List Entry := submitted.2.map .did ++ submitted.1.trace history

def join : Task := .joinWorker ⟨.creating, "kubeadm join", Plan.localEndpoint cluster⟩

def envelope : Envelope :=
  Exchange.envelope settings ⟨"op", cluster, returned⟩ (Identifiers.text 9) 0 join

/-- An entry that ends no operation. -/
def goesOn : Entry → Bool
  | .did (.finish _) => false
  | _ => true

end Rollout

open Rollout in
/-- Once both machines are prepared and the control plane is started, the worker is asked to join. -/
theorem sample_worker_joins :
    submitted.2.map .did ++ submitted.1.trace (history ++ [(scene, .work "op" 7 0)])
        = earlier ++ [.did (.send "w" envelope)] ∧
      Due cluster master [] "op" earlier "w" join := by
  obtain ⟨reached, traced⟩ := run_events submitted.1 Rollout.scene stimuli
  have sent : (submitted.1.run history).1.trace [(Rollout.scene, .work "op" 7 0)]
      = [.did (.send "w" envelope)] := by
    rw [history, reached]
    rfl
  have split : submitted.2.map .did ++ submitted.1.trace (history ++ [(Rollout.scene, .work "op" 7 0)])
      = earlier ++ [.did (.send "w" envelope)] := by
    rw [trace_append, sent, ← List.append_assoc, earlier]
  have accepted : (started Rollout.settings).submit Rollout.scene Rollout.operation cluster
      (Plan.creation cluster master) = .ok (submitted.1, submitted.2) := rfl
  have underWay : earlier.all goesOn = true := by
    rw [earlier, history, traced]
    rfl
  have unfinished : ¬ Ended "op" earlier := by
    rintro ⟨last, member, -⟩
    exact nomatch List.all_eq_true.1 underWay _ member
  obtain ⟨-, due⟩ := joins_follow_preparation Rollout.settings [] Rollout.scene Rollout.operation cluster
    master [] rfl rfl (by decide)
  exact ⟨split, due submitted.1 submitted.2 accepted _ earlier [] "w" envelope join split (.inl unfinished)
    rfl (task_of_envelope ..)⟩

end Engine

end Muster
