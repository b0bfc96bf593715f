import Muster.Proofs.ClusterCreation
import Muster.Proofs.Draining

/-!
# Whom the steps of a plan call on

The steps that create a cluster prepare every machine, and then the last three share the machines among
them: the first master, the other masters, the workers (`machines_join_once`). A plan for a request calls
on machines of the cluster only. Those that a request names are called on as often as they are named, so
no step calls on a machine twice exactly if the request names none twice (`called_once_iff`).
-/

set_option autoImplicit false

namespace Muster

namespace Step

/-- The nodes that a step calls on, for an operation with what it has returned so far. -/
def callees (step : Step) (c : Cluster) (op : Operation) : Except String (List String) :=
  (step.workload.yield c op).map fun nodeSteps => nodeSteps.map NodeStep.nodeId

variable {step : Step} {c : Cluster} {op : Operation} {nodeSteps : List NodeStep} {called : List String}

theorem callees_eq_ok_iff : step.callees c op = .ok called ↔
    ∃ nodeSteps, step.workload.yield c op = .ok nodeSteps ∧ nodeSteps.map NodeStep.nodeId = called := by
  rw [callees]
  cases step.workload.yield c op with
  | error reason => exact ⟨nofun, nofun⟩
  | ok nodeSteps => simp [Except.map]

@[simp] theorem callees_fixed (name : String) (nodeSteps : List NodeStep) (c : Cluster) (op : Operation) :
    (Step.fixed name nodeSteps).callees c op = .ok (nodeSteps.map NodeStep.nodeId) := rfl

end Step

namespace Plan

variable {c : Cluster} {op : Operation} {first : Machine} {others machines : List Machine}
  {steps : List Step} {step : Step} {data : ReturnData} {command : String} {ids called : List String}

@[simp] theorem callees_perMachine (name : String) (machines : List Machine) (tasks : Machine → List Task)
    (c : Cluster) (op : Operation) :
    (perMachine name machines tasks).callees c op = .ok (machines.map Machine.id) := by
  simp [perMachine, NodeStep.forNode, Function.comp_def]

/-! ### A cluster that is created -/

theorem joinMasters_eq (masters : c.masters = first :: others)
    (distinct : (c.machines.map Machine.id).Nodup)
    (op : Operation) (returns : data.get? ReturnKey.joinControlPlane = some command) :
    joinMasters first.id data c op = .ok (others.map fun m =>
      .forNode "join-control-plane" m.id [.joinControlPlane ⟨.creating, command⟩]) := by
  rw [joinMasters, others_eq masters distinct, returned, returns]
  cases others <;> rfl

theorem joinWorkers_eq (returns : data.get? ReturnKey.joinWorker = some command) :
    joinWorkers data c ids = .ok (ids.map fun id =>
      .forNode "join-worker" id [.joinWorker ⟨.creating, command, localEndpoint c⟩]) := by
  rw [joinWorkers, returned, returns]
  cases ids <;> rfl

/-- Every machine is a master or a worker. -/
theorem masters_append_workers_perm (c : Cluster) : (c.masters ++ c.workers).Perm c.machines := by
  have workers : c.workers = c.machines.filter fun m => !decide (m.role = .master) := by
    refine List.filter_congr fun m _ => ?_
    cases m.role <;> rfl
  rw [workers]
  exact List.filter_append_perm (fun m => decide (m.role = .master)) c.machines

/-- **Every machine joins once.** A cluster has a master, its machines have different ids, and both join
commands have been returned. The steps that create it first call on all machines, one by one; a balancer
is among these steps exactly if the cluster has one. Then the control plane is started on the first
master, the other masters join, and the workers join, and these three share all machines among them. The
workers reach the control plane through the balancer of their own machine, or where there is none at the
address of the cluster. -/
theorem machines_join_once (c : Cluster) (op : Operation) (forMasters forWorkers : String)
    (governed : c.masters ≠ []) (distinct : (c.machines.map Machine.id).Nodup)
    (master : op.returnData.get? ReturnKey.joinControlPlane = some forMasters)
    (worker : op.returnData.get? ReturnKey.joinWorker = some forWorkers) :
    ∃ (first : Machine) (others : List Machine) (early : List Step) (start masters workers : Step),
      c.masters = first :: others ∧
      createCluster c = .ok (early ++ [start, masters, workers]) ∧
      early.map Step.name = ["bootstrap", "rename", "hosts", "container-runtime"] ++
        (if c.spec.lbEnabled then ["load-balancer"] else []) ∧
      [start, masters, workers].map Step.name =
        ["init-control-plane", "join-control-plane", "join-workers"] ∧
      (∀ step ∈ early, step.callees c op = .ok (c.machines.map Machine.id)) ∧
      start.callees c op = .ok [first.id] ∧
      masters.workload.yield c op = .ok (others.map fun m =>
        .forNode "join-control-plane" m.id [.joinControlPlane ⟨.creating, forMasters⟩]) ∧
      workers.workload.yield c op = .ok (c.workers.map fun m =>
        .forNode "join-worker" m.id [.joinWorker ⟨.creating, forWorkers,
          if c.spec.lbEnabled then "127.0.0.1:" ++ Text.decimal c.spec.lbPort.toNat
          else c.apiEndpoint⟩]) ∧
      ([first.id] ++ others.map Machine.id ++ c.workers.map Machine.id).Nodup ∧
      ([first.id] ++ others.map Machine.id ++ c.workers.map Machine.id).Perm
        (c.machines.map Machine.id) := by
  obtain ⟨first, others, masters⟩ := List.exists_cons_of_ne_nil governed
  have shared : ([first.id] ++ others.map Machine.id ++ c.workers.map Machine.id).Perm
      (c.machines.map Machine.id) := by
    have parted := (masters_append_workers_perm c).map Machine.id
    rwa [masters, List.map_append] at parted
  refine ⟨first, others, (preparing c).map (prepare c), startStep c first, mastersStep first, workersStep,
    masters, createCluster_eq masters, ?_, rfl, ?_, rfl, joinMasters_eq masters distinct op master, ?_,
    shared.nodup_iff.2 distinct, shared⟩
  · rw [preparing]
    split <;> rfl
  · intro step member
    obtain ⟨entry, -, rfl⟩ := List.mem_map.1 member
    exact callees_perMachine entry.1 c.machines _ c op
  · have joins : workersStep.workload.yield c op = .ok ((c.workers.map Machine.id).map fun id =>
        .forNode "join-worker" id [.joinWorker ⟨.creating, forWorkers, localEndpoint c⟩]) :=
      joinWorkers_eq worker
    rw [joins, List.map_map]
    rfl

namespace Sample

def machine (id name : String) (role : Role) : Machine := ⟨id, name, "10.0.0.1", role, "", .running⟩

/-- Two masters between two workers, with a balancer. -/
def mixed : Cluster :=
  ⟨"c", "prod", "1.30.0", { ClusterSpec.standard with lbEnabled := true },
    [machine "w" "w1" .worker, machine "m" "m1" .master, machine "n" "m2" .master,
      machine "x" "w2" .worker]⟩

/-- An operation to which both join commands have been returned. -/
def creating : Operation :=
  { Operation.create "op" "set up" .createCluster "c" .empty 0 with
    returnData := Dict.ofList
      [(ReturnKey.joinControlPlane, "join as master"), (ReturnKey.joinWorker, "join as worker")] }

end Sample

open Sample in
/-- The first master starts, the second one joins it, and then the workers do. -/
theorem mixed_machines_join : ∃ early start masters workers,
    createCluster mixed = .ok (early ++ [start, masters, workers]) ∧
      (∀ step ∈ early, step.callees mixed creating = .ok ["w", "m", "n", "x"]) ∧
      start.callees mixed creating = .ok ["m"] ∧ masters.callees mixed creating = .ok ["n"] ∧
      workers.callees mixed creating = .ok ["w", "x"] := by
  obtain ⟨first, others, early, start, masters, workers, ordered, created, -, -, all, starts, join, follow,
    -⟩ := machines_join_once mixed creating "join as master" "join as worker" (by decide) (by decide)
      (by decide) (by decide)
  have governing : mixed.masters = [machine "m" "m1" .master, machine "n" "m2" .master] := by decide
  obtain ⟨rfl, rfl⟩ := List.cons.inj (governing.symm.trans ordered)
  exact ⟨early, start, masters, workers, created, all, starts,
    Step.callees_eq_ok_iff.2 ⟨_, join, rfl⟩, Step.callees_eq_ok_iff.2 ⟨_, follow, rfl⟩⟩

/-! ### The machines that a request names -/

/-- The ids that a request names, each as often as it is named. -/
def named (r : OperationRequest) : List String := idsIn ((r.parameters.get? nodesParameter).getD "")

/-- Whether a request is about the machines that it names. -/
def isSelective (r : OperationRequest) : Bool := r.type = .addWorkers || r.type = .removeNodes

theorem target_eq_ok {id : String} {m : Machine} (found : target c id = .ok m) :
    m ∈ c.machines ∧ m.id = id := by
  rw [target, Cluster.machine?] at found
  split at found
  · next found' =>
    cases found
    exact ⟨List.mem_of_find?_eq_some found', by simpa using List.find?_some found'⟩
  · cases found

theorem mapM_target_eq_ok {ids : List String} (found : ids.mapM (target c) = .ok machines) :
    machines.map Machine.id = ids ∧ ∀ m ∈ machines, m ∈ c.machines := by
  induction ids generalizing machines with
  | nil =>
    cases found
    exact ⟨rfl, nofun⟩
  | cons id ids ih =>
    rw [List.mapM_cons] at found
    cases here : target c id with
    | error e => simp [here, bind, Except.bind] at found
    | ok m =>
      cases later : ids.mapM (target c) with
      | error e => simp [here, later, bind, Except.bind] at found
      | ok others =>
        obtain ⟨listed, rfl⟩ := target_eq_ok here
        obtain ⟨rfl, known⟩ := ih later
        simp only [here, later, bind, Except.bind, pure, Except.pure] at found
        cases found
        exact ⟨rfl, List.forall_mem_cons.2 ⟨listed, known⟩⟩

/-- The machines that a request is about are those of the cluster that it names, in their order. -/
theorem targets_eq_ok {r : OperationRequest} (found : targets r.cluster r.parameters = .ok machines) :
    machines.map Machine.id = named r ∧ ∀ m ∈ machines, m ∈ r.cluster.machines := by
  rw [targets] at found
  split at found
  · cases found
  · exact mapM_target_eq_ok found

/-! ### Whom each step calls on -/

/-- Whatever has been returned, the step calls on these nodes if it can be built. -/
def CallsOn (c : Cluster) (ids : List String) (step : Step) : Prop :=
  ∀ op called, step.callees c op = .ok called → called = ids

theorem CallsOn.of_callees (calls : ∀ op, step.callees c op = .ok ids) : CallsOn c ids step :=
  fun op _ same => (Except.ok.inj ((calls op).symm.trans same)).symm

theorem callsOn_perMachine (name : String) (machines : List Machine) (tasks : Machine → List Task) :
    CallsOn c (machines.map Machine.id) (perMachine name machines tasks) :=
  .of_callees (callees_perMachine name machines tasks c)

theorem callsOn_built (name : String) {builder : Builder}
    (builds : ∀ data op nodeSteps, builder data c op = .ok nodeSteps →
      nodeSteps.map NodeStep.nodeId = ids) : CallsOn c ids (.built name builder) := by
  intro op called same
  obtain ⟨nodeSteps, yields, rfl⟩ := Step.callees_eq_ok_iff.1 same
  exact builds op.returnData op nodeSteps yields

/-- The masters, the first one in front, are machines of the cluster in their order. -/
theorem masters_sublist (masters : c.masters = first :: others) :
    (first.id :: others.map Machine.id).Sublist (c.machines.map Machine.id) := by
  have listed : (c.masters.map Machine.id).Sublist (c.machines.map Machine.id) :=
    List.filter_sublist.map Machine.id
  rwa [masters, List.map_cons] at listed

/-- A step calls on machines of the cluster, in their order, or on the machines that its plan is made
for. -/
def Aims (c : Cluster) (machines : List Machine) (step : Step) : Prop :=
  ∃ ids, CallsOn c ids step ∧
    (ids.Sublist (c.machines.map Machine.id) ∨ ids = machines.map Machine.id)

theorem aims_perMachine (name : String) (machines : List Machine) (tasks : Machine → List Task) :
    Aims c machines (perMachine name machines tasks) :=
  ⟨_, callsOn_perMachine name machines tasks, .inr rfl⟩

theorem aims_master {m : Machine} (member : m ∈ c.masters)
    (calls : ∀ op, step.callees c op = .ok [m.id]) : Aims c machines step :=
  ⟨[m.id], .of_callees calls,
    .inl (List.singleton_sublist.2 (List.mem_map_of_mem (List.mem_of_mem_filter member)))⟩

/-- Every step of a plan calls on machines of its cluster, or on those that the plan is made for. -/
def Reaches (c : Cluster) (machines : List Machine) (steps : List Step) : Prop :=
  ∀ step ∈ steps, Aims c machines step

theorem reaches_creation (masters : c.masters = first :: others)
    (distinct : (c.machines.map Machine.id).Nodup) : Reaches c c.machines (creation c first) := by
  intro step member
  obtain ⟨k, here⟩ := List.getElem?_of_mem member
  rcases creation_cases here with ⟨entry, -, rfl⟩ | ⟨-, rfl⟩ | ⟨-, rfl⟩ | ⟨-, rfl⟩
  · exact aims_perMachine _ c.machines _
  · exact aims_master (masters ▸ List.mem_cons_self) fun op => rfl
  · exact ⟨others.map Machine.id,
      callsOn_built _ fun data op nodeSteps yields => (mem_joinMasters masters distinct op yields).1,
      .inl ((List.sublist_cons_self ..).trans (masters_sublist masters))⟩
  · exact ⟨c.workers.map Machine.id,
      callsOn_built "join-workers" fun data op nodeSteps yields => (mem_joinWorkers yields).1,
      .inl (List.filter_sublist.map Machine.id)⟩

theorem reaches_destroyCluster (c : Cluster) : Reaches c c.machines (destroyCluster c) := by
  intro step member
  rw [destroyCluster, List.mem_pair] at member
  rcases member with rfl | rfl
  · exact aims_perMachine _ c.machines _
  · exact aims_perMachine _ c.machines _

theorem reaches_removeNodes (c : Cluster) (machines : List Machine) :
    Reaches c machines (removeNodes c machines) ∧ resetStep machines ∈ removeNodes c machines := by
  have reset : Reaches c machines [resetStep machines] := by
    intro step member
    rw [List.mem_singleton.1 member]
    exact aims_perMachine "reset-nodes" machines _
  rcases removeNodes_cases c machines with ⟨survivor, member, -, same⟩ | ⟨-, same⟩
  · rw [same]
    have drains : Aims c machines (drainStep survivor machines) := aims_master member fun op => rfl
    exact ⟨List.forall_mem_cons.2 ⟨drains, reset⟩, by simp⟩
  · rw [same]
    exact ⟨reset, List.mem_singleton_self _⟩

/-- The plan that adds machines calls on them or on all machines, and on the first master in between. -/
theorem reaches_addWorkers (adds : addWorkers c machines = .ok steps) :
    Reaches c machines steps ∧ ∃ step ∈ steps, ∀ op, step.callees c op = .ok (machines.map Machine.id) := by
  rw [addWorkers] at adds
  split at adds
  · cases adds
  cases masters : c.masters with
  | nil =>
    rw [firstMaster, masters] at adds
    cases adds
  | cons first others =>
    rw [firstMaster, masters] at adds
    cases adds
    refine ⟨fun step member => ?_, perMachine "bootstrap" machines fun _ => [bootstrap], by simp,
      callees_perMachine _ _ _ c⟩
    simp only [List.mem_append, List.mem_cons, List.not_mem_nil, or_false] at member
    rcases member with ((rfl | rfl | rfl | rfl) | balances) | rfl | rfl
    · exact aims_perMachine ..
    · exact aims_perMachine ..
    · exact ⟨_, callsOn_perMachine _ c.machines _, .inl (List.Sublist.refl _)⟩
    · exact aims_perMachine ..
    · rw [balancerSteps] at balances
      split at balances
      · rw [List.mem_singleton.1 balances]
        exact aims_perMachine ..
      · cases balances
    · exact aims_master (masters ▸ List.mem_cons_self) fun op => rfl
    · exact ⟨_, callsOn_built _ fun data op nodeSteps yields => (mem_joinWorkers yields).1, .inr rfl⟩

/-- A plan is made for the machines that a request names: besides machines of the cluster in their order
its steps call on these, and one step does call on each of them as often as it is named. -/
structure Selects (r : OperationRequest) (machines : List Machine) (steps : List Step) : Prop where
  named : machines.map Machine.id = named r
  known : ∀ m ∈ machines, m ∈ r.cluster.machines
  reaches : Reaches r.cluster machines steps
  meets : ∃ step ∈ steps, ∀ op, step.callees r.cluster op = .ok (machines.map Machine.id)

/-- A plan is made for the machines that a request names, or it is made for the whole cluster. -/
theorem ofRequest_cases {r : OperationRequest} (distinct : (r.cluster.machines.map Machine.id).Nodup)
    (planned : ofRequest r = .ok steps) :
    isSelective r = true ∧ (∃ machines, Selects r machines steps) ∨
      isSelective r = false ∧ steps ≠ [] ∧ Reaches r.cluster r.cluster.machines steps := by
  rw [ofRequest] at planned
  split at planned
  · next type =>
    cases masters : r.cluster.masters with
    | nil =>
      rw [createCluster, firstMaster, masters] at planned
      cases planned
    | cons first others =>
      rw [createCluster_eq masters] at planned
      cases planned
      exact .inr ⟨by simp [isSelective, type], by simp [creation], reaches_creation masters distinct⟩
  · next type =>
    cases found : targets r.cluster r.parameters with
    | error e => simp [found, bind, Except.bind] at planned
    | ok machines =>
      have adds : addWorkers r.cluster machines = .ok steps := by rwa [found] at planned
      obtain ⟨named, known⟩ := targets_eq_ok found
      obtain ⟨reaches, meets⟩ := reaches_addWorkers adds
      exact .inl ⟨by simp [isSelective, type], machines, named, known, reaches, meets⟩
  · next type =>
    cases found : targets r.cluster r.parameters with
    | error e => simp [found, bind, Except.bind] at planned
    | ok machines =>
      rw [found] at planned
      cases planned
      obtain ⟨named, known⟩ := targets_eq_ok found
      obtain ⟨reaches, reset⟩ := reaches_removeNodes r.cluster machines
      exact .inl ⟨by simp [isSelective, type], machines, named, known, reaches, _, reset,
        callees_perMachine "reset-nodes" machines _ r.cluster⟩
  · next type =>
    cases planned
    exact .inr ⟨by simp [isSelective, type], by simp [destroyCluster], reaches_destroyCluster r.cluster⟩
  · cases planned
  · cases planned

/-- Steps that reach known machines only call on the cluster. -/
theorem Reaches.mem {op : Operation} (reaches : Reaches c machines steps)
    (known : ∀ m ∈ machines, m ∈ c.machines) (member : step ∈ steps)
    (calls : step.callees c op = .ok called) : ∀ id ∈ called, id ∈ c.machines.map Machine.id := by
  obtain ⟨ids, callsOn, listed | same⟩ := reaches step member
  · exact callsOn op called calls ▸ listed.subset
  · rw [callsOn op called calls, same]
    intro id listed
    obtain ⟨m, among, rfl⟩ := List.mem_map.1 listed
    exact List.mem_map_of_mem (known m among)

/-- Steps that reach different machines call on none of them twice. -/
theorem Reaches.nodup {op : Operation} (reaches : Reaches c machines steps)
    (distinct : (c.machines.map Machine.id).Nodup) (once : (machines.map Machine.id).Nodup)
    (member : step ∈ steps) (calls : step.callees c op = .ok called) : called.Nodup := by
  obtain ⟨ids, callsOn, listed | same⟩ := reaches step member
  · exact callsOn op called calls ▸ distinct.sublist listed
  · exact callsOn op called calls ▸ same ▸ once

/-- **Machines are called on as often as they are named.** The machines of a cluster have different ids,
and a plan has been made for a request. The plan has steps, and whatever has been returned so far, they
call on machines of the cluster only. If the request is about the machines that it names, no step calls on
a machine twice exactly if none is named twice. All other plans call on no machine twice in a step. -/
theorem called_once_iff (r : OperationRequest) (steps : List Step)
    (distinct : (r.cluster.machines.map Machine.id).Nodup) (planned : ofRequest r = .ok steps) :
    steps ≠ [] ∧
    (∀ step ∈ steps, ∀ op called, step.callees r.cluster op = .ok called →
      ∀ id ∈ called, id ∈ r.cluster.machines.map Machine.id) ∧
    ((∀ step ∈ steps, ∀ op called, step.callees r.cluster op = .ok called → called.Nodup) ↔
      (r.type = .addWorkers ∨ r.type = .removeNodes → (named r).Nodup)) := by
  have selective : isSelective r = true ↔ r.type = .addWorkers ∨ r.type = .removeNodes := by
    simp [isSelective]
  rw [← selective]
  rcases ofRequest_cases distinct planned with ⟨selects, machines, plan⟩ | ⟨whole, some, reaches⟩
  · obtain ⟨step, member, meets⟩ := plan.meets
    refine ⟨List.ne_nil_of_mem member, fun _ listed _ _ => plan.reaches.mem plan.known listed, ?_⟩
    constructor
    · intro once _
      rw [← plan.named]
      exact once step member default _ (meets default)
    · intro once _ listed _ _ calls
      exact plan.reaches.nodup distinct (plan.named ▸ once selects) listed calls
  · refine ⟨some, fun _ listed _ _ => reaches.mem (fun _ => id) listed, ?_⟩
    constructor
    · intro _ selects
      cases whole.symm.trans selects
    · exact fun _ _ listed _ _ calls => reaches.nodup distinct distinct listed calls

namespace Sample

/-- A request that names a machine twice. -/
def twice : OperationRequest := ⟨"r", .removeNodes, mixed, Dict.ofList [(nodesParameter, "w, w")]⟩

/-- The plan for it. -/
def removal : List Step := removeNodes mixed [machine "w" "w1" .worker, machine "w" "w1" .worker]

end Sample

open Sample in
/-- A machine that is named twice is called on twice in one step. -/
theorem named_twice_called_twice :
    (mixed.machines.map Machine.id).Nodup ∧ ofRequest twice = .ok removal ∧
      ¬ ∀ step ∈ removal, ∀ op called, step.callees mixed op = .ok called → called.Nodup := by
  have distinct : (twice.cluster.machines.map Machine.id).Nodup := by decide
  have planned : ofRequest twice = .ok removal := rfl
  obtain ⟨-, -, once⟩ := called_once_iff twice removal distinct planned
  exact ⟨distinct, planned, fun each => absurd (once.1 each (.inr rfl)) (by decide)⟩

end Plan

end Muster
