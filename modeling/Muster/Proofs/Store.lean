import Muster.Proofs.Dict
import Muster.Store

/-!
# What a store knows of agents

What is known of the agent of a machine stands in the table of machines and in every cluster that the
machine is part of. `Agrees` says that the two tell the same; saving a cluster takes over what the table
says, and noting a status writes it to both. From this `statuses_agree` says, of every sequence of
calls, that a status changes only when it is noted, and then nothing else does.
-/

set_option autoImplicit false

namespace Muster

namespace Records

/-- What is known of the agent of a machine. -/
def status? (machines : Dict Machine) (id : String) : Option AgentStatus :=
  (machines.get? id).map Machine.agentStatus

/-- Every machine of a cluster is known, with the same status, and clusters name no machine twice. -/
structure Agrees (r : Records) : Prop where
  known : ∀ key c, r.clusters.get? key = some c → ∀ m ∈ c.machines, status? r.machines m.id = some m.agentStatus
  distinct : ∀ key c, r.clusters.get? key = some c → (c.machines.map Machine.id).Nodup

/-- The cluster with another agent status of a machine. -/
def restated (id : String) (status : AgentStatus) (c : Cluster) : Cluster :=
  { c with machines := c.machines.map fun m => if m.id = id then m.withAgentStatus status else m }

/-- Two records differ at most in the agent status of one machine, which stands in the table of machines and
in the clusters. -/
structure DiffersIn (r r' : Records) (id : String) (status : AgentStatus) : Prop where
  operations : r'.operations = r.operations
  machines : ∀ other, r'.machines.get? other = if other = id
    then (r.machines.get? other).map fun m => m.withAgentStatus status else r.machines.get? other
  clusters : ∀ key, r'.clusters.get? key = (r.clusters.get? key).map (restated id status)

section

variable {r r' : Records} {machines : Dict Machine} {m : Machine} {id : String} {status : AgentStatus}

theorem agrees_empty : empty.Agrees := ⟨fun _ _ => nofun, fun _ _ => nofun⟩

/-! ### Saving a cluster -/

theorem id_known (machines : Dict Machine) (m : Machine) : (known machines m).id = m.id := by
  rw [known]
  split <;> rfl

/-- A machine that is taken in has the status that is known, if one is. -/
theorem agentStatus_known (machines : Dict Machine) (m : Machine) :
    (known machines m).agentStatus = (status? machines m.id).getD m.agentStatus := by
  rw [known, status?]
  cases machines.get? m.id <;> rfl

/-- A machine that is put into the table keeps the status that is known. -/
theorem status?_insert_known (machines : Dict Machine) (m : Machine) (id : String) :
    status? (machines.insert m.id (known machines m)) id
      = (status? machines id).or (if id = m.id then some m.agentStatus else none) := by
  rw [status?, Dict.get?_insert]
  by_cases same : id = m.id
  · subst same
    rw [if_pos rfl, if_pos rfl, Option.map_some, agentStatus_known]
    cases status? machines m.id <;> rfl
  · rw [if_neg same, if_neg same, Option.or_none, status?]

/-- **Taking machines in** changes no status that is known, and those that are taken in have the status
that the table says. -/
theorem addMachines_spec (machines : Dict Machine) (added : List Machine) :
    (∀ id status, status? machines id = some status → status? (addMachines machines added).2 id = some status) ∧
    (∀ m ∈ (addMachines machines added).1, status? (addMachines machines added).2 m.id = some m.agentStatus) ∧
    (addMachines machines added).1.map Machine.id = added.map Machine.id := by
  induction added generalizing machines with
  | nil => exact ⟨fun _ _ found => found, by simp [addMachines], rfl⟩
  | cons m rest ih =>
    have step : addMachines machines (m :: rest)
        = (known machines m :: (addMachines (machines.insert m.id (known machines m)) rest).1,
          (addMachines (machines.insert m.id (known machines m)) rest).2) := by
      rw [addMachines, id_known]
    obtain ⟨lasting, agreeing, ids⟩ := ih (machines.insert m.id (known machines m))
    have here : status? (machines.insert m.id (known machines m)) m.id = some (known machines m).agentStatus := by
      rw [status?, Dict.get?_insert_self, Option.map_some]
    rw [step]
    refine ⟨fun id status found => ?_, fun m' member => ?_, ?_⟩
    · refine lasting id status ?_
      rw [status?_insert_known, found]
      rfl
    · rcases List.mem_cons.1 member with rfl | later
      · rw [id_known]
        exact lasting m.id _ here
      · exact agreeing m' later
    · rw [List.map_cons, List.map_cons, ids, id_known]

/-- Saving a cluster changes no status that is known. -/
theorem status?_saveCluster {c : Cluster} (found : status? r.machines id = some status) :
    status? (r.saveCluster c).machines id = some status :=
  (addMachines_spec r.machines c.machines).1 id status found

theorem Agrees.saveCluster (agrees : r.Agrees) {c : Cluster} (distinct : (c.machines.map Machine.id).Nodup) :
    (r.saveCluster c).Agrees := by
  obtain ⟨lasting, agreeing, ids⟩ := addMachines_spec r.machines c.machines
  have clusters (key : String) : (r.saveCluster c).clusters.get? key
      = if key = c.id then some { c with machines := (addMachines r.machines c.machines).1 }
        else r.clusters.get? key := Dict.get?_insert ..
  refine ⟨fun key c' found => ?_, fun key c' found => ?_⟩
  · rw [clusters] at found
    split at found
    · obtain rfl := Option.some.inj found
      exact agreeing
    · -- Other clusters say what the table said before.
      intro m member
      exact lasting m.id m.agentStatus (agrees.known key c' found m member)
  · rw [clusters] at found
    split at found
    · obtain rfl := Option.some.inj found
      exact ids ▸ distinct
    · exact agrees.distinct key c' found

/-! ### Noting a status -/

/-- Where no machine is named twice, the first one of an id is the only one. -/
theorem modifyFirst_eq {machines : List Machine} (distinct : (machines.map Machine.id).Nodup)
    (f : Machine → Machine) : modifyFirst id f machines = machines.map fun m => if m.id = id then f m else m := by
  induction machines with
  | nil => rfl
  | cons m rest ih =>
    rw [List.map_cons, List.nodup_cons] at distinct
    obtain ⟨away, distinct⟩ := distinct
    rw [modifyFirst, List.map_cons]
    by_cases here : m.id = id
    · rw [if_pos here, if_pos here]
      have others : rest.map (fun m => if m.id = id then f m else m) = rest.map fun m => m := by
        refine List.map_congr_left fun m' member => if_neg fun same => away ?_
        rw [here, ← same]
        exact List.mem_map_of_mem member
      rw [others, List.map_id']
    · rw [if_neg here, if_neg here, ih distinct]

/-- A status that is noted is written to both copies, and nothing else is. -/
theorem Agrees.differsIn (agrees : r.Agrees) (noted : r.setAgentStatus? id status = some r') :
    r.DiffersIn r' id status := by
  rw [setAgentStatus?] at noted
  split at noted
  · obtain rfl := Option.some.inj noted
    refine ⟨rfl, fun other => Dict.get?_modify .., fun key => ?_⟩
    rw [Dict.get?_map]
    cases found : r.clusters.get? key with
    | none => rfl
    | some c =>
      rw [Option.map_some, Option.map_some, restated, modifyFirst_eq (agrees.distinct key c found)]
  · cases noted

theorem DiffersIn.status? (differs : r.DiffersIn r' id status) (other : String) :
    status? r'.machines other = if other = id then (status? r.machines other).map fun _ => status
      else status? r.machines other := by
  rw [Records.status?, Records.status?, differs.machines]
  split
  · rw [Option.map_map, Option.map_map]
    rfl
  · rfl

theorem DiffersIn.agrees (differs : r.DiffersIn r' id status) (agrees : r.Agrees) : r'.Agrees := by
  refine ⟨fun key c' found m member => ?_, fun key c' found => ?_⟩
  · rw [differs.clusters, Option.map_eq_some_iff] at found
    obtain ⟨c, here, rfl⟩ := found
    obtain ⟨old, listed, rfl⟩ := List.mem_map.1 member
    have known := agrees.known key c here old listed
    rw [differs.status?]
    by_cases same : old.id = id
    · rw [if_pos same]
      show (if old.id = id then (Records.status? r.machines old.id).map fun _ => status else _) = some status
      rw [if_pos same, known]
      rfl
    · rw [if_neg same, if_neg same]
      exact known
  · rw [differs.clusters, Option.map_eq_some_iff] at found
    obtain ⟨c, here, rfl⟩ := found
    have ids : (restated id status c).machines.map Machine.id = c.machines.map Machine.id := by
      rw [restated, List.map_map]
      refine List.map_congr_left fun m _ => ?_
      simp only [Function.comp_apply]
      split <;> rfl
    exact ids ▸ agrees.distinct key c here

end

end Records

namespace Store

/-- What may be asked of a store. -/
inductive Command where
  | saveOperation (op : Operation)
  | saveCluster (c : Cluster)
  | setAgentStatus (id : String) (status : AgentStatus)

/-- No cluster that is saved names a machine twice. -/
def Command.Distinct : Command → Prop
  | .saveCluster c => (c.machines.map Machine.id).Nodup
  | _ => True

/-- What a command does where the files are as they are. -/
def exec (s : Store) (t : FileTree) : Command → Except StoreError Unit × Store × FileTree
  | .saveOperation op => s.saveOperation t op
  | .saveCluster c => s.saveCluster t c
  | .setAgentStatus id status => s.setAgentStatus t id status

/-- What a sequence of commands leads to. What stands in the files when a command comes is not up to the
store. -/
def run (s : Store) : List (FileTree × Command) → Store × List (Except StoreError Unit)
  | [] => (s, [])
  | (t, command) :: rest =>
    let (outcome, s, _) := s.exec t command
    let (s, later) := s.run rest
    (s, outcome :: later)

/-- Whether the file, if there is one, could be written. -/
def Written (outcome : Except StoreError Unit) : Prop := ∀ cause, outcome ≠ .error (.io cause)

section

open Records

variable {s : Store} {t : FileTree} {command : Command} {id : String} {status : AgentStatus}

/-- New records are kept, whether the file can be written or not. -/
theorem records_keep (s : Store) (t : FileTree) (records : Records) : (s.keep t records).2.1.records = records := by
  rw [keep]
  split <;> rfl

/-- Keeping records fails only if the file cannot be written. -/
theorem keep_ok {records : Records} (written : Written (s.keep t records).1) :
    (s.keep t records).1 = .ok () := by
  rw [keep] at written ⊢
  split
  · rfl
  · next path here =>
    rw [here] at written
    simp only at written ⊢
    cases outcome : (replaceFile t _ path records.encode).1 with
    | ok value => rfl
    | error cause =>
      rw [outcome] at written
      exact absurd rfl (written cause)

/-- What a status that is noted does: an unknown machine is refused, and of a known one nothing else
changes. -/
theorem exec_setAgentStatus (agrees : s.records.Agrees) (t : FileTree) (id : String) (status : AgentStatus) :
    (s.records.machines.contains id = false ∧
      s.exec t (.setAgentStatus id status) = (.error (.unknownMachine id), s, t)) ∨
    (s.records.machines.contains id = true ∧
      (Written (s.exec t (.setAgentStatus id status)).1 → (s.exec t (.setAgentStatus id status)).1 = .ok ()) ∧
      s.records.DiffersIn (s.exec t (.setAgentStatus id status)).2.1.records id status) := by
  cases known : s.records.machines.contains id with
  | false =>
    refine .inl ⟨rfl, ?_⟩
    rw [exec, setAgentStatus, setAgentStatus?, known]
    rfl
  | true =>
    cases noted : s.records.setAgentStatus? id status with
    | none =>
      rw [setAgentStatus?, known] at noted
      cases noted
    | some records =>
      have same : s.exec t (.setAgentStatus id status) = s.keep t records := by
        rw [exec, setAgentStatus, noted]
      rw [same, records_keep]
      exact .inr ⟨rfl, keep_ok, agrees.differsIn noted⟩

/-- **Every command keeps** the two copies in step. -/
theorem agrees_exec (agrees : s.records.Agrees) (distinct : command.Distinct) (t : FileTree) :
    (s.exec t command).2.1.records.Agrees := by
  cases command with
  | saveOperation op =>
    rw [exec, saveOperation, records_keep]
    exact ⟨agrees.known, agrees.distinct⟩
  | saveCluster c =>
    rw [exec, saveCluster, records_keep]
    exact agrees.saveCluster distinct
  | setAgentStatus id status =>
    rcases exec_setAgentStatus agrees t id status with ⟨-, refused⟩ | ⟨-, -, differs⟩
    · rw [refused]
      exact agrees
    · exact differs.agrees agrees

theorem agrees_run (agrees : s.records.Agrees) (history : List (FileTree × Command))
    (distinct : ∀ entry ∈ history, entry.2.Distinct) : (s.run history).1.records.Agrees := by
  induction history generalizing s with
  | nil => exact agrees
  | cons entry rest ih =>
    exact ih (agrees_exec agrees (distinct entry List.mem_cons_self) entry.1)
      fun later member => distinct later (List.mem_cons_of_mem entry member)

/-- A status that is known stays, unless another one is noted for the machine. -/
theorem status?_exec (agrees : s.records.Agrees) (t : FileTree) (command : Command)
    (known : Records.status? s.records.machines id = some status) :
    Records.status? (s.exec t command).2.1.records.machines id = some status ∨
      ∃ new, command = .setAgentStatus id new ∧
        (Written (s.exec t command).1 → (s.exec t command).1 = .ok ()) ∧
        Records.status? (s.exec t command).2.1.records.machines id = some new := by
  cases command with
  | saveOperation op =>
    rw [exec, saveOperation, records_keep]
    exact .inl known
  | saveCluster c =>
    rw [exec, saveCluster, records_keep]
    exact .inl (status?_saveCluster known)
  | setAgentStatus other new =>
    rcases exec_setAgentStatus agrees t other new with ⟨-, refused⟩ | ⟨-, done, differs⟩
    · rw [refused]
      exact .inl known
    · by_cases same : id = other
      · subst same
        refine .inr ⟨new, rfl, done, ?_⟩
        rw [differs.status?, if_pos rfl, known]
        rfl
      · rw [differs.status?, if_neg same]
        exact .inl known

end

/-- **The copies of a status are kept in step.** A store begins without records and is asked for anything,
as long as no cluster names a machine twice. Then every machine of every cluster stands in the table of
machines, with the same agent status. Where the file, if there is one, can be written, the status of a
machine that is known changes only in a call that notes it and succeeds; saving a cluster does not change
it. Noting a status changes the agent status of that machine, in the table and in the clusters, and
nothing else; for an unknown machine it fails and leaves store and files as they are. -/
theorem statuses_agree (s : Store) (fresh : s.records = .empty) (history : List (FileTree × Command))
    (distinct : ∀ entry ∈ history, entry.2.Distinct) :
    let now := (s.run history).1
    (∀ key c, now.records.clusters.get? key = some c → ∀ m ∈ c.machines,
      ∃ known, now.records.machines.get? m.id = some known ∧ known.agentStatus = m.agentStatus) ∧
    ∀ (t : FileTree) (command : Command), Written (now.exec t command).1 →
      let after := (now.exec t command).2.1
      (∀ id m, now.records.machines.get? id = some m →
        ∃ m', after.records.machines.get? id = some m' ∧
          (m'.agentStatus ≠ m.agentStatus → command = .setAgentStatus id m'.agentStatus ∧
            (now.exec t command).1 = .ok ())) ∧
      ∀ id status, command = .setAgentStatus id status →
        (now.records.machines.contains id = true →
          (now.exec t command).1 = .ok () ∧ now.records.DiffersIn after.records id status) ∧
        (now.records.machines.contains id = false →
          now.exec t command = (.error (.unknownMachine id), now, t)) := by
  intro now
  have agrees : now.records.Agrees := agrees_run (fresh ▸ Records.agrees_empty) history distinct
  refine ⟨fun key c found m member => ?_, fun t command written => ⟨fun id m known => ?_, ?_⟩⟩
  · have same := agrees.known key c found m member
    rwa [Records.status?, Option.map_eq_some_iff] at same
  · have before : Records.status? now.records.machines id = some m.agentStatus := by
      rw [Records.status?, known]
      rfl
    rcases status?_exec agrees t command before with same | ⟨new, rfl, done, noted⟩
    · obtain ⟨m', found, equal⟩ := Option.map_eq_some_iff.1 same
      exact ⟨m', found, fun differ => absurd equal differ⟩
    · obtain ⟨m', found, rfl⟩ := Option.map_eq_some_iff.1 noted
      exact ⟨m', found, fun _ => ⟨rfl, done written⟩⟩
  · rintro id status rfl
    rcases exec_setAgentStatus agrees t id status with ⟨unknown, refused⟩ | ⟨known, done, differs⟩
    · refine ⟨fun known => ?_, fun _ => refused⟩
      rw [unknown] at known
      cases known
    · refine ⟨fun _ => ⟨done written, differs⟩, fun unknown => ?_⟩
      rw [known] at unknown
      cases unknown

/-! ### A machine of two clusters -/

namespace Sample

def machine (status : AgentStatus) : Machine := ⟨"n1", "one", "10.0.0.1", .master, "ready", status⟩

def cluster (id : String) (status : AgentStatus) : Cluster := ⟨id, id, "v1", .standard, [machine status]⟩

/-- The machine is lost between two clusters that count on it. -/
def history : List (FileTree × Command) :=
  [(.empty, .saveCluster (cluster "a" .running)), (.empty, .setAgentStatus "n1" .unreachable),
    (.empty, .saveCluster (cluster "b" .running))]

def last : Store := (inMemory.run history).1

end Sample

open Sample in
/-- Both clusters have the machine as it was noted, and another machine is refused. -/
theorem sample_statuses_agree :
    last.records.clusters.get? "a" = some (cluster "a" .unreachable) ∧
    last.records.clusters.get? "b" = some (cluster "b" .unreachable) ∧
    (∃ m, last.records.machines.get? "n1" = some m ∧ m.agentStatus = .unreachable) ∧
    last.exec .empty (.setAgentStatus "n2" .running) = (.error (.unknownMachine "n2"), last, .empty) := by
  have distinct : ∀ entry ∈ history, entry.2.Distinct := by
    simp [history, Command.Distinct, cluster]
  obtain ⟨agree, next⟩ := statuses_agree inMemory rfl history distinct
  have b : last.records.clusters.get? "b" = some (cluster "b" .unreachable) := by decide
  refine ⟨by decide, b, agree "b" _ b (machine .unreachable) List.mem_cons_self, ?_⟩
  have unknown : last.records.machines.contains "n2" = false := by decide
  obtain ⟨-, noting⟩ := next .empty (.setAgentStatus "n2" .running) (fun cause => nofun)
  exact (noting "n2" .running rfl).2 unknown

end Store

end Muster
