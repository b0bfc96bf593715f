import Muster.Liveness
import Muster.Proofs.Store

/-!
# What a sweep leaves behind

A sweep notes the status of one machine after the other. Each note changes the status of its machine, in the table
and in the clusters, and nothing else (`Records.Agrees.differsIn`); a machine whose status is no news is as good as
noted (`note_cons`). Put together, a sweep gives every machine the status that its address deserves
(`note_spec`, `sweep_spec`), so the next one with the same answers finds nothing new.
-/

set_option autoImplicit false

namespace Muster

/-! ### The table of machines -/

namespace Records

variable {r r' : Records} {machines : Dict Machine} {id : String} {status : AgentStatus}

/-- Every machine stands in the table under its id. -/
def Keyed (machines : Dict Machine) : Prop := ∀ key m, machines.get? key = some m → m.id = key

theorem keyed_empty : Keyed .empty := fun _ _ => nofun

theorem Keyed.insert (keyed : Keyed machines) (m : Machine) : Keyed (machines.insert m.id m) := by
  intro key m' found
  rw [Dict.get?_insert] at found
  split at found
  · next same =>
    obtain rfl := Option.some.inj found
    exact same.symm
  · exact keyed key m' found

theorem Keyed.addMachines (keyed : Keyed machines) (added : List Machine) :
    Keyed (Records.addMachines machines added).2 := by
  induction added generalizing machines with
  | nil => exact keyed
  | cons m rest ih => exact ih (keyed.insert (known machines m))

theorem DiffersIn.keyed (differs : r.DiffersIn r' id status) (keyed : Keyed r.machines) : Keyed r'.machines := by
  intro key m' found
  rw [differs.machines] at found
  split at found
  · obtain ⟨m, here, rfl⟩ := Option.map_eq_some_iff.1 found
    exact keyed key m here
  · exact keyed key m' found

/-- A table in which machines stand under their ids lists them without repetitions. -/
theorem Keyed.ids_values (keyed : Keyed machines) : machines.values.map Machine.id = machines.keys := by
  rw [Dict.values, Dict.keys, List.map_map]
  refine List.map_congr_left fun entry member => ?_
  exact keyed entry.1 entry.2 (Dict.get?_eq_some_iff_mem.2 member)

theorem perm_allMachines (r : Records) : r.allMachines.Perm r.machines.values := List.mergeSort_perm ..

theorem mem_allMachines (keyed : Keyed r.machines) {m : Machine} :
    m ∈ r.allMachines ↔ r.machines.get? m.id = some m := by
  rw [(perm_allMachines r).mem_iff, Dict.mem_values_iff]
  constructor
  · rintro ⟨key, found⟩
    obtain rfl := keyed key m found
    exact found
  · exact fun found => ⟨m.id, found⟩

theorem ids_allMachines_nodup (keyed : Keyed r.machines) : (r.allMachines.map Machine.id).Nodup := by
  rw [((perm_allMachines r).map Machine.id).nodup_iff, keyed.ids_values]
  exact Dict.keys_nodup r.machines

end Records

namespace Store

variable {s : Store} {command : Command}

theorem keyed_exec (agrees : s.records.Agrees) (keyed : Records.Keyed s.records.machines) (t : FileTree)
    (command : Command) : Records.Keyed (s.exec t command).2.1.records.machines := by
  cases command with
  | saveOperation op =>
    rw [exec, saveOperation, records_keep]
    exact keyed
  | saveCluster c =>
    rw [exec, saveCluster, records_keep]
    exact keyed.addMachines c.machines
  | setAgentStatus id status =>
    rcases exec_setAgentStatus agrees t id status with ⟨-, refused⟩ | ⟨-, -, differs⟩
    · rw [refused]
      exact keyed
    · exact differs.keyed keyed

theorem keyed_run (agrees : s.records.Agrees) (keyed : Records.Keyed s.records.machines)
    (history : List (FileTree × Command)) (distinct : ∀ entry ∈ history, entry.2.Distinct) :
    Records.Keyed (s.run history).1.records.machines := by
  induction history generalizing s with
  | nil => exact keyed
  | cons entry rest ih =>
    exact ih (agrees_exec agrees (distinct entry List.mem_cons_self) entry.1) (keyed_exec agrees keyed entry.1 entry.2)
      fun later member => distinct later (List.mem_cons_of_mem entry member)

end Store

/-! ### Statuses that are noted -/

/-- The machine with another agent status, if there is one for it. -/
def Machine.stated (m : Machine) : Option AgentStatus → Machine
  | none => m
  | some status => m.withAgentStatus status

@[simp] theorem Machine.stated_none (m : Machine) : m.stated none = m := rfl

@[simp] theorem Machine.stated_some (m : Machine) (status : AgentStatus) :
    m.stated (some status) = m.withAgentStatus status := rfl

/-- The cluster with other agent statuses of its machines. -/
def Cluster.stated (status : String → Option AgentStatus) (c : Cluster) : Cluster :=
  { c with machines := c.machines.map fun m => m.stated (status m.id) }

namespace Records

variable {r r' r'' : Records} {id : String} {new : AgentStatus} {status : String → Option AgentStatus}

/-- Two records differ at most in the agent statuses that are given by id. -/
structure Restated (r r' : Records) (status : String → Option AgentStatus) : Prop where
  operations : r'.operations = r.operations
  machines : ∀ id, r'.machines.get? id = (r.machines.get? id).map fun m => m.stated (status id)
  clusters : ∀ key, r'.clusters.get? key = (r.clusters.get? key).map (Cluster.stated status)

theorem Restated.refl (r : Records) : r.Restated r fun _ => none := by
  refine ⟨rfl, fun id => Option.map_id'.symm, fun key => ?_⟩
  have same : Cluster.stated (fun _ => none) = id := by
    funext c
    simp [Cluster.stated]
  rw [same, Option.map_id]
  rfl

/-- A status that is noted before others comes to them. -/
theorem Restated.cons (differs : r.DiffersIn r' id new) (later : r'.Restated r'' status) (other : status id = none) :
    r.Restated r'' fun key => if key = id then some new else status key := by
  refine ⟨later.operations.trans differs.operations, fun key => ?_, fun key => ?_⟩
  · rw [later.machines, differs.machines]
    by_cases same : key = id
    · subst same
      rw [if_pos rfl, if_pos rfl, other, Option.map_map]
      rfl
    · rw [if_neg same, if_neg same]
  · rw [later.clusters, differs.clusters, Option.map_map]
    congr 1
    funext c
    simp only [Function.comp_apply, Cluster.stated, restated, List.map_map]
    congr 1
    refine List.map_congr_left fun m _ => ?_
    by_cases same : m.id = id
    · subst same
      have : (m.withAgentStatus new).id = m.id := rfl
      simp [this, other]
    · simp [same]

/-- To note the status that a machine has is to note nothing. -/
theorem Agrees.differsIn_self (agrees : r.Agrees) {m : Machine} (stored : r.machines.get? id = some m) :
    r.DiffersIn r id m.agentStatus := by
  refine ⟨rfl, fun other => ?_, fun key => ?_⟩
  · split
    · next same =>
      subst same
      rw [stored]
      rfl
    · rfl
  · cases found : r.clusters.get? key with
    | none => rfl
    | some c =>
      have same : (c.machines.map fun copy => if copy.id = id then copy.withAgentStatus m.agentStatus else copy) =
          c.machines := by
        refine (List.map_congr_left fun copy member => ?_).trans (List.map_id' c.machines)
        split
        · next here =>
          have known := agrees.known key c found copy member
          rw [status?, here, stored] at known
          rw [Option.some.inj known]
          rfl
        · rfl
      rw [Option.map_some, restated, same]

end Records

namespace Liveness

variable {s : Settings} {answers : String → Bool} {r r' : Records} {m : Machine} {todo : List Machine}
  {report : Report}

/-! ### Noting what became of machines -/

/-- The status of a machine by whether its agent has answered. -/
def verdict (s : Settings) (answers : String → Bool) (m : Machine) : AgentStatus :=
  if answers (address s m) then .running else .unreachable

/-- The agent of a machine has not answered, and that is news. -/
def IsLost (s : Settings) (answers : String → Bool) (m : Machine) : Prop :=
  answers (address s m) = false ∧ m.agentStatus ≠ .unreachable

/-- The agent of a machine has answered, and that is news. -/
def IsBack (s : Settings) (answers : String → Bool) (m : Machine) : Prop :=
  answers (address s m) = true ∧ m.agentStatus ≠ .running

instance : DecidablePred (IsLost s answers) := fun _ => inferInstanceAs (Decidable (_ ∧ _))

instance : DecidablePred (IsBack s answers) := fun _ => inferInstanceAs (Decidable (_ ∧ _))

/-- A report to which the news of machines are counted. -/
def counted (s : Settings) (answers : String → Bool) (report : Report) (todo : List Machine) : Report where
  probed := report.probed
  markedUnreachable := report.markedUnreachable + todo.countP (IsLost s answers)
  recovered := report.recovered + todo.countP (IsBack s answers)

theorem counted_cons (m : Machine) (rest : List Machine) :
    counted s answers (counted s answers report [m]) rest = counted s answers report (m :: rest) := by
  simp only [counted, List.countP_cons, List.countP_nil, Report.mk.injEq, true_and]
  omega

/-- What is news is the verdict, and it is counted. -/
theorem transition?_cases (s : Settings) (answers : String → Bool) (report : Report) (m : Machine) :
    (m.agentStatus = verdict s answers m ∧ transition? (answers (address s m)) m.agentStatus = none ∧
      counted s answers report [m] = report) ∨
    (m.agentStatus ≠ verdict s answers m ∧
      transition? (answers (address s m)) m.agentStatus = some (verdict s answers m) ∧
      counted s answers report [m] = report.count (verdict s answers m)) := by
  unfold verdict counted
  cases alive : answers (address s m) <;> cases was : m.agentStatus <;>
    simp [transition?, Report.count, IsLost, IsBack, alive, was]

/-- **One machine is noted**: whether that is news or not, its status is the verdict then, and nothing else has
changed. -/
theorem note_cons (agrees : r.Agrees) (stored : r.machines.get? m.id = some m) (rest : List Machine) :
    ∃ r', r.DiffersIn r' m.id (verdict s answers m) ∧
      note s answers (fun _ => false) report r (m :: rest) =
        note s answers (fun _ => false) (counted s answers report [m]) r' rest := by
  rcases transition?_cases s answers report m with ⟨same, nothing, uncounted⟩ | ⟨-, news, counts⟩
  · refine ⟨r, same ▸ agrees.differsIn_self stored, ?_⟩
    rw [note, nothing, uncounted]
  · have known : r.machines.contains m.id = true := by
      rw [Dict.contains, stored]
      rfl
    cases noted : r.setAgentStatus? m.id (verdict s answers m) with
    | none =>
      rw [Records.setAgentStatus?, known] at noted
      cases noted
    | some r' =>
      refine ⟨r', agrees.differsIn noted, ?_⟩
      rw [note, news, counts]
      simp [noted]

/-- The status that is noted for an id. -/
def news (s : Settings) (answers : String → Bool) (todo : List Machine) (id : String) : Option AgentStatus :=
  (todo.find? fun m => m.id = id).map (verdict s answers)

theorem news_cons (m : Machine) (rest : List Machine) :
    news s answers (m :: rest) = fun id => if id = m.id then some (verdict s answers m) else news s answers rest id := by
  funext id
  by_cases same : m.id = id
  · simp [news, same]
  · have differ : id ≠ m.id := fun h => same h.symm
    simp [news, same, differ]

theorem news_eq_none {id : String} (other : id ∉ todo.map Machine.id) : news s answers todo id = none := by
  rw [news, Option.map_eq_none_iff, List.find?_eq_none]
  intro m member same
  exact other (List.mem_map.2 ⟨m, member, by simpa using same⟩)

/-- **All machines are noted**, each by its own verdict, and the report counts the news. -/
theorem note_spec (agrees : r.Agrees) (distinct : (todo.map Machine.id).Nodup)
    (stored : ∀ m ∈ todo, r.machines.get? m.id = some m) :
    ∃ r', note s answers (fun _ => false) report r todo = (counted s answers report todo, r') ∧
      r.Restated r' (news s answers todo) := by
  induction todo generalizing r report with
  | nil => exact ⟨r, rfl, .refl r⟩
  | cons m rest ih =>
    obtain ⟨away, distinct⟩ := List.nodup_cons.1 distinct
    obtain ⟨here, later⟩ := List.forall_mem_cons.1 stored
    obtain ⟨r', differs, noted⟩ := @note_cons s answers r m report agrees here rest
    have untouched : ∀ m' ∈ rest, r'.machines.get? m'.id = some m' := by
      intro m' member
      have other : m'.id ≠ m.id := by
        intro same
        exact away (same ▸ List.mem_map_of_mem member)
      rw [differs.machines, if_neg other]
      exact later m' member
    obtain ⟨r'', goesOn, restated⟩ := ih (differs.agrees agrees) distinct untouched
    refine ⟨r'', ?_, ?_⟩
    · rw [noted, goesOn, counted_cons]
    · rw [news_cons]
      exact .cons differs restated (news_eq_none away)

/-- Where no status is news, nothing is noted. -/
theorem note_settled (settled : ∀ m ∈ todo, m.agentStatus = verdict s answers m) :
    note s answers (fun _ => false) report r todo = (report, r) := by
  induction todo with
  | nil => rfl
  | cons m rest ih =>
    obtain ⟨here, later⟩ := List.forall_mem_cons.1 settled
    rcases transition?_cases s answers report m with ⟨-, nothing, -⟩ | ⟨news, -, -⟩
    · rw [note, nothing]
      exact ih later
    · exact absurd here news

/-- What is noted could be noted in a store one after the other, and each time that succeeds if the file, where
there is one, can be written. -/
theorem note_stored (s : Settings) (answers : String → Bool) (report : Report) (r : Records) (todo : List Machine) :
    ∃ updates : List (String × AgentStatus), ∀ (store : Store) (entries : List (FileTree × Store.Command)),
      store.records = r → entries.map Prod.snd = updates.map (fun u => .setAgentStatus u.1 u.2) →
      (store.run entries).1.records = (note s answers (fun _ => false) report r todo).2 ∧
        ∀ outcome ∈ (store.run entries).2, Store.Written outcome → outcome = .ok () := by
  induction todo generalizing r report with
  | nil =>
    refine ⟨[], fun store entries same none => ?_⟩
    obtain rfl := List.map_eq_nil_iff.1 none
    exact ⟨same, nofun⟩
  | cons m rest ih =>
    rw [note]
    split
    · exact ih report r
    · next status _ =>
      rw [if_neg Bool.false_ne_true]
      split
      · exact ih report r
      · next r' noted =>
        obtain ⟨updates, done⟩ := ih (report.count status) r'
        refine ⟨(m.id, status) :: updates, fun store entries same commands => ?_⟩
        obtain ⟨⟨t, command⟩, later, rfl, rfl, behind⟩ := List.map_eq_cons_iff.1 commands
        have exec : store.exec t (.setAgentStatus m.id status) = store.keep t r' := by
          rw [Store.exec, Store.setAgentStatus, same, noted]
        obtain ⟨reached, succeeded⟩ := done (store.keep t r').2.1 later (Store.records_keep store t r') behind
        rw [Store.run, exec]
        refine ⟨reached, fun outcome member written => ?_⟩
        rcases List.mem_cons.1 member with rfl | inLater
        · exact Store.keep_ok written
        · exact succeeded outcome inLater written

/-! ### A whole sweep -/

/-- The status that a sweep gives to an id is the verdict on the machine that stands in the table. -/
theorem news_allMachines (keyed : Records.Keyed r.machines) (id : String) :
    news s answers r.allMachines id = (r.machines.get? id).map (verdict s answers) := by
  rw [news]
  congr 1
  cases found : r.allMachines.find? fun m => m.id = id with
  | none =>
    rw [List.find?_eq_none] at found
    cases stored : r.machines.get? id with
    | none => rfl
    | some m =>
      obtain rfl := keyed id m stored
      exact absurd (decide_eq_true rfl) (found m ((Records.mem_allMachines keyed).2 stored))
  | some m =>
    have same : m.id = id := by simpa using List.find?_some found
    rw [← same]
    exact ((Records.mem_allMachines keyed).1 (List.mem_of_find?_eq_some found)).symm

/-- The machine as a sweep leaves it behind: with the verdict on the machine of its id in the table. -/
def settledMachine (s : Settings) (answers : String → Bool) (machines : Dict Machine) (m : Machine) : Machine :=
  m.stated ((machines.get? m.id).map (verdict s answers))

/-- The records as a sweep leaves them behind. -/
def settled (s : Settings) (answers : String → Bool) (r : Records) : Records where
  operations := r.operations
  clusters := r.clusters.map fun c => { c with machines := c.machines.map (settledMachine s answers r.machines) }
  machines := r.machines.map (settledMachine s answers r.machines)

/-- **What a sweep does**: every machine gets its verdict, and the report counts the news. -/
theorem sweep_eq (agrees : r.Agrees) (keyed : Records.Keyed r.machines) :
    sweep s answers (fun _ => false) r =
      (counted s answers ⟨r.machines.size, 0, 0⟩ r.machines.values, settled s answers r) := by
  obtain ⟨r', noted, restated⟩ := @note_spec s answers r r.allMachines ⟨r.allMachines.length, 0, 0⟩ agrees
    (Records.ids_allMachines_nodup keyed) fun m member => (Records.mem_allMachines keyed).1 member
  have perm := Records.perm_allMachines r
  have counts : counted s answers ⟨r.allMachines.length, 0, 0⟩ r.allMachines =
      counted s answers ⟨r.machines.size, 0, 0⟩ r.machines.values := by
    simp only [counted, perm.countP_eq, perm.length_eq, Dict.length_values]
  have given : news s answers r.allMachines = fun id => (r.machines.get? id).map (verdict s answers) :=
    funext (news_allMachines keyed)
  rw [given] at restated
  have operations : r'.operations = r.operations := restated.operations
  have clusters : r'.clusters = (settled s answers r).clusters := by
    refine Dict.ext_get? fun key => ?_
    rw [restated.clusters, settled, Dict.get?_map]
    rfl
  have machines : r'.machines = (settled s answers r).machines := by
    refine Dict.ext_get? fun key => ?_
    rw [restated.machines, settled, Dict.get?_map]
    cases stored : r.machines.get? key with
    | none => rfl
    | some m =>
      obtain rfl := keyed key m stored
      simp [settledMachine, stored]
  have whole : r' = settled s answers r := by
    cases r'
    cases operations
    cases clusters
    cases machines
    rfl
  rw [sweep, noted, counts, whole]

/-- What a sweep leaves behind is no news for the next one with the same answers. -/
theorem sweep_settled (keyed : Records.Keyed r.machines) :
    sweep s answers (fun _ => false) (settled s answers r) = (⟨r.machines.size, 0, 0⟩, settled s answers r) := by
  have perm := Records.perm_allMachines (settled s answers r)
  have length : (settled s answers r).allMachines.length = r.machines.size := by
    rw [perm.length_eq, Dict.length_values]
    exact Dict.size_map _ r.machines
  rw [sweep, note_settled, length]
  intro m member
  obtain ⟨key, found⟩ := Dict.mem_values_iff.1 (perm.mem_iff.1 member)
  rw [settled, Dict.get?_map] at found
  obtain ⟨old, stored, rfl⟩ := Option.map_eq_some_iff.1 found
  obtain rfl := keyed key old stored
  rw [settledMachine, stored]
  rfl

theorem machines_settled (keyed : Records.Keyed r.machines) :
    (settled s answers r).machines = r.machines.map fun m => m.withAgentStatus (verdict s answers m) := by
  refine Dict.ext_get? fun key => ?_
  rw [settled, Dict.get?_map, Dict.get?_map]
  cases stored : r.machines.get? key with
  | none => rfl
  | some m =>
    obtain rfl := keyed key m stored
    simp [settledMachine, stored]

/-- **A sweep settles what is known of agents.** A store begins without records and is asked for anything, as long as
no cluster names a machine twice; then all agents are probed, and those answer that do. Every machine of the table
and every copy of it in the clusters then has the status that the address of the machine deserves, and nothing else
is different. The report counts all machines, those that were lost and those that are back. Another sweep with the
same answers changes nothing and reports no news. In a store, the sweep is a sequence of notes that all succeed if
the file, where there is one, can be written. -/
theorem sweep_settles_statuses (store : Store) (fresh : store.records = .empty)
    (history : List (FileTree × Store.Command)) (distinct : ∀ entry ∈ history, entry.2.Distinct)
    (s : Settings) (answers : String → Bool) :
    let now := (store.run history).1.records
    let report := (sweep s answers (fun _ => false) now).1
    let swept := (sweep s answers (fun _ => false) now).2
    swept.operations = now.operations ∧
    swept.machines = now.machines.map (fun m => m.withAgentStatus (verdict s answers m)) ∧
    swept.clusters = now.clusters.map (fun c =>
      { c with machines := c.machines.map (settledMachine s answers now.machines) }) ∧
    (∀ key c, now.clusters.get? key = some c → ∀ copy ∈ c.machines, ∃ stored,
      now.machines.get? copy.id = some stored ∧
      settledMachine s answers now.machines copy = copy.withAgentStatus (verdict s answers stored)) ∧
    report = ⟨now.machines.size, now.machines.values.countP (IsLost s answers),
      now.machines.values.countP (IsBack s answers)⟩ ∧
    sweep s answers (fun _ => false) swept = (⟨now.machines.size, 0, 0⟩, swept) ∧
    ∃ updates : List (String × AgentStatus), ∀ entries : List (FileTree × Store.Command),
      entries.map Prod.snd = updates.map (fun u => .setAgentStatus u.1 u.2) →
      ((store.run history).1.run entries).1.records = swept ∧
        ∀ outcome ∈ ((store.run history).1.run entries).2, Store.Written outcome → outcome = .ok () := by
  intro now report swept
  have agrees : now.Agrees := Store.agrees_run (fresh ▸ Records.agrees_empty) history distinct
  have keyed : Records.Keyed now.machines :=
    Store.keyed_run (fresh ▸ Records.agrees_empty) (fresh ▸ Records.keyed_empty) history distinct
  have whole : sweep s answers (fun _ => false) now = _ := sweep_eq agrees keyed
  have left : swept = settled s answers now := congrArg Prod.snd whole
  rw [left]
  refine ⟨rfl, machines_settled keyed, rfl, fun key c found copy member => ?_, ?_, sweep_settled keyed, ?_⟩
  · obtain ⟨stored, here, -⟩ := Option.map_eq_some_iff.1 (agrees.known key c found copy member)
    refine ⟨stored, here, ?_⟩
    rw [settledMachine, here]
    rfl
  · refine (congrArg Prod.fst whole).trans ?_
    simp [counted]
  · obtain ⟨updates, done⟩ := note_stored s answers ⟨now.allMachines.length, 0, 0⟩ now now.allMachines
    refine ⟨updates, fun entries commands => ?_⟩
    rw [← left]
    exact done (store.run history).1 entries rfl commands

namespace Sample

def first : Machine := ⟨"n1", "one", "10.0.0.1", .master, "ready", .running⟩

def second : Machine := ⟨"n2", "two", "10.0.0.2", .worker, "ready", .unreachable⟩

def moved : Machine := { first with ip := "10.0.0.3" }

/-- Two clusters share a machine, at different addresses. -/
def history : List (FileTree × Store.Command) :=
  [(.empty, .saveCluster ⟨"a", "a", "v1", .standard, [first, second]⟩),
    (.empty, .saveCluster ⟨"b", "b", "v1", .standard, [moved]⟩)]

def settings : Settings := ⟨1000, 100, 7070⟩

/-- Only the second machine answers. -/
def onlySecond (address : String) : Bool := address = "10.0.0.2:7070"

end Sample

open Sample in
/-- One machine is lost, in both clusters, and one is back; then there is no more news. -/
theorem one_lost_one_back :
    let now := (Store.inMemory.run history).1.records
    let swept := (sweep settings onlySecond (fun _ => false) now).2
    (sweep settings onlySecond (fun _ => false) now).1 = ⟨2, 1, 1⟩ ∧
    swept.clusters.get? "a" = some ⟨"a", "a", "v1", .standard,
      [first.withAgentStatus .unreachable, second.withAgentStatus .running]⟩ ∧
    swept.clusters.get? "b" = some ⟨"b", "b", "v1", .standard, [moved.withAgentStatus .unreachable]⟩ ∧
    sweep settings onlySecond (fun _ => false) swept = (⟨2, 0, 0⟩, swept) := by
  intro now swept
  have distinct : ∀ entry ∈ history, entry.2.Distinct := by
    simp [history, Store.Command.Distinct, first, second]
  obtain ⟨-, -, clusters, -, report, again, -⟩ := sweep_settles_statuses .inMemory rfl history distinct settings onlySecond
  have size : now.machines.size = 2 := by decide
  have lost : now.machines.values.countP (IsLost settings onlySecond) = 1 := by decide +kernel
  have back : now.machines.values.countP (IsBack settings onlySecond) = 1 := by decide +kernel
  refine ⟨?_, ?_, ?_, ?_⟩
  · refine report.trans ?_
    rw [size, lost, back]
  · show swept.clusters.get? "a" = _
    rw [clusters]
    decide +kernel
  · show swept.clusters.get? "b" = _
    rw [clusters]
    decide +kernel
  · rw [← size]
    exact again

end Liveness

end Muster
