import Muster.Proofs.Envelope
import Muster.Proofs.Journey

/-!
# One reply for every message

Whatever the bytes of a message are, whoever does tasks on the machine and however long that takes,
handling it says exactly one reply, on the subject where it is waited for and with the correlation of
the request, and the reply tells of success exactly when the call on its own returned data in time
(`Journey.one_reply_for_each_message`).
-/

set_option autoImplicit false

namespace Muster

/-! ### What a message asks for -/

/-- What a reply is matched by. -/
def Reply.correlation (r : Reply) : Correlation :=
  ⟨r.operationId, r.nodeId, r.nodeStepId, r.taskIndex⟩

namespace Dispatcher

/-- The message is the envelope of a task. -/
structure Asks (m : Message) (e : Envelope) (task : Task) : Prop where
  envelope : Envelope.decode m.payload = .ok e
  task : e.task = .ok task

/-- The task of the message is done in the background. -/
def Detaches (d : Dispatcher) (m : Message) : Prop :=
  ∃ e task invoke, Asks m e task ∧ task.execution = .detached ∧ d.provider = .ok invoke

/-- The task of the message can be done: the message is sound, and there are a provider and settings
for the node. -/
structure Accepts (d : Dispatcher) (m : Message) (e : Envelope) (task : Task)
    (invoke : TaskContext → Task → Procedure ReturnData) (workDir : String) : Prop
    extends Asks m e task where
  provider : d.provider = .ok invoke
  settings : d.workDir = some workDir

/-- What the replies to a message are matched by. -/
def correlation (d : Dispatcher) (m : Message) : Correlation :=
  match Envelope.decode m.payload with
  | .ok e => .ofEnvelope e d.nodeId
  | .error _ => .recover m.payload d.nodeId

/-- The call that does a task. -/
def callOf (d : Dispatcher) (e : Envelope) (task : Task)
    (invoke : TaskContext → Task → Procedure ReturnData) (workDir : String) : Call where
  correlation := .ofEnvelope e d.nodeId
  taskType := task.type
  detached := task.execution = .detached
  limit := task.info.timeout?
  procedure := invoke (d.context e workDir) task

variable {d : Dispatcher} {m : Message} {e e' : Envelope} {task task' : Task}
  {invoke invoke' : TaskContext → Task → Procedure ReturnData} {workDir workDir' : String}

theorem Asks.unique (h : Asks m e task) (h' : Asks m e' task') : e = e' ∧ task = task' := by
  obtain rfl := Except.ok.inj (h.envelope.symm.trans h'.envelope)
  exact ⟨rfl, Except.ok.inj (h.task.symm.trans h'.task)⟩

theorem Accepts.unique (h : d.Accepts m e task invoke workDir)
    (h' : d.Accepts m e' task' invoke' workDir') :
    e = e' ∧ task = task' ∧ invoke = invoke' ∧ workDir = workDir' := by
  obtain ⟨rfl, rfl⟩ := h.toAsks.unique h'.toAsks
  exact ⟨rfl, rfl, Except.ok.inj (h.provider.symm.trans h'.provider),
    Option.some.inj (h.settings.symm.trans h'.settings)⟩

theorem Accepts.correlation_eq (h : d.Accepts m e task invoke workDir) :
    d.correlation m = .ofEnvelope e d.nodeId := by
  rw [correlation, h.envelope]

theorem Accepts.detaches_iff (h : d.Accepts m e task invoke workDir) :
    d.Detaches m ↔ task.execution = .detached := by
  constructor
  · rintro ⟨e', task', invoke', asks, detached, -⟩
    obtain ⟨rfl, rfl⟩ := h.toAsks.unique asks
    exact detached
  · exact fun detached => ⟨e, task, invoke, h.toAsks, detached, h.provider⟩

/-- A message leads to a call if its task can be done, and otherwise to a reply that tells of a
failure. -/
theorem handle_cases (d : Dispatcher) (m : Message) :
    (∃ e task invoke workDir, d.Accepts m e task invoke workDir ∧
      d.handle m.payload = .call (d.callOf e task invoke workDir)) ∨
    (∃ shared r, d.handle m.payload = .reply shared r ∧ r.isSuccess = false ∧
      r.correlation = d.correlation m ∧ (shared = true ↔ d.Detaches m) ∧
      ∀ e task invoke workDir, ¬ d.Accepts m e task invoke workDir) := by
  rw [handle, correlation]
  cases envelope : Envelope.decode m.payload with
  | error cause =>
    refine .inr ⟨_, _, rfl, rfl, rfl, ⟨nofun, ?_⟩, ?_⟩
    · rintro ⟨e, task, invoke, asks, -⟩
      cases envelope.symm.trans asks.envelope
    · intro e task invoke workDir h
      cases envelope.symm.trans h.envelope
  | ok e =>
    simp only
    cases decoded : e.task with
    | error cause =>
      have none_asked {e' task} : ¬ Asks m e' task := by
        intro asks
        obtain rfl := Except.ok.inj (envelope.symm.trans asks.envelope)
        cases decoded.symm.trans asks.task
      refine .inr ⟨_, _, rfl, rfl, rfl, ⟨nofun, ?_⟩, fun _ _ _ _ h => none_asked h.toAsks⟩
      rintro ⟨e', task, invoke, asks, -⟩
      exact absurd asks none_asked
    | ok task =>
      have asks : Asks m e task := ⟨envelope, decoded⟩
      simp only
      cases provider : d.provider with
      | error reason =>
        refine .inr ⟨_, _, rfl, rfl, rfl, ⟨nofun, ?_⟩, ?_⟩
        · rintro ⟨e', task', invoke, -, -, provided⟩
          cases provider.symm.trans provided
        · intro e' task' invoke workDir h
          cases provider.symm.trans h.provider
      | ok invoke =>
        simp only [accept]
        cases settings : d.workDir with
        | none =>
          refine .inr ⟨_, _, rfl, rfl, rfl, ?_, ?_⟩
          · rw [decide_eq_true_eq]
            constructor
            · exact fun detached => ⟨e, task, invoke, asks, detached, provider⟩
            · rintro ⟨e', task', invoke', asks', detached, -⟩
              obtain ⟨rfl, rfl⟩ := asks.unique asks'
              exact detached
          · intro e' task' invoke' workDir h
            cases settings.symm.trans h.settings
        | some workDir =>
          exact .inl ⟨e, task, invoke, workDir, ⟨asks, provider, settings⟩, rfl⟩

end Dispatcher

namespace Journey

/-! ### What is said for a message -/

/-- The first visit from occurrence `n` on. -/
def FirstVisit (schedule : Nat → Occurrence) (n first : Nat) : Prop :=
  n ≤ first ∧ schedule first ≠ .stop ∧ ∀ i, n ≤ i → i < first → schedule i = .stop

theorem FirstVisit.unique {schedule : Nat → Occurrence} {n first other : Nat}
    (h : FirstVisit schedule n first) (h' : FirstVisit schedule n other) : first = other := by
  obtain ⟨le, visited, stops⟩ := h
  obtain ⟨le', visited', stops'⟩ := h'
  rcases Nat.lt_trichotomy first other with before | same | behind
  · exact absurd (stops' first le before) visited
  · exact same
  · exact absurd (stops other le' behind) visited'

theorem exists_firstVisit {schedule : Nat → Occurrence} (endless : Endless schedule) :
    ∃ first, FirstVisit schedule 0 first := by
  have upTo (k : Nat) (visited : schedule k ≠ .stop) : ∃ first, FirstVisit schedule 0 first := by
    induction k using Nat.strongRecOn with
    | ind k ih =>
      by_cases earlier : ∃ i, i < k ∧ schedule i ≠ .stop
      · obtain ⟨i, before, seen⟩ := earlier
        exact ih i before seen
      · refine ⟨k, Nat.zero_le _, visited, fun i _ before => ?_⟩
        by_cases stop : schedule i = .stop
        · exact stop
        · exact absurd ⟨i, before, stop⟩ earlier
  obtain ⟨k, now, host, -, visit, -⟩ := endless 0 0
  exact upTo k (by rw [visit]; nofun)

/-- The task that a message asks for is done as it should be: its call returns `data` in time, and
before a stop if it is in the background. -/
structure Fulfilment (d : Dispatcher) (m : Message) (schedule : Nat → Occurrence) (data : ReturnData)
    where
  envelope : Envelope
  task : Task
  invoke : TaskContext → Task → Procedure ReturnData
  workDir : String
  accepts : d.Accepts m envelope task invoke workDir
  /-- The occurrences at which the message is taken up, its call begins and its call returns. -/
  taken : Nat
  begun : Nat
  ended : Nat
  taken_first : FirstVisit schedule 0 taken
  begun_first : FirstVisit schedule (if task.execution = .detached then taken + 1 else taken) begun
  begun_le : begun ≤ ended
  /-- The moments at which the call begins and returns. -/
  start : Nat
  finish : Nat
  starts : ∃ host, schedule begun = .visit start host
  finishes : ∃ host, schedule ended = .visit finish host
  returns : (ExceptT.run (invoke (d.context envelope workDir) task)).ReturnsAt schedule begun ended
    (.ok data)
  inTime : ∀ limit, task.info.timeout? = some limit → finish ≤ start + limit
  unstopped : task.execution = .detached → ∀ i, taken < i → i < ended → schedule i ≠ .stop

section Said

variable {d : Dispatcher} {m : Message} {schedule : Nat → Occurrence}

theorem after_over {n : Nat} {said : List Message}
    (finished : after d m schedule n = ⟨none, said⟩) {k : Nat} (le : n ≤ k) :
    after d m schedule k = ⟨none, said⟩ := by
  induction le with
  | refl => exact finished
  | @step k le ih =>
    rw [after, ih]
    cases schedule k <;> rfl

/-- A stop before the message is taken up changes nothing. -/
theorem after_stops {n : Nat} (stops : ∀ i, i < n → schedule i = .stop) :
    after d m schedule n = ⟨some (.arrived m), []⟩ := by
  induction n with
  | zero => rfl
  | succ n ih =>
    rw [after, ih fun i before => stops i (by omega), stops n (by omega)]
    rfl

/-- What is said, once it is known that it is said at occurrence `n`. -/
theorem said_eq {n : Nat} {r : Message} (silent : ∀ i, i ≤ n → (after d m schedule i).said = [])
    (finished : after d m schedule (n + 1) = ⟨none, [r]⟩) (k : Nat) :
    (after d m schedule k).said = if k ≤ n then [] else [r] := by
  split
  · next before => exact silent k before
  · next behind => rw [after_over finished (by omega)]

end Said

section Fulfilled

variable {d : Dispatcher} {m : Message} {schedule : Nat → Occurrence} {e : Envelope} {task : Task}
  {invoke : TaskContext → Task → Procedure ReturnData} {workDir : String}

section

variable {taken begun start n : Nat} {host : HostState} {ending : Ending}
  (accepts : d.Accepts m e task invoke workDir) (taken_first : FirstVisit schedule 0 taken)
  (begun_first : FirstVisit schedule (if task.execution = .detached then taken + 1 else taken) begun)
  (starts : schedule begun = .visit start host) (later : begun ≤ n)
  (justified : Justified schedule (d.callOf e task invoke workDir) begun start n ending)
  (unstopped : task.execution = .detached → ∀ i, taken < i → i < n → schedule i ≠ .stop)

include accepts taken_first begun_first starts later justified unstopped

/-- A call whose reply tells of success has done its task as it should be. -/
theorem fulfilment_of_success {data : ReturnData}
    (success : ((d.callOf e task invoke workDir).reply ending).isSuccess = true)
    (carried : ((d.callOf e task invoke workDir).reply ending).returnData = data) :
    Nonempty (Fulfilment d m schedule data) := by
  cases justified with
  | @returned result now host visit returns inTime =>
    cases result with
    | error cause => cases success
    | ok found =>
      obtain rfl : found = data := carried
      exact ⟨{ envelope := e, task, invoke, workDir, accepts, taken, begun, ended := n, taken_first,
               begun_first, begun_le := later, start, finish := now, starts := ⟨_, starts⟩
               finishes := ⟨_, visit⟩, returns, inTime, unstopped }⟩
  | overran => cases success
  | stopped => cases success

omit unstopped in
/-- A call that does its task as it should be is answered with success. -/
theorem success_of_fulfilment {data : ReturnData} (f : Fulfilment d m schedule data) :
    ((d.callOf e task invoke workDir).reply ending).isSuccess = true ∧
      ((d.callOf e task invoke workDir).reply ending).returnData = data := by
  obtain ⟨e', task', invoke', workDir', accepts', taken', begun', ended, taken_first', begun_first',
    begun_le, start', finish, ⟨_, starts'⟩, ⟨_, finishes⟩, returns, inTime, unstopped'⟩ := f
  obtain ⟨rfl, rfl, rfl, rfl⟩ := accepts.unique accepts'
  obtain rfl := taken_first.unique taken_first'
  obtain rfl := begun_first.unique begun_first'
  obtain ⟨rfl, -⟩ := Occurrence.visit.inj (starts.symm.trans starts')
  cases justified with
  | returned visit own _ =>
    obtain ⟨rfl, rfl⟩ := own.unique returns later begun_le
    exact ⟨rfl, rfl⟩
  | overran waits early limited expired =>
    have behind : n + 1 ≤ ended := returns.le_of_waiting begun_le waits
    obtain ⟨now, host, due, rest, visit, last, came⟩ := returns.visited begun_le
    obtain ⟨rfl, -⟩ := Occurrence.visit.inj (finishes.symm.trans visit)
    have := Script.due_le_of_waiting (by omega) waits last behind
    have := inTime _ limited
    omega
  | stopped detached stop waits =>
    have detached : task.execution = .detached := of_decide_eq_true detached
    have behind : n ≤ ended := returns.le_of_waiting begun_le waits
    have apart : n ≠ ended := by
      rintro rfl
      rw [stop] at finishes
      cases finishes
    have from_taken := begun_first.1
    rw [if_pos detached] at from_taken
    exact absurd stop (unstopped' detached n (by omega) (by omega))

/-- A call's reply tells of success and carries data exactly if its call on its own returns the data in
time and is not cut short. -/
theorem success_iff (data : ReturnData) :
    (((d.callOf e task invoke workDir).reply ending).isSuccess = true ∧
      ((d.callOf e task invoke workDir).reply ending).returnData = data) ↔
    Nonempty (Fulfilment d m schedule data) := by
  constructor
  · rintro ⟨success, carried⟩
    exact fulfilment_of_success accepts taken_first begun_first starts later justified unstopped success
      carried
  · rintro ⟨f⟩
    exact success_of_fulfilment accepts taken_first begun_first starts later justified f

end

/-- At occurrence `n` the right reply is said on the right subject, nothing is said before, and the
errand is over. -/
structure SaidAt (d : Dispatcher) (m : Message) (schedule : Nat → Occurrence) (n : Nat)
    (subject : String) (r : Reply) : Prop where
  silent : ∀ i, i ≤ n → (after d m schedule i).said = []
  finished : after d m schedule (n + 1) = ⟨none, [⟨subject, r.encode, none⟩]⟩
  shared : d.Detaches m → subject = Subject.replies
  asked : ¬ d.Detaches m → subject = m.replyTo.getD Subject.replies
  correlation : r.correlation = d.correlation m
  success : ∀ data, (r.isSuccess = true ∧ r.returnData = data) ↔
    Nonempty (Fulfilment d m schedule data)

/-- What can be told at once is said at once. -/
theorem said_at_once {taken : Nat} {shared : Bool} {r : Reply} (taken_first : FirstVisit schedule 0 taken)
    (arrived : ∀ i, i ≤ taken → after d m schedule i = ⟨some (.arrived m), []⟩)
    (handled : d.handle m.payload = .reply shared r) (fails : r.isSuccess = false)
    (correlation : r.correlation = d.correlation m) (detaches : shared = true ↔ d.Detaches m)
    (refused : ∀ e task invoke workDir, ¬ d.Accepts m e task invoke workDir) :
    SaidAt d m schedule taken (Dispatcher.replySubject shared m.replyTo) r where
  silent i le := by rw [arrived i le]
  finished := by
    cases occurrence : schedule taken with
    | stop => exact absurd occurrence taken_first.2.1
    | visit now host =>
      rw [after, arrived taken (Nat.le_refl _), occurrence]
      simp [next, Errand.proceed, handled]
  shared yes := by rw [detaches.2 yes]; rfl
  asked no := by
    have : shared = false := by
      cases shared with
      | false => rfl
      | true => exact absurd (detaches.1 rfl) no
    rw [this]
    rfl
  correlation
  success data := by
    constructor
    · rintro ⟨success, -⟩
      rw [fails] at success
      cases success
    · rintro ⟨f⟩
      exact absurd f.accepts (refused _ _ _ _)

theorem correlation_reply (c : Call) (ending : Ending) :
    (c.reply ending).correlation = c.correlation := by
  rcases ending with ⟨_ | _⟩ | _ | _ <;> rfl

/-- The call of a message that is taken up ends with the right reply. -/
theorem said_after_call {taken begun start : Nat} {host : HostState} {subject : String} {errand : Errand}
    (timely : Timely d m schedule) (accepts : d.Accepts m e task invoke workDir)
    (taken_first : FirstVisit schedule 0 taken)
    (begun_first : FirstVisit schedule (if task.execution = .detached then taken + 1 else taken) begun)
    (starts : schedule begun = .visit start host)
    (journey : after d m schedule begun = ⟨some errand, []⟩)
    (proceeds : (errand.proceed d start host).1 =
      (Errand.pursue start host (.ofCall start (d.callOf e task invoke workDir) subject)).1)
    (silent : ∀ i, i ≤ begun → (after d m schedule i).said = [])
    (begins : task.execution = .detached → begun = taken + 1)
    (shared : d.Detaches m → subject = Subject.replies)
    (asked : ¬ d.Detaches m → subject = m.replyTo.getD Subject.replies) :
    ∃ n r, SaidAt d m schedule n subject r := by
  obtain ⟨n, later, ⟨ending, justified, finished⟩, quiet⟩ := call_ends timely
    (fun detached => shared (accepts.detaches_iff.2 (of_decide_eq_true detached))) starts journey proceeds
  have unstopped (detached : task.execution = .detached) (i : Nat) (behind : taken < i) (before : i < n) :
      schedule i ≠ .stop :=
    quiet.unstopped (decide_eq_true detached) i (by rw [begins detached]; exact behind) before
  refine ⟨n, _, ?_, finished, shared, asked, ?_, success_iff accepts taken_first begun_first starts later
    justified unstopped⟩
  · intro i le
    rcases Nat.le_total i begun with before | behind
    · exact silent i before
    · exact quiet.silent i behind le
  · rw [correlation_reply, accepts.correlation_eq]
    rfl

/-- A stop in the moment before a background call begins cuts it short. -/
theorem said_at_stop {taken : Nat} (accepts : d.Accepts m e task invoke workDir)
    (detached : task.execution = .detached) (taken_first : FirstVisit schedule 0 taken)
    (arrived : ∀ i, i ≤ taken → after d m schedule i = ⟨some (.arrived m), []⟩)
    (journey : after d m schedule (taken + 1) =
      ⟨some (.background (d.callOf e task invoke workDir)), []⟩)
    (stop : schedule (taken + 1) = .stop) :
    SaidAt d m schedule (taken + 1) Subject.replies
      ((d.callOf e task invoke workDir).reply .stopped) where
  silent i le := by
    rcases Nat.lt_or_eq_of_le le with before | rfl
    · rw [arrived i (by omega)]
    · rw [journey]
  finished := by
    rw [after, journey, stop]
    rfl
  shared _ := rfl
  asked no := absurd (accepts.detaches_iff.2 detached) no
  correlation := by
    rw [correlation_reply, accepts.correlation_eq]
    rfl
  success data := by
    constructor
    · rintro ⟨success, -⟩
      cases success
    · rintro ⟨f⟩
      obtain ⟨-, same, -⟩ := accepts.unique f.accepts
      rw [same] at detached
      have from_taken := f.begun_first.1
      rw [if_pos detached, ← taken_first.unique f.taken_first] at from_taken
      obtain ⟨host, finishes⟩ := f.finishes
      have apart : f.ended ≠ taken + 1 := by
        intro here
        rw [here, stop] at finishes
        cases finishes
      have := f.begun_le
      exact absurd stop (f.unstopped detached _ (by rw [← taken_first.unique f.taken_first]; omega)
        (by omega))

/-- For every message there is a reply. -/
theorem exists_saidAt (timely : Timely d m schedule) :
    ∃ n subject r, SaidAt d m schedule n subject r := by
  obtain ⟨taken, taken_first⟩ := exists_firstVisit timely.endless
  have arrived (i : Nat) (le : i ≤ taken) :
      after d m schedule i = ⟨some (.arrived m), []⟩ :=
    after_stops fun k before => taken_first.2.2 k (Nat.zero_le _) (by omega)
  obtain ⟨now, host, visit⟩ : ∃ now host, schedule taken = .visit now host := by
    cases occurrence : schedule taken with
    | stop => exact absurd occurrence taken_first.2.1
    | visit now host => exact ⟨now, host, rfl⟩
  rcases d.handle_cases m with ⟨e, task, invoke, workDir, accepts, handled⟩ |
    ⟨shared, r, handled, fails, correlation, detaches, refused⟩
  · by_cases detached : task.execution = .detached
    · have journey : after d m schedule (taken + 1) =
          ⟨some (.background (d.callOf e task invoke workDir)), []⟩ := by
        rw [after, arrived taken (Nat.le_refl _), visit]
        simp [next, Errand.proceed, handled, Dispatcher.callOf, detached]
      cases coming : schedule (taken + 1) with
      | stop =>
        exact ⟨_, _, _, said_at_stop accepts detached taken_first arrived journey coming⟩
      | visit start host =>
        have begun_first : FirstVisit schedule
            (if task.execution = .detached then taken + 1 else taken) (taken + 1) := by
          rw [if_pos detached]
          exact ⟨Nat.le_refl _, by simp [coming], fun i from_taken before => by omega⟩
        have silent (i : Nat) (le : i ≤ taken + 1) : (after d m schedule i).said = [] := by
          rcases Nat.lt_or_eq_of_le le with before | rfl
          · rw [arrived i (by omega)]
          · rw [journey]
        obtain ⟨n, r, said⟩ := said_after_call timely accepts taken_first begun_first coming journey rfl
          silent (fun _ => rfl) (fun _ => rfl) fun no => absurd (accepts.detaches_iff.2 detached) no
        exact ⟨n, _, r, said⟩
    · have proceeds : ((Errand.arrived m).proceed d now host).1 =
          (Errand.pursue now host (.ofCall now (d.callOf e task invoke workDir)
            (m.replyTo.getD Subject.replies))).1 := by
        simp [Errand.proceed, handled, Dispatcher.callOf, detached, Dispatcher.replySubject]
      have begun_first : FirstVisit schedule
          (if task.execution = .detached then taken + 1 else taken) taken := by
        rw [if_neg detached]
        exact ⟨Nat.le_refl _, taken_first.2.1, fun i from_taken before => by omega⟩
      obtain ⟨n, r, said⟩ := said_after_call timely accepts taken_first begun_first visit
        (arrived taken (Nat.le_refl _)) proceeds (fun i le => by rw [arrived i le])
        (fun yes => absurd yes detached)
        (fun yes => absurd (accepts.detaches_iff.1 yes) detached) fun _ => rfl
      exact ⟨n, _, r, said⟩
  · exact ⟨_, _, _, said_at_once taken_first arrived handled fails correlation detaches refused⟩

end Fulfilled

/-- **Handling a message says exactly one reply.** For every payload, every provider, whatever it does
on the machine and however long that takes, with or without settings, and with the agent stopped at any
moment, there is an occurrence at which the reply is said, nothing is said before and nothing after it.
It goes to the shared subject if the task is done in the background, and otherwise to whoever asked; it
has the correlation of the request, as far as that can be told; and it tells of success exactly if the
task is done as it should be, with exactly the data that it returned. What is asked of the clock holds,
for every agent, message and machine, of one that comes by every moment (`timely_of_every_moment`). -/
theorem one_reply_for_each_message (d : Dispatcher) (m : Message) (schedule : Nat → Occurrence)
    (timely : Timely d m schedule) :
    ∃ (n : Nat) (subject : String) (r : Reply),
      (∀ k, (after d m schedule k).said =
        if k ≤ n then [] else [⟨subject, r.encode, none⟩]) ∧
      (after d m schedule (n + 1)).errand = none ∧
      Reply.decode r.encode = .ok r ∧
      (d.Detaches m → subject = Subject.replies) ∧
      (¬ d.Detaches m → subject = m.replyTo.getD Subject.replies) ∧
      r.nodeId = d.nodeId ∧
      (∀ e, Envelope.decode m.payload = .ok e →
        r.operationId = e.operationId ∧ r.nodeStepId = e.nodeStepId ∧ r.taskIndex = e.taskIndex) ∧
      (∀ cause, Envelope.decode m.payload = .error cause →
        r.correlation = .recover m.payload d.nodeId) ∧
      ∀ data, (r.isSuccess = true ∧ r.returnData = data) ↔
        Nonempty (Fulfilment d m schedule data) := by
  obtain ⟨n, subject, r, said⟩ := exists_saidAt timely
  have correlation := said.correlation
  rw [Dispatcher.correlation] at correlation
  refine ⟨n, subject, r, said_eq said.silent said.finished, by rw [said.finished],
    r.decode_encode_self, said.shared, said.asked, ?_, ?_, ?_, said.success⟩
  · have node := congrArg Correlation.nodeId correlation
    cases envelope : Envelope.decode m.payload with
    | ok e => rwa [envelope] at node
    | error cause => rwa [envelope] at node
  · intro e envelope
    rw [envelope] at correlation
    exact ⟨congrArg Correlation.operationId correlation, congrArg Correlation.nodeStepId correlation,
      congrArg Correlation.taskIndex correlation⟩
  · intro cause envelope
    rw [envelope] at correlation
    exact correlation

/-! ### A request that is fulfilled, and one that is not -/

/-- An agent whose tasks take some milliseconds and then return a join command. -/
def sampleAgent (ms : Nat) : Dispatcher where
  nodeId := "n1"
  provider := .ok fun _ _ => do
    Procedure.pause ms
    return Dict.single "joinWorkerCMD" "kubeadm join"
  workDir := some "/tmp/fleet-agent"

/-- A task that runs in the background, within a second. -/
def sampleTask : Task := .asyncRunCommand ⟨⟨.create, 1⟩, ["uptime"], false⟩

/-- The envelope of the task. -/
def sampleEnvelope : Envelope := .ofTask "op" "ns" ⟨"c", "c", "1", .standard, []⟩ sampleTask

/-- The request to do the task. -/
def sampleRequest : Message := ⟨"fleet.node.n1", sampleEnvelope.encode, some "_INBOX.engine"⟩

/-- An agent that looks every millisecond, on a machine without files. -/
def sampleSchedule (n : Nat) : Occurrence := .visit n ⟨.empty, [], []⟩

theorem firstVisit_sampleSchedule (n : Nat) : FirstVisit sampleSchedule n n :=
  ⟨Nat.le_refl n, by simp [sampleSchedule], fun _ le before => absurd before (Nat.not_lt.2 le)⟩

theorem accepts_sampleRequest (ms : Nat) : (sampleAgent ms).Accepts sampleRequest sampleEnvelope sampleTask
    (fun _ _ => do
      Procedure.pause ms
      return Dict.single "joinWorkerCMD" "kubeadm join") "/tmp/fleet-agent" :=
  ⟨⟨Envelope.decode_encode_self _, Envelope.task_of_payload rfl rfl⟩, rfl, rfl⟩

/-- A task that takes five seconds is not done within one. -/
theorem sample_overruns {data : ReturnData} :
    ¬ Nonempty (Fulfilment (sampleAgent 5000) sampleRequest sampleSchedule data) := by
  rintro ⟨e, task, invoke, workDir, accepts, taken, begun, ended, taken_first, begun_first, begun_le, start,
    finish, ⟨_, starts⟩, ⟨_, finishes⟩, returns, inTime, -⟩
  obtain ⟨rfl, rfl, rfl, rfl⟩ := (accepts_sampleRequest 5000).unique accepts
  obtain rfl := (firstVisit_sampleSchedule 0).unique taken_first
  obtain rfl := (firstVisit_sampleSchedule 1).unique begun_first
  obtain ⟨rfl, -⟩ := Occurrence.visit.inj starts
  obtain ⟨rfl, -⟩ := Occurrence.visit.inj finishes
  -- From its first visit on it waits for the moment 5001.
  have behind := returns.le_of_waiting begun_le (k := 2) rfl
  obtain ⟨now, host, due, rest, visit, last, came⟩ := returns.visited begun_le
  obtain ⟨rfl, -⟩ := Occurrence.visit.inj visit
  have waits := Script.due_le_of_waiting (n := 2) (by decide) rfl last behind
  have := inTime 1000 rfl
  omega

/-- A task that returns its data in time is answered with them, and one that does not is answered with an
error, both on the shared subject. -/
theorem sample_replied :
    (Timely (sampleAgent 5) sampleRequest sampleSchedule ∧
      ∃ (n : Nat) (r : Reply),
        (∀ k, (after (sampleAgent 5) sampleRequest sampleSchedule k).said =
          if k ≤ n then [] else [⟨"fleet.replies", r.encode, none⟩]) ∧
        r.isSuccess = true ∧ r.returnData = Dict.single "joinWorkerCMD" "kubeadm join") ∧
    Timely (sampleAgent 5000) sampleRequest sampleSchedule ∧
      ∃ (n : Nat) (r : Reply),
        (∀ k, (after (sampleAgent 5000) sampleRequest sampleSchedule k).said =
          if k ≤ n then [] else [⟨"fleet.replies", r.encode, none⟩]) ∧
        r.isSuccess = false := by
  have timely (ms : Nat) : Timely (sampleAgent ms) sampleRequest sampleSchedule :=
    timely_of_every_moment (sampleAgent ms) sampleRequest fun _ => ⟨.empty, [], []⟩
  refine ⟨⟨timely 5, ?_⟩, timely 5000, ?_⟩
  · obtain ⟨n, subject, r, said, -, -, shared, -, -, -, -, success⟩ :=
      one_reply_for_each_message (sampleAgent 5) sampleRequest sampleSchedule (timely 5)
    have accepts := accepts_sampleRequest 5
    obtain rfl := shared (accepts.detaches_iff.2 rfl)
    refine ⟨n, r, said, (success _).2 ⟨?_⟩⟩
    exact
      { envelope := _, task := _, invoke := _, workDir := _, accepts
        taken := 0, begun := 1, ended := 6, start := 1, finish := 6
        taken_first := firstVisit_sampleSchedule 0
        begun_first := firstVisit_sampleSchedule 1
        begun_le := by decide
        starts := ⟨_, rfl⟩
        finishes := ⟨_, rfl⟩
        returns := ⟨⟨_, _, rfl⟩, rfl⟩
        inTime := fun limit limited => by
          obtain rfl : 1000 = limit := Option.some.inj limited
          decide
        unstopped := fun _ _ _ _ => nofun }
  · obtain ⟨n, subject, r, said, -, -, shared, -, -, -, -, success⟩ :=
      one_reply_for_each_message (sampleAgent 5000) sampleRequest sampleSchedule (timely 5000)
    obtain rfl := shared ((accepts_sampleRequest 5000).detaches_iff.2 rfl)
    refine ⟨n, r, said, eq_false_of_ne_true fun succeeds => ?_⟩
    exact sample_overruns ((success r.returnData).1 ⟨succeeds, rfl⟩)

end Journey

end Muster
