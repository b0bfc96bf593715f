import Muster.Dispatcher
import Muster.Proofs.Script

/-!
# Calls on their way

An agent goes on with an errand whenever it is visited, on the machine as it then is, and may be
stopped at any moment. A `Journey` is an errand with what has been said for it. A call that is taken up
ends once, and nothing is said before (`Journey.call_ends`): it ends with what it returned, because its
time is seen to be over, or because a stop cuts it short, and each only when it is so
(`Journey.Justified`).
-/

set_option autoImplicit false

namespace Muster

/-! ### Journeys -/

/-- An errand, if it is not over, and what has been said for it. -/
structure Journey where
  errand : Option Errand
  said : List Message

namespace Journey

/-- The journey after one more occurrence. -/
def next (d : Dispatcher) (t : Journey) : Occurrence → Journey
  | .visit now host =>
    match t.errand with
    | none => t
    | some e =>
      match (e.proceed d now host).1 with
      | .detached c => { t with errand := some (.background c) }
      | .waiting j => { t with errand := some (.running j) }
      | .replied m => ⟨none, t.said ++ [m]⟩
  | .stop =>
    match t.errand.bind Errand.cut with
    | some m => ⟨none, t.said ++ [m]⟩
    | none => t

/-- The journey of a message after the first `n` occurrences. -/
def after (d : Dispatcher) (m : Message) (schedule : Nat → Occurrence) : (n : Nat) → Journey
  | 0 => ⟨some (.arrived m), []⟩
  | n + 1 => (after d m schedule n).next d (schedule n)

end Journey

/-- The clock of an agent: it comes past every moment, and the agent goes on with a job at the latest
when the job is due. -/
structure Timely (d : Dispatcher) (m : Message) (schedule : Nat → Occurrence) : Prop where
  endless : Endless schedule
  prompt : ∀ n now host j, schedule n = .visit now host →
    (Journey.after d m schedule n).errand = some (.running j) → now ≤ j.next

/-! ### A call under way -/

open Dispatcher (Job)

/-- A job that waits goes on waiting, unless its time is seen to be over. -/
theorem Dispatcher.Job.park_cases (now : Nat) (j : Job) :
    j.park now = .waiting j ∨
    ∃ deadline, j.deadline = some deadline ∧ deadline ≤ now ∧
      j.park now = .ended (j.call.reply .overran) := by
  rw [Job.park]
  split
  · next deadline limited =>
    split
    · next expired => exact .inr ⟨deadline, limited, expired, rfl⟩
    · exact .inl rfl
  · exact .inl rfl

/-- What comes of a job at a visit: the script waits, and the job does too or its time is seen to be
over; or the script has its result, and that is the reply. -/
theorem Errand.pursue_cases (now : Nat) (host : HostState) (j : Job) :
    (∃ due rest, (Progress.waiting j.due j.rest).follow (.visit now host) = .waiting due rest ∧
      now < due ∧
      ((pursue now host j).1 = .waiting { j with due, rest } ∨
        ∃ deadline, j.deadline = some deadline ∧ deadline ≤ now ∧
          (pursue now host j).1 = .replied ⟨j.subject, (j.call.reply .overran).encode, none⟩)) ∨
    ∃ result, (Progress.waiting j.due j.rest).follow (.visit now host) = .done result ∧
      (pursue now host j).1 =
        .replied ⟨j.subject, (j.call.reply (.returned result)).encode, none⟩ := by
  have parked (k : Job) (same : k.call = j.call ∧ k.subject = j.subject ∧ k.deadline = j.deadline)
      (h : HostState) (advanced : j.advance now host = (k.park now, h)) :
      (pursue now host j).1 = .waiting k ∨
        ∃ deadline, j.deadline = some deadline ∧ deadline ≤ now ∧
          (pursue now host j).1 = .replied ⟨j.subject, (j.call.reply .overran).encode, none⟩ := by
    rw [pursue, advanced]
    rcases k.park_cases now with waits | ⟨deadline, limited, expired, ended⟩
    · exact .inl (by rw [waits])
    · refine .inr ⟨deadline, same.2.2 ▸ limited, expired, ?_⟩
      rw [ended, same.1]
  rw [Progress.follow]
  by_cases early : now < j.due
  · rw [if_pos early]
    have advanced : j.advance now host = (j.park now, host) := by rw [Job.advance, if_pos early]
    exact .inl ⟨j.due, j.rest, rfl, early, parked j ⟨rfl, rfl, rfl⟩ host advanced⟩
  · rw [if_neg early]
    cases advanced : j.rest.advance now host with
    | mk progress h =>
      cases progress with
      | done result =>
        refine .inr ⟨result, rfl, ?_⟩
        rw [pursue, Job.advance, if_neg early, advanced]
      | waiting due rest =>
        refine .inl ⟨due, rest, rfl, Script.due_of_advance (congrArg Prod.fst advanced),
          parked { j with due, rest } ⟨rfl, rfl, rfl⟩ h ?_⟩
        rw [Job.advance, if_neg early, advanced]

namespace Journey

section Under

variable (d : Dispatcher) (m : Message) (schedule : Nat → Occurrence) (c : Call) (subject : String)
  (begun start : Nat)

/-- The call that was taken up at occurrence `begun`, at the moment `start`, is still being carried out
before occurrence `n`. -/
structure Running (n : Nat) (j : Job) : Prop where
  journey : after d m schedule n = ⟨some (.running j), []⟩
  call : j.call = c
  subject : j.subject = subject
  deadline : j.deadline = c.limit.map (start + ·)
  alone : (ExceptT.run c.procedure).alone schedule begun n = .waiting j.due j.rest

/-- Why a call ends at occurrence `n` as it does. -/
inductive Justified (n : Nat) : Ending → Prop
  | returned {result : Except ProviderError ReturnData} {now : Nat} {host : HostState}
      (visit : schedule n = .visit now host)
      (returns : (ExceptT.run c.procedure).ReturnsAt schedule begun n result)
      (inTime : ∀ limit, c.limit = some limit → now ≤ start + limit) :
      Justified n (.returned result)
  | overran {now due limit : Nat} {rest : Script (Except ProviderError ReturnData)}
      (waits : (ExceptT.run c.procedure).alone schedule begun (n + 1) = .waiting due rest)
      (early : now < due) (limited : c.limit = some limit) (expired : start + limit ≤ now) :
      Justified n .overran
  | stopped {due : Nat} {rest : Script (Except ProviderError ReturnData)}
      (detached : c.detached = true) (stop : schedule n = .stop)
      (waits : (ExceptT.run c.procedure).alone schedule begun n = .waiting due rest) :
      Justified n .stopped

/-- The call ends at occurrence `n`, for a reason, and that is said. -/
def EndsAt (n : Nat) : Prop :=
  ∃ ending, Justified schedule c begun start n ending ∧
    after d m schedule (n + 1) = ⟨none, [⟨subject, (c.reply ending).encode, none⟩]⟩

variable {d m schedule c subject begun start}

/-- A visit takes a call that is being carried out on, or to its end. -/
theorem carried_on {n now : Nat} {host : HostState} {e : Errand} {j : Job}
    (journey : after d m schedule n = ⟨some e, []⟩) (visit : schedule n = .visit now host)
    (proceeds : (e.proceed d now host).1 = (Errand.pursue now host j).1)
    (call : j.call = c) (sameSubject : j.subject = subject) (deadline : j.deadline = c.limit.map (start + ·))
    (waits : ∃ due rest, (ExceptT.run c.procedure).alone schedule begun n = .waiting due rest)
    (follows : (ExceptT.run c.procedure).alone schedule begun (n + 1) =
      (Progress.waiting j.due j.rest).follow (.visit now host))
    (inTime : ∀ limit, c.limit = some limit → now ≤ start + limit) :
    (∃ j, Running d m schedule c subject begun start (n + 1) j) ∨
      EndsAt d m schedule c subject begun start n := by
  have moved : after d m schedule (n + 1) =
      next d ⟨some e, []⟩ (.visit now host) := by
    rw [after, journey, visit]
  simp only [next, proceeds, List.nil_append] at moved
  subst call sameSubject
  rcases Errand.pursue_cases now host j with
    ⟨due, rest, waiting, early, goes | ⟨limit, limited, expired, ends⟩⟩ | ⟨result, done, ends⟩
  · rw [goes] at moved
    exact .inl ⟨_, ⟨moved, rfl, rfl, deadline, follows.trans waiting⟩⟩
  · rw [ends] at moved
    rw [deadline] at limited
    obtain ⟨limit, own, rfl⟩ := Option.map_eq_some_iff.1 limited
    exact .inr ⟨.overran, .overran (follows.trans waiting) early own expired, moved⟩
  · rw [ends] at moved
    exact .inr ⟨.returned result, .returned visit ⟨waits, follows.trans done⟩ inTime, moved⟩

/-- A call that is being carried out goes on, or ends. -/
theorem Running.step {n : Nat} {j : Job} (timely : Timely d m schedule)
    (shared : c.detached = true → subject = Subject.replies) (later : begun ≤ n)
    (h : Running d m schedule c subject begun start n j) :
    ((∃ j, Running d m schedule c subject begun start (n + 1) j) ∧
      (c.detached = true → schedule n ≠ .stop)) ∨
    EndsAt d m schedule c subject begun start n := by
  cases occurrence : schedule n with
  | visit now host =>
    have inTime (limit : Nat) (limited : c.limit = some limit) : now ≤ start + limit := by
      have prompt := timely.prompt n now host j occurrence (by rw [h.journey])
      rw [Job.next, h.deadline, limited] at prompt
      exact Nat.le_trans prompt (Nat.min_le_right _ _)
    have follows : (ExceptT.run c.procedure).alone schedule begun (n + 1) = _ :=
      Script.alone_succ later
    rw [h.alone, occurrence] at follows
    rcases carried_on h.journey occurrence rfl h.call h.subject h.deadline ⟨_, _, h.alone⟩ follows
      inTime with goes | ends
    · exact .inl ⟨goes, fun _ => nofun⟩
    · exact .inr ends
  | stop =>
    have moved : after d m schedule (n + 1) = next d ⟨some (.running j), []⟩ .stop := by
      rw [after, h.journey, occurrence]
    simp only [next, Option.bind_some, Errand.cut, h.call] at moved
    by_cases detached : c.detached = true
    · rw [if_pos detached, Errand.farewell, ← shared detached] at moved
      exact .inr ⟨.stopped, .stopped detached occurrence h.alone, moved⟩
    · rw [if_neg detached] at moved
      have alone : (ExceptT.run c.procedure).alone schedule begun (n + 1) = _ :=
        Script.alone_succ later
      rw [h.alone, occurrence] at alone
      exact .inl ⟨⟨j, moved, h.call, h.subject, h.deadline, alone⟩, fun yes => absurd yes detached⟩

/-- Until occurrence `n` nothing has been said, and no stop has cut a call in the background short. -/
structure Quiet (d : Dispatcher) (m : Message) (schedule : Nat → Occurrence) (c : Call)
    (begun n : Nat) : Prop where
  silent : ∀ i, begun ≤ i → i ≤ n → (after d m schedule i).said = []
  unstopped : c.detached = true → ∀ i, begun ≤ i → i < n → schedule i ≠ .stop

theorem Quiet.snoc {n : Nat} (h : Quiet d m schedule c begun n)
    (silent : (after d m schedule (n + 1)).said = [])
    (unstopped : c.detached = true → schedule n ≠ .stop) : Quiet d m schedule c begun (n + 1) where
  silent i from_begun to_n := by
    rcases Nat.lt_or_eq_of_le to_n with before | rfl
    · exact h.silent i from_begun (by omega)
    · exact silent
  unstopped detached i from_begun to_n := by
    rcases Nat.lt_or_eq_of_le (Nat.le_of_lt_succ to_n) with before | rfl
    · exact h.unstopped detached i from_begun before
    · exact unstopped detached

/-- **A call that is taken up ends**, once, and nothing is said before. -/
theorem call_ends {host : HostState} {e : Errand} (timely : Timely d m schedule)
    (shared : c.detached = true → subject = Subject.replies)
    (visit : schedule begun = .visit start host)
    (journey : after d m schedule begun = ⟨some e, []⟩)
    (proceeds : (e.proceed d start host).1 =
      (Errand.pursue start host (.ofCall start c subject)).1) :
    ∃ n, begun ≤ n ∧ EndsAt d m schedule c subject begun start n ∧ Quiet d m schedule c begun n := by
  have follows : (ExceptT.run c.procedure).alone schedule begun (begun + 1) =
      (Progress.waiting start (ExceptT.run c.procedure)).follow (.visit start host) := by
    rw [Script.alone_succ (Nat.le_refl _), Script.alone_begun, visit]
    simp [Progress.follow]
  have quiet : Quiet d m schedule c begun begun :=
    { silent i from_begun to_begun := by
        obtain rfl : i = begun := by omega
        rw [journey]
      unstopped _ i from_begun to_begun := by omega }
  -- At every later occurrence the call is being carried out or has ended before.
  have course : ∀ n, begun + 1 ≤ n →
      (∃ j, Running d m schedule c subject begun start n j ∧ Quiet d m schedule c begun n) ∨
      ∃ k, begun ≤ k ∧ EndsAt d m schedule c subject begun start k ∧ Quiet d m schedule c begun k := by
    intro n le
    induction le with
    | refl =>
      rcases carried_on journey visit proceeds rfl rfl rfl ⟨_, _, Script.alone_begun⟩ follows
        (fun limit _ => Nat.le_add_right _ _) with ⟨j, running⟩ | ends
      · exact .inl ⟨j, running, quiet.snoc (by rw [running.journey]) fun _ stop => by
          rw [visit] at stop; cases stop⟩
      · exact .inr ⟨begun, Nat.le_refl _, ends, quiet⟩
    | @step n le ih =>
      have later : begun ≤ n := Nat.le_of_succ_le le
      rcases ih with ⟨j, running, quiet⟩ | ended
      · rcases running.step timely shared later with ⟨⟨j, goes⟩, unstopped⟩ | ends
        · exact .inl ⟨j, goes, quiet.snoc (by rw [goes.journey]) unstopped⟩
        · exact .inr ⟨n, later, ends, quiet⟩
      · exact .inr ended
  obtain ⟨n, result, later, done⟩ : ∃ n result, begun ≤ n ∧
      (ExceptT.run c.procedure).alone schedule begun n = .done result :=
    Script.exists_done timely.endless
  rcases Nat.lt_or_eq_of_le later with behind | rfl
  · rcases course n behind with ⟨j, running, -⟩ | ended
    · rw [running.alone] at done
      cases done
    · exact ended
  · rw [Script.alone_begun] at done
    cases done

end Under

/-! ### An agent that looks every millisecond -/

/-- A job that still waits after a visit is due later. -/
theorem lt_next_of_pursue {now : Nat} {host : HostState} {j j' : Job}
    (waits : (Errand.pursue now host j).1 = .waiting j') : now < j'.next := by
  have parked {k : Job} (due : now < k.due) (parks : k.park now = .waiting j') : now < j'.next := by
    rw [Job.park] at parks
    split at parks
    · next deadline limited =>
      split at parks
      · cases parks
      · obtain rfl := Dispatcher.JobStanding.waiting.inj parks
        rw [Job.next, limited]
        exact Nat.lt_min.2 ⟨due, by omega⟩
    · next unlimited =>
      obtain rfl := Dispatcher.JobStanding.waiting.inj parks
      rw [Job.next, unlimited]
      exact due
  rw [Errand.pursue] at waits
  cases advanced : j.advance now host with
  | mk standing h =>
    rw [advanced] at waits
    cases standing with
    | ended r => cases waits
    | waiting k =>
      obtain rfl := Errand.Course.waiting.inj waits
      rw [Job.advance] at advanced
      split at advanced
      · next early => exact parked early (congrArg Prod.fst advanced)
      · cases progress : j.rest.advance now host with
        | mk p h =>
          rw [progress] at advanced
          cases p with
          | done result => cases advanced
          | waiting due rest =>
            exact parked (k := { j with due, rest })
              (Script.due_of_advance (congrArg Prod.fst progress)) (congrArg Prod.fst advanced)

theorem lt_next_of_proceed {d : Dispatcher} {now : Nat} {host : HostState} {e : Errand} {j : Job}
    (waits : (e.proceed d now host).1 = .waiting j) : now < j.next := by
  cases e with
  | background c => exact lt_next_of_pursue waits
  | running k => exact lt_next_of_pursue waits
  | arrived m =>
    rw [Errand.proceed] at waits
    split at waits
    · cases waits
    · split at waits
      · cases waits
      · exact lt_next_of_pursue waits

/-- An agent that looks every millisecond looks at a job at the latest when it is due. -/
theorem timely_of_every_moment (d : Dispatcher) (m : Message) (hosts : Nat → HostState) :
    Timely d m fun n => .visit n (hosts n) where
  endless time n := ⟨max time n, _, _, Nat.le_max_right _ _, rfl, Nat.le_max_left _ _⟩
  prompt n now host j visit running := by
    obtain ⟨rfl, rfl⟩ := Occurrence.visit.inj visit
    cases n with
    | zero => exact Nat.zero_le _
    | succ n =>
      rw [after] at running
      generalize after d m (fun n => .visit n (hosts n)) n = t at running
      rw [next] at running
      split at running
      · next none_left => rw [none_left] at running; cases running
      · next e _ =>
        split at running
        · cases running
        · next k waits =>
          obtain rfl := Errand.running.inj (Option.some.inj running)
          exact lt_next_of_proceed waits
        · cases running

end Journey

end Muster
