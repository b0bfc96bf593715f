import Mathlib.Logic.ExistsUnique
import Muster.Proofs.Transcript
import Muster.Provider.Kubeadm

/-!
# Attempts and the resets between them

A kubeadm command is tried until an attempt succeeds or as many were made as the policy allows. What an
attempt does and how it ends is left open (`Try`), and so is how a reset ends. `resets_between_attempts`
says for every sequence of attempts at which of them the trying ends (`EndsAt`), what is done up to then
(`trials`), and what comes out; a reset decides none of this.
-/

set_option autoImplicit false

namespace Muster.Kubeadm

/-- An attempt: what it did and how it ended. -/
structure Try (attempt : Procedure CommandOutput) where
  did : Transcript
  outcome : Except ProviderError CommandOutput
  yields : attempt.Yields did outcome

variable {attempt : Procedure CommandOutput} {es : Transcript}

/-- The attempts up to the one at place `last`, each behind a reset and a pause except for the first. -/
def trials (backoffMs : Nat) (tries : Nat → Try attempt)
    (resets : Nat → Except ProviderError CommandOutput) (last : Nat) : Transcript :=
  (tries 0).did ++ (List.range last).flatMap fun k =>
    [.ran reset none (resets k), .paused backoffMs] ++ (tries (k + 1)).did

/-- If there may be `limit` attempts, the one at place `last` is the last one: those before it failed, and
it succeeds or there may be no more. -/
structure EndsAt (limit : Nat) (tries : Nat → Try attempt) (last : Nat) : Prop where
  within : last < limit
  failed : ∀ k < last, ∃ e, (tries k).outcome = .error e
  ended : (∃ output, (tries last).outcome = .ok output) ∨ last + 1 = limit

/-- A sequence with something put before it. -/
def ahead {α : Type} (first : α) (later : Nat → α) : Nat → α
  | 0 => first
  | k + 1 => later k

theorem trials_succ {backoffMs last : Nat} {tries : Nat → Try attempt}
    {resets : Nat → Except ProviderError CommandOutput} :
    trials backoffMs tries resets (last + 1) =
      (tries 0).did ++ ([.ran reset none (resets 0), .paused backoffMs] ++
        trials backoffMs (fun k => tries (k + 1)) (fun k => resets (k + 1)) last) := by
  simp [trials, List.range_succ_eq_map, List.flatMap_map]

theorem EndsAt.unique {limit i j : Nat} {tries : Nat → Try attempt} (first : EndsAt limit tries i)
    (second : EndsAt limit tries j) : i = j := by
  -- The earlier of two would have failed, as all before the later one, and more might follow it.
  have notBefore {i j : Nat} (first : EndsAt limit tries i) (second : EndsAt limit tries j) : ¬ i < j := by
    intro before
    obtain ⟨e, failed⟩ := second.failed i before
    rcases first.ended with ⟨output, succeeded⟩ | full
    · rw [failed] at succeeded
      cases succeeded
    · have := second.within
      omega
  exact Nat.le_antisymm (Nat.le_of_not_lt (notBefore second first)) (Nat.le_of_not_lt (notBefore first second))

theorem endsAt_zero {limit : Nat} {tries : Nat → Try attempt}
    (ended : (∃ output, (tries 0).outcome = .ok output) ∨ limit = 0) : EndsAt (limit + 1) tries 0 :=
  ⟨Nat.succ_pos limit, nofun, ended.imp id fun full => congrArg (· + 1) full.symm⟩

/-- Behind a failure the trying ends where the later attempts end. -/
theorem endsAt_succ {limit last : Nat} {tries : Nat → Try attempt} {e : ProviderError}
    (failed : (tries 0).outcome = .error e) :
    EndsAt (limit + 1) tries (last + 1) ↔ EndsAt limit (fun k => tries (k + 1)) last where
  mp ends :=
    { within := Nat.lt_of_succ_lt_succ ends.within
      failed := fun k before => ends.failed (k + 1) (Nat.succ_lt_succ before)
      ended := ends.ended.imp id Nat.succ.inj }
  mpr ends :=
    { within := Nat.succ_lt_succ ends.within
      failed := fun
        | 0, _ => ⟨e, failed⟩
        | k + 1, before => ends.failed k (Nat.lt_of_succ_lt_succ before)
      ended := ends.ended.imp id (congrArg (· + 1)) }

/-- Every sequence of attempts comes to an end. -/
theorem exists_endsAt (limit : Nat) (tries : Nat → Try attempt) : ∃ last, EndsAt (limit + 1) tries last := by
  induction limit generalizing tries with
  | zero => exact ⟨0, endsAt_zero (.inr rfl)⟩
  | succ limit ih =>
    cases here : (tries 0).outcome with
    | ok output => exact ⟨0, endsAt_zero (.inl ⟨output, here⟩)⟩
    | error e =>
      obtain ⟨last, ends⟩ := ih fun k => tries (k + 1)
      exact ⟨last + 1, (endsAt_succ here).2 ends⟩

/-- Between two attempts there is a reset, whatever its outcome, and a pause. -/
theorem betweenAttempts_yields {backoffMs : Nat} {onward : Procedure (CommandOutput × Nat)}
    {result : Except ProviderError (CommandOutput × Nat)} :
    Procedure.Yields (do
      Procedure.runAnyway reset none
      Procedure.pause backoffMs
      onward) es result ↔
      ∃ answer rest, es = [.ran reset none answer, .paused backoffMs] ++ rest ∧ onward.Yields rest result := by
  simp only [Procedure.yields_bind, Procedure.yields_runAnyway, Procedure.yields_pause, reduceCtorEq,
    and_false, false_and, exists_false, false_or, and_true]
  constructor
  · rintro ⟨_, _, _, rfl, ⟨answer, rfl⟩, _, _, rest, rfl, rfl, goesOn⟩
    exact ⟨answer, rest, rfl, goesOn⟩
  · rintro ⟨answer, rest, rfl, goesOn⟩
    exact ⟨(), [_], _, rfl, ⟨answer, rfl⟩, (), [_], rest, rfl, rfl, goesOn⟩

/-- One attempt, and behind a failure what the attempts that are left do after a reset and a pause. -/
theorem retryFrom_yields_succ {backoffMs left n : Nat} {result : Except ProviderError (CommandOutput × Nat)} :
    (retryFrom backoffMs attempt (left + 1) n).Yields es result ↔
      (∃ output, attempt.Yields es (.ok output) ∧ result = .ok (output, n)) ∨
      ∃ e did answer rest, attempt.Yields did (.error e) ∧
        es = did ++ ([.ran reset none answer, .paused backoffMs] ++ rest) ∧
        (retryFrom backoffMs attempt left (n + 1)).Yields rest result := by
  rw [retryFrom, Procedure.yields_bind]
  constructor
  · rintro (⟨e, failed, -⟩ | ⟨outcome, did, rest, rfl, tried, onward⟩)
    · obtain ⟨_, -, ⟨⟩⟩ := Procedure.yields_attempt.1 failed
    · obtain ⟨_, tried, ⟨⟩⟩ := Procedure.yields_attempt.1 tried
      cases outcome with
      | ok output =>
        obtain ⟨rfl, rfl⟩ := Procedure.yields_pure.1 onward
        exact .inl ⟨output, (List.append_nil did).symm ▸ tried, rfl⟩
      | error e =>
        obtain ⟨answer, rest, rfl, goesOn⟩ := betweenAttempts_yields.1 onward
        exact .inr ⟨e, did, answer, rest, tried, rfl, goesOn⟩
  · rintro (⟨output, tried, rfl⟩ | ⟨e, did, answer, rest, tried, rfl, onward⟩)
    · exact .inr ⟨.ok output, es, [], (List.append_nil es).symm,
        Procedure.yields_attempt.2 ⟨_, tried, rfl⟩, Procedure.yields_pure.2 ⟨rfl, rfl⟩⟩
    · exact .inr ⟨.error e, did, _, rfl, Procedure.yields_attempt.2 ⟨_, tried, rfl⟩,
        betweenAttempts_yields.2 ⟨answer, rest, rfl, onward⟩⟩

/-- The transcripts and results are those of the sequences of attempts, up to the one at which they end. -/
theorem retryFrom_yields {backoffMs left n : Nat} {result : Except ProviderError (CommandOutput × Nat)} :
    (retryFrom backoffMs attempt left n).Yields es result ↔
      ∃ (tries : Nat → Try attempt) (resets : Nat → Except ProviderError CommandOutput) (last : Nat),
        EndsAt (left + 1) tries last ∧ es = trials backoffMs tries resets last ∧
        result = (tries last).outcome.map fun output => (output, n + last) := by
  induction left generalizing n es with
  | zero =>
    rw [retryFrom, Procedure.yields_map]
    constructor
    · rintro ⟨outcome, tried, rfl⟩
      exact ⟨fun _ => ⟨es, outcome, tried⟩, fun _ => .ok default, 0, endsAt_zero (.inr rfl), by simp [trials],
        rfl⟩
    · rintro ⟨tries, resets, last, ends, rfl, rfl⟩
      obtain rfl : last = 0 := Nat.lt_one_iff.1 ends.within
      exact ⟨_, by simpa [trials] using (tries 0).yields, rfl⟩
  | succ left ih =>
    rw [retryFrom_yields_succ]
    constructor
    · rintro (⟨output, tried, rfl⟩ | ⟨e, did, answer, rest, tried, rfl, onward⟩)
      · exact ⟨fun _ => ⟨es, .ok output, tried⟩, fun _ => .ok default, 0, endsAt_zero (.inl ⟨output, rfl⟩),
          by simp [trials], rfl⟩
      · obtain ⟨tries, resets, last, ends, rfl, rfl⟩ := ih.1 onward
        refine ⟨ahead ⟨did, .error e, tried⟩ tries, ahead answer resets, last + 1, (endsAt_succ rfl).2 ends,
          ?_, ?_⟩
        · rw [trials_succ]
          rfl
        · rw [Nat.add_right_comm, Nat.add_assoc]
          rfl
    · rintro ⟨tries, resets, last, ends, rfl, rfl⟩
      cases last with
      | zero =>
        obtain ⟨output, succeeded⟩ : ∃ output, (tries 0).outcome = .ok output :=
          ends.ended.resolve_right nofun
        exact .inl ⟨output, by simpa [trials, succeeded] using (tries 0).yields, by rw [succeeded]; rfl⟩
      | succ last =>
        obtain ⟨e, failed⟩ := ends.failed 0 (Nat.succ_pos last)
        refine .inr ⟨e, (tries 0).did, resets 0, _, failed ▸ (tries 0).yields, trials_succ, ih.2
          ⟨fun k => tries (k + 1), fun k => resets (k + 1), last, (endsAt_succ failed).1 ends, rfl, ?_⟩⟩
        rw [Nat.add_right_comm, Nat.add_assoc]

/-- Attempts may end in any way one after the other. -/
theorem exists_tries (command : String) (limit : Option Nat)
    (outcomes : Nat → Except ProviderError CommandOutput) :
    ∃ tries : Nat → Try (Procedure.run command limit), ∀ k, (tries k).outcome = outcomes k :=
  ⟨fun k => ⟨[.ran command limit (outcomes k)], outcomes k, Procedure.yields_run.2 rfl⟩, fun _ => rfl⟩

/-- **A reset between each two attempts.** Whatever the attempts do and however they end, there is one at
which the trying ends: the first that succeeds, or the last that the policy allows, which allows one at
least. What a retry does are the attempts up to that one, with one reset and one pause between each two of
them; it comes to the outcome of that one, with its number if it succeeds, whatever became of the resets.
Every sequence of attempts and of outcomes of resets occurs in this way, and nothing else does. -/
theorem resets_between_attempts (policy : RetryPolicy) (attempt : Procedure CommandOutput) :
    (∀ tries : Nat → Try attempt, ∃! last, EndsAt (max policy.attempts 1) tries last) ∧
    ∀ (es : Transcript) (result : Except ProviderError (CommandOutput × Nat)),
      (retry policy attempt).Yields es result ↔
        ∃ (tries : Nat → Try attempt) (resets : Nat → Except ProviderError CommandOutput) (last : Nat),
          EndsAt (max policy.attempts 1) tries last ∧
          es = trials policy.backoffMs tries resets last ∧
          result = (tries last).outcome.map fun output => (output, last + 1) := by
  have atLeastOne : max policy.attempts 1 = policy.attempts - 1 + 1 := by omega
  rw [atLeastOne]
  constructor
  · intro tries
    obtain ⟨last, ends⟩ := exists_endsAt (policy.attempts - 1) tries
    exact ⟨last, ends, fun other also => also.unique ends⟩
  · intro es result
    rw [retry, retryFrom_yields]
    simp only [Nat.add_comm 1]

end Muster.Kubeadm
