import Muster.Host.Machine

/-!
# A script on its own

An agent goes on with a script whenever it is visited, on the machine as it then is, which other
scripts may have changed meanwhile. `Script.alone` follows a script through a schedule of visits with
nothing to limit it: it has one result, at one occurrence (`Script.ReturnsAt.unique`), and if there is
a visit after every moment, it has one (`Script.exists_done`).
-/

set_option autoImplicit false

namespace Muster

/-- What happens at an agent: it is visited and goes on with what it does, or it is stopped. -/
inductive Occurrence where
  | visit (now : Nat) (host : HostState)
  | stop

/-- The agent is visited after every moment. -/
def Endless (schedule : Nat → Occurrence) : Prop :=
  ∀ time n, ∃ k now host, n ≤ k ∧ schedule k = .visit now host ∧ time ≤ now

/-- How far a script has got after one more occurrence: it goes on at every visit that does not come
too early, and nothing stops it. -/
def Progress.follow {α : Type} : Progress α → Occurrence → Progress α
  | .waiting due rest, .visit now host =>
    if now < due then .waiting due rest else (rest.advance now host).1
  | p, _ => p

/-- How far a script that is taken up at occurrence `begun` has got before occurrence `n`, with nothing
to limit or stop it. -/
def Script.alone {α : Type} (s : Script α) (schedule : Nat → Occurrence) (begun : Nat) :
    (n : Nat) → Progress α
  | 0 => .waiting 0 s
  | n + 1 => if n < begun then .waiting 0 s else (alone s schedule begun n).follow (schedule n)

/-- On its own, the script has its result at occurrence `n`. -/
structure Script.ReturnsAt {α : Type} (s : Script α) (schedule : Nat → Occurrence) (begun n : Nat)
    (result : α) : Prop where
  waits : ∃ due rest, s.alone schedule begun n = .waiting due rest
  returns : s.alone schedule begun (n + 1) = .done result

section Alone

variable {α : Type} {s : Script α} {schedule : Nat → Occurrence} {begun : Nat}

theorem Script.due_of_advance {rest later : Script α} {now due : Nat} {host : HostState}
    (waits : (rest.advance now host).1 = .waiting due later) : now < due := by
  induction rest generalizing host with
  | done a => cases waits
  | run command limit next ih =>
    simp only [advance] at waits
    split at waits
    · exact ih _ waits
    · obtain ⟨rfl, -⟩ := Progress.waiting.inj waits
      omega
  | pause ms next ih =>
    rw [advance] at waits
    split at waits
    · exact ih _ waits
    · obtain ⟨rfl, -⟩ := Progress.waiting.inj waits
      omega
  | file request next ih =>
    rw [advance] at waits
    exact ih _ waits

theorem Script.alone_begun : s.alone schedule begun begun = .waiting 0 s := by
  cases begun with
  | zero => rfl
  | succ b => simp [alone]

theorem Script.alone_succ {n : Nat} (later : begun ≤ n) :
    s.alone schedule begun (n + 1) = (s.alone schedule begun n).follow (schedule n) := by
  rw [alone, if_neg (by omega)]

theorem Script.alone_of_done {n k : Nat} {result : α} (later : begun ≤ n)
    (done : s.alone schedule begun n = .done result) (le : n ≤ k) :
    s.alone schedule begun k = .done result := by
  induction le with
  | refl => exact done
  | step le ih =>
    rw [alone_succ (Nat.le_trans later le), ih]
    rfl

/-- While the script waits, it waits for a later moment each time. -/
theorem Script.due_le_of_waiting {n k due due' : Nat} {rest rest' : Script α} (later : begun ≤ n)
    (waits : s.alone schedule begun n = .waiting due rest)
    (still : s.alone schedule begun k = .waiting due' rest') (le : n ≤ k) : due ≤ due' := by
  induction le generalizing due' rest' with
  | refl =>
    obtain ⟨rfl, -⟩ := Progress.waiting.inj (waits.symm.trans still)
    exact Nat.le_refl _
  | @step k le ih =>
    rw [alone_succ (Nat.le_trans later le)] at still
    cases before : s.alone schedule begun k with
    | done result => rw [before] at still; cases still
    | waiting mid rest =>
      have first := ih before
      rw [before] at still
      cases occurrence : schedule k with
      | stop =>
        rw [occurrence] at still
        obtain ⟨rfl, -⟩ := Progress.waiting.inj still
        exact first
      | visit now host =>
        rw [occurrence, Progress.follow] at still
        split at still
        · obtain ⟨rfl, -⟩ := Progress.waiting.inj still
          exact first
        · have := due_of_advance still
          omega

/-- A script waits for nothing once it has returned. -/
theorem Script.ReturnsAt.le_of_waiting {n k due : Nat} {a : α} {rest : Script α}
    (h : s.ReturnsAt schedule begun n a) (later : begun ≤ n)
    (waits : s.alone schedule begun k = .waiting due rest) : k ≤ n := by
  refine Nat.le_of_not_lt fun behind => ?_
  have done := alone_of_done (Nat.le_succ_of_le later) h.returns behind
  rw [waits] at done
  cases done

/-- A script has its result at one occurrence only, and has only one. -/
theorem Script.ReturnsAt.unique {n k : Nat} {a b : α} (first : s.ReturnsAt schedule begun n a)
    (second : s.ReturnsAt schedule begun k b) (fromN : begun ≤ n) (fromK : begun ≤ k) :
    n = k ∧ a = b := by
  obtain ⟨_, _, waits⟩ := first.waits
  obtain ⟨_, _, waits'⟩ := second.waits
  obtain rfl : n = k := Nat.le_antisymm (second.le_of_waiting fromK waits) (first.le_of_waiting fromN waits')
  exact ⟨rfl, Progress.done.inj (first.returns.symm.trans second.returns)⟩

/-- The moment of the return is one that the script waited for. -/
theorem Script.ReturnsAt.visited {n : Nat} {a : α} (h : s.ReturnsAt schedule begun n a)
    (later : begun ≤ n) : ∃ now host due rest, schedule n = .visit now host ∧
      s.alone schedule begun n = .waiting due rest ∧ due ≤ now := by
  obtain ⟨due, rest, waits⟩ := h.waits
  have returns := h.returns
  rw [alone_succ later, waits] at returns
  cases occurrence : schedule n with
  | stop => rw [occurrence] at returns; cases returns
  | visit now host =>
    rw [occurrence, Progress.follow] at returns
    split at returns
    · cases returns
    · exact ⟨now, host, due, rest, rfl, waits, by omega⟩

/-- What a script waits for comes, so it ends if what comes then does. -/
theorem Script.exists_done_of_waiting (endless : Endless schedule) {rest : Script α} {due n : Nat}
    (later : begun ≤ n) (waits : s.alone schedule begun n = .waiting due rest)
    (go : ∀ now host n, begun ≤ n → s.alone schedule begun n = (rest.advance now host).1 →
      ∃ k result, begun ≤ k ∧ s.alone schedule begun k = .done result) :
    ∃ k result, begun ≤ k ∧ s.alone schedule begun k = .done result := by
  obtain ⟨k, now, host, le, visit, came⟩ := endless due n
  obtain ⟨more, rfl⟩ := Nat.exists_eq_add_of_le le
  clear le
  -- Of the visits up to that one, the first at which the moment has come takes the script on.
  induction more generalizing n with
  | zero =>
    refine go now host (n + 1) (by omega) ?_
    rw [alone_succ later, waits, show schedule n = _ from visit, Progress.follow, if_neg (by omega)]
  | succ more ih =>
    rw [show n + (more + 1) = n + 1 + more by omega] at visit
    have step : s.alone schedule begun (n + 1) = _ := alone_succ later
    rw [waits] at step
    cases occurrence : schedule n with
    | stop =>
      rw [occurrence] at step
      exact ih (by omega) step visit
    | visit now host =>
      rw [occurrence, Progress.follow] at step
      split at step
      · exact ih (by omega) step visit
      · exact go now host (n + 1) (by omega) step

/-- **A script comes to its end**, since every moment comes that it waits for. -/
theorem Script.exists_done (endless : Endless schedule) :
    ∃ n result, begun ≤ n ∧ s.alone schedule begun n = .done result := by
  have go (rest : Script α) : ∀ now host n, begun ≤ n →
      s.alone schedule begun n = (rest.advance now host).1 →
      ∃ k result, begun ≤ k ∧ s.alone schedule begun k = .done result := by
    induction rest with
    | done a => exact fun now host n later here => ⟨n, a, later, here⟩
    | run command limit next ih =>
      intro now host n later here
      simp only [advance] at here
      split at here
      · exact ih _ now _ n later here
      · exact exists_done_of_waiting endless later here (ih _)
    | pause ms next ih =>
      intro now host n later here
      rw [advance] at here
      split at here
      · exact ih _ now _ n later here
      · exact exists_done_of_waiting endless later here (ih _)
    | file request next ih =>
      intro now host n later here
      rw [advance] at here
      exact ih _ now _ n later here
  exact exists_done_of_waiting endless (Nat.le_refl _) alone_begun (go s)

end Alone

end Muster
