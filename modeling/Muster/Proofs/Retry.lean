import Muster.Proofs.RoundEnd

/-!
# Retries stay within their budget

The policies of this library try a step again while its record counts no more rounds than retries are
allowed and a node failed or timed out. `Ledger` is the invariant of such a step: its record counts the
rounds, none of which was begun beyond the budget, and the identifiers of a round were not in use before.
A step that is not cancelled proceeds exactly when the policy puts up with the nodes that did not succeed.
-/

set_option autoImplicit false

namespace Muster

/-! ### Policies that retry -/

/-- The two kinds of policy. -/
inductive Stance where
  | strict (abortFirst : Bool)
  | tolerant (limit : Option Nat) (finalizeAfter : Nat)

namespace Stance

/-- The policy of a stance. -/
def policy : Stance → Policy
  | .strict abortFirst => .strict abortFirst
  | .tolerant limit finalizeAfter => .tolerant limit finalizeAfter

/-- Whether a step with so many nodes may lose so many of them. A step without nodes has none to
lose, and puts up with that under every stance. -/
def Allows : Stance → (total lost : Nat) → Prop
  | .strict _, _, lost => lost = 0
  | .tolerant (some limit) _, _, lost => lost ≤ limit
  | .tolerant none _, total, lost => 2 * lost < total ∨ total = 0

variable {stance : Stance} {state : StepState} {total : Nat} {maxRetries : UInt32}

theorem decision_of_allows (within : state.unsuccessful ≤ total)
    (allows : stance.Allows total state.unsuccessful) :
    stance.policy.decision state total maxRetries = .proceed := by
  cases stance with
  | strict abortFirst => exact if_pos allows
  | tolerant limit finalizeAfter =>
    refine if_pos ?_
    cases limit with
    | some limit => exact allows
    | none =>
      simp only [Allows] at allows
      simp only [Policy.allowance, Option.getD_none]
      omega

theorem decision_of_not_allows (lost : ¬ stance.Allows total state.unsuccessful) :
    stance.policy.decision state total maxRetries = state.retryOrAbort maxRetries := by
  cases stance with
  | strict abortFirst => exact if_neg lost
  | tolerant limit finalizeAfter =>
    refine if_neg ?_
    cases limit with
    | some limit => exact lost
    | none =>
      simp only [Allows] at lost
      simp only [Policy.allowance, Option.getD_none]
      omega

end Stance

namespace StepState

variable {state : StepState} {maxRetries : UInt32}

/-- Whether another round may be tried on a node. -/
def mayRetry : Option Disposition → Bool
  | some (.failed _) => true
  | some .timedOut => true
  | _ => false

theorem Exclusive.contains_retryable (h : state.Exclusive) (node : String) :
    state.retryable.contains node = mayRetry (state.disposition node) := by
  rw [Bool.eq_iff_iff, h.retryable_iff]
  generalize state.disposition node = ending
  cases ending with
  | none => simp [mayRetry]
  | some ending => cases ending <;> simp [mayRetry]

/-- The nodes of a step that did not succeed. -/
def lost (nodeSteps : List NodeStep) (state : StepState) : Nat :=
  nodeSteps.countP fun n => decide (state.disposition n.nodeId ≠ some .succeeded)

theorem lost_le (nodeSteps : List NodeStep) (state : StepState) :
    state.lost nodeSteps ≤ nodeSteps.length :=
  List.countP_le_length

theorem Sorted.unsuccessful_eq_lost {nodeSteps : List NodeStep}
    (h : state.Sorted (nodeSteps.map NodeStep.nodeId)) (distinct : (nodeSteps.map NodeStep.nodeId).Nodup) :
    state.unsuccessful = state.lost nodeSteps := by
  rw [h.unsuccessful_eq distinct, List.countP_map]
  rfl

theorem lost_of_endings {after : StepState} {nodeSteps : List NodeStep}
    (same : after.endings = state.endings) : after.lost nodeSteps = state.lost nodeSteps := by
  refine List.countP_congr fun n _ => ?_
  rw [disposition_eq_of_endings same]

theorem summary_of_endings {after : StepState} (same : after.endings = state.endings) :
    after.summary = state.summary := by
  simp only [endings, Prod.mk.injEq] at same
  obtain ⟨-, h₁, h₂, h₃⟩ := same
  simp only [summary, h₁, h₂, h₃]

theorem head?_join {c : Char} (separator title text : String) (rest : List String)
    (first : title.toList.head? = some c) :
    (Text.join separator ((title ++ text) :: rest)).toList.head? = some c := by
  cases rest <;> simp [Text.join, List.head?_append, first]

/-- The account of those who did not succeed is not what is said when nobody is left. -/
theorem summary_ne (state : StepState) : state.summary ≠ "nothing left to retry" := by
  have first : state.summary.toList.head? ≠ some 'n' := by
    simp only [summary]
    split
    · split
      · split
        · decide
        · simp only [List.nil_append]
          rw [head?_join _ "unreachable: " _ _ rfl]
          decide
      · simp only [List.nil_append, List.cons_append]
        rw [head?_join _ "timed out: " _ _ rfl]
        decide
    · simp only [List.nil_append, List.cons_append]
      rw [head?_join _ "failed: " _ _ rfl]
      decide
  intro same
  rw [same] at first
  exact first rfl

/-- Another round is tried while the budget lasts and somebody is left for it. -/
theorem retryOrAbort_cases (state : StepState) (maxRetries : UInt32) :
    (state.retryOrAbort maxRetries = .retry ∧ state.attempts ≤ maxRetries ∧
      ∃ node, state.retryable.contains node = true) ∨
    (state.retryOrAbort maxRetries = .abort state.summary ∧
      (maxRetries < state.attempts ∨ ∀ node, state.retryable.contains node = false)) := by
  rw [retryOrAbort]
  split
  · next h => exact .inl ⟨rfl, h.1, Dict.isEmpty_eq_false_iff.1 h.2⟩
  · next h =>
    refine .inr ⟨rfl, ?_⟩
    by_cases within : state.attempts ≤ maxRetries
    · refine .inr fun node => ?_
      have none : ¬ state.retryable.isEmpty = false := fun some => h ⟨within, some⟩
      rw [Dict.isEmpty_eq_false_iff] at none
      exact Bool.eq_false_iff.2 fun here => none ⟨node, here⟩
    · exact .inl (UInt32.not_le.1 within)

end StepState

namespace Engine

/-! ### The ledger of a step -/

/-- What is said about a step that was not cancelled when its verdict is in. -/
structure Turn.Judged (stance : Stance) (step : Step) (nodeSteps : List NodeStep) (t : Turn) : Prop where
  proceeds : t.verdict = .stepOver ↔ stance.Allows nodeSteps.length (t.drive.state.lost nodeSteps)
  aborts : t.verdict ≠ .stepOver →
    t.verdict = .stopped (.policyAbort step.name t.drive.state.summary) ∧
    (step.maxRetries < t.drive.state.attempts ∨
      ∀ n ∈ nodeSteps, StepState.mayRetry (t.drive.state.disposition n.nodeId) = false)

/-- What holds of a step that began with the drive `d`, as long as it runs and when it is over. -/
structure Turn.Ledger (stance : Stance) (d : Drive) (step : Step) (nodeSteps : List NodeStep) (t : Turn) :
    Prop where
  accounts : t.Accounts step nodeSteps
  type : t.drive.op.type = d.op.type
  counted : t.drive.rounds = d.rounds + t.drive.state.attempts.toNat
  begun : 0 < t.drive.state.attempts.toNat
  budget : t.drive.state.attempts.toNat ≤ step.maxRetries.toNat + 1
  handedOut : ∀ round, t.InRound step nodeSteps round → ∀ id ∈ round.called.map Prod.fst,
    Identifiers.Between 0 t.desk.identifiers.used id
  judged : t.verdict ≠ .underWay → t.verdict ≠ .stopped .cancelled → t.Judged stance step nodeSteps

section Ledger

variable {stance : Stance} {s : Settings} {d e : Drive} {desk : Desk} {step : Step}
  {nodeSteps : List NodeStep} {t u : Turn}

/-- What the policy decides once everybody has ended. -/
theorem Drive.decision_cases (policy : step.policyIn e.op.type = stance.policy)
    (sorted : e.state.Sorted (nodeSteps.map NodeStep.nodeId))
    (distinct : (nodeSteps.map NodeStep.nodeId).Nodup) :
    (stance.Allows nodeSteps.length (e.state.lost nodeSteps) ∧ decision e step nodeSteps = .proceed) ∨
    (¬ stance.Allows nodeSteps.length (e.state.lost nodeSteps) ∧ decision e step nodeSteps = .retry ∧
      e.state.attempts ≤ step.maxRetries ∧ ∃ n ∈ nodeSteps, e.state.retryable.contains n.nodeId = true) ∨
    (¬ stance.Allows nodeSteps.length (e.state.lost nodeSteps) ∧
      decision e step nodeSteps = .abort e.state.summary ∧
      (step.maxRetries < e.state.attempts ∨
        ∀ n ∈ nodeSteps, StepState.mayRetry (e.state.disposition n.nodeId) = false)) := by
  have count := sorted.unsuccessful_eq_lost distinct
  rw [decision, policy]
  by_cases allows : stance.Allows nodeSteps.length (e.state.lost nodeSteps)
  · refine .inl ⟨allows, Stance.decision_of_allows ?_ (count ▸ allows)⟩
    rw [count]
    exact StepState.lost_le nodeSteps e.state
  · refine .inr ?_
    rw [Stance.decision_of_not_allows (count ▸ allows)]
    rcases e.state.retryOrAbort_cases step.maxRetries with ⟨same, within, node, left⟩ | ⟨same, atEnd⟩
    · refine .inl ⟨allows, same, within, ?_⟩
      -- Whoever may be retried has ended, and so belongs to the step.
      have ended : (e.state.disposition node).isSome = true := by
        rcases sorted.exclusive.retryable_iff.1 left with ⟨message, failed⟩ | timedOut
        · rw [failed]
          rfl
        · rw [timedOut]
          rfl
      obtain ⟨n, member, rfl⟩ := List.mem_map.1 (sorted.disposition_isSome.1 ended)
      exact ⟨n, member, left⟩
    · refine .inr ⟨allows, same, atEnd.imp_right fun none n _ => ?_⟩
      rw [← sorted.exclusive.contains_retryable]
      exact none n.nodeId

theorem Drive.named_between (desk : Desk) (called : List NodeStep) {id : String}
    (member : id ∈ (named desk called).map Prod.fst) :
    Identifiers.Between desk.identifiers.used (desk.identifiers.used + (named desk called).length) id := by
  have between := Identifiers.between_of_mem_freshFor member
  rw [Identifiers.freshFor_used] at between
  rw [named, Identifiers.length_freshFor]
  exact between

namespace Turn

/-- What follows a round keeps the ledger. -/
theorem Aftermath.ledger (after : Aftermath desk e step nodeSteps u)
    (policy : step.policyIn d.op.type = stance.policy) (bound : step.maxRetries.toNat < UInt32.size - 1)
    (sorted : e.state.Sorted (nodeSteps.map NodeStep.nodeId))
    (distinct : (nodeSteps.map NodeStep.nodeId).Nodup) (type : e.op.type = d.op.type)
    (counted : e.rounds = d.rounds + e.state.attempts.toNat) (begun : 0 < e.state.attempts.toNat)
    (budget : e.state.attempts.toNat ≤ step.maxRetries.toNat + 1) : u.Ledger stance d step nodeSteps := by
  have accounts := (after.accounts sorted).1
  have cases := Drive.decision_cases (type ▸ policy) sorted distinct
  cases after with
  | decided along endings used ruling =>
    have verdict := ruling.verdict_ne
    refine ⟨accounts, along.type.trans type, ?_, ?_, ?_, fun round inRound => absurd inRound.1 verdict,
      fun _ _ => ?_⟩
    · rw [along.rounds, along.attempts]
      exact counted
    · rw [along.attempts]
      exact begun
    · rw [along.attempts]
      exact budget
    · have lost : u.drive.state.lost nodeSteps = e.state.lost nodeSteps :=
        StepState.lost_of_endings endings
      rcases cases with ⟨allows, decision⟩ | ⟨refuses, decision, -, n, member, left⟩ |
        ⟨refuses, decision, atEnd⟩
      · rw [decision] at ruling
        refine ⟨⟨fun _ => lost ▸ allows, fun _ => ruling.eq_of_proceed⟩, fun other => ?_⟩
        exact absurd ruling.eq_of_proceed other
      · rw [decision] at ruling
        have none := ruling.exhausted_of_retry n member
        rw [left] at none
        cases none
      · rw [decision] at ruling
        have stopped := ruling.eq_of_abort
        refine ⟨⟨fun proceeds => ?_, fun allows => absurd (lost ▸ allows) refuses⟩, fun _ => ⟨?_, ?_⟩⟩
        · rw [stopped] at proceeds
          cases proceeds
        · rw [stopped, StepState.summary_of_endings endings]
        · rw [along.attempts]
          refine atEnd.imp_right fun none n member => ?_
          rw [StepState.disposition_eq_of_endings endings]
          exact none n member
  | repeats round inRound inRange rounds type' endings attempts decided called used tally =>
    have within : e.state.attempts ≤ step.maxRetries := by
      rcases cases with ⟨-, decision⟩ | ⟨-, -, within, -⟩ | ⟨-, decision, -⟩
      · rw [decided] at decision
        cases decision
      · exact within
      · rw [decided] at decision
        cases decision
    -- The count of rounds stays below the number at which it would wrap.
    have more : u.drive.state.attempts.toNat = e.state.attempts.toNat + 1 := by
      have within : e.state.attempts.toNat ≤ step.maxRetries.toNat := within
      have size : UInt32.size = 2 ^ 32 := rfl
      rw [attempts, UInt32.toNat_add, UInt32.toNat_one]
      exact Nat.mod_eq_of_lt (by omega)
    have within : e.state.attempts.toNat ≤ step.maxRetries.toNat := within
    refine ⟨accounts, type'.trans type, ?_, ?_, ?_, ?_, fun atEnd => absurd inRound.1 atEnd⟩
    · rw [rounds, more, counted]
      omega
    · rw [more]
      omega
    · rw [more]
      omega
    · intro round' inRound' id member
      obtain ⟨-, -, rfl⟩ := inRound.unique inRound'
      rw [called] at member
      rw [used, called]
      exact (Drive.named_between desk _ member).mono (Nat.zero_le _) (Nat.le_refl _)

theorem Move.ledger (policy : step.policyIn d.op.type = stance.policy)
    (bound : step.maxRetries.toNat < UInt32.size - 1) (h : t.Ledger stance d step nodeSteps)
    (move : Move s t u) : u.Ledger stance d step nodeSteps := by
  have accounts := move.accounts h.accounts
  -- What leaves the count of rounds alone keeps the first half of the ledger.
  have carried {e : Drive} (along : t.drive.Along e) :
      e.op.type = d.op.type ∧ e.rounds = d.rounds + e.state.attempts.toNat ∧
        0 < e.state.attempts.toNat ∧ e.state.attempts.toNat ≤ step.maxRetries.toNat + 1 := by
    rw [along.rounds, along.attempts]
    exact ⟨along.type.trans h.type, h.counted, h.begun, h.budget⟩
  rcases move.progress_or_request h.accounts with ⟨round, inRound, tally, progress⟩ | ⟨atEnd, rfl⟩
  · cases progress with
    | stays after goesOn called along used tally' spares =>
      obtain ⟨type, counted, begun, budget⟩ := carried along
      refine ⟨accounts, type, counted, begun, budget, fun round' inRound' id member => ?_,
        fun atEnd => absurd goesOn.1 atEnd⟩
      obtain ⟨-, -, rfl⟩ := goesOn.unique inRound'
      rw [called] at member
      exact (h.handedOut round inRound id member).mono (Nat.le_refl _) used
    | ends desk e after along used sorted spares =>
      obtain ⟨type, counted, begun, budget⟩ := carried along
      exact after.ledger policy bound sorted tally.distinct type counted begun budget
    | cancelled verdict along used sorted spares =>
      obtain ⟨type, counted, begun, budget⟩ := carried along
      refine ⟨accounts, type, counted, begun, budget, fun round' inRound' => ?_,
        fun _ other => absurd verdict other⟩
      rw [InRound, verdict] at inRound'
      cases inRound'.1
  · exact ⟨accounts, h.type, h.counted, h.begun, h.budget, fun round inRound => absurd inRound.1 atEnd,
      fun atEnd goesOn => ⟨(h.judged atEnd goesOn).proceeds, (h.judged atEnd goesOn).aborts⟩⟩

theorem Course.ledger (policy : step.policyIn d.op.type = stance.policy)
    (bound : step.maxRetries.toNat < UInt32.size - 1) (h : t.Ledger stance d step nodeSteps)
    (course : Course s t u) : u.Ledger stance d step nodeSteps := by
  induction course with
  | refl => exact h
  | tail _ move ih => exact move.ledger policy bound ih

/-- The first turn of a step opens the ledger: one round has begun. -/
theorem ledger_firstRound (scene : Scene) (desk : Desk) (policy : step.policyIn d.op.type = stance.policy)
    (bound : step.maxRetries.toNat < UInt32.size - 1) (fresh : d.Fresh)
    (distinct : (nodeSteps.map NodeStep.nodeId).Nodup) :
    (Drive.firstRound s scene desk d step nodeSteps).Ledger stance d step nodeSteps := by
  obtain ⟨name, status, state⟩ := fresh.state_eq
  have first : (Drive.dispatch s scene desk d step nodeSteps nodeSteps).drive.state.attempts.toNat = 1 := by
    rw [Drive.state_dispatch _ _ _ _ _ _ fresh.inRange, state]
    rfl
  by_cases empty : nodeSteps = []
  · subst empty
    obtain ⟨sorted, after⟩ := Drive.aftermath_firstRound s scene desk step fresh
    refine after.ledger policy bound sorted distinct rfl ?_ ?_ ?_
    · rw [first]
      rfl
    · rw [first]
      exact Nat.one_pos
    · rw [first]
      omega
  · have accounts := accounts_firstRound s scene desk step fresh distinct
    rw [Drive.firstRound_of_ne_nil _ _ _ _ _ _ empty] at accounts ⊢
    refine ⟨accounts, rfl, ?_, ?_, ?_, ?_, fun atEnd => absurd rfl atEnd⟩
    · rw [first]
      rfl
    · rw [first]
      exact Nat.one_pos
    · rw [first]
      omega
    · intro round inRound id member
      have phase := inRound.2.symm.trans (Drive.phase_dispatch ..)
      simp only [Phase.dispatching.injEq] at phase
      rw [phase.2.2, Round.called_begin] at member
      have between := Drive.named_between desk nodeSteps member
      rw [Drive.named, Identifiers.length_freshFor] at between
      refine between.mono (Nat.zero_le _) ?_
      rw [Drive.dispatch, Identifiers.freshFor_used]

/-! ### Another round -/

theorem Move.used_le (accounts : t.Accounts step nodeSteps) (move : Move s t u) :
    t.desk.identifiers.used ≤ u.desk.identifiers.used := by
  rcases move.progress_or_request accounts with ⟨round, -, -, progress⟩ | ⟨-, rfl⟩
  · cases progress with
    | stays after goesOn called along used tally spares => exact used
    | ends desk e after along used sorted spares =>
      cases after with
      | decided along' endings used' ruling => exact used.trans (congrArg Identifiers.used used').ge
      | repeats next inRound inRange rounds type endings attempts decided called used' tally =>
        exact used.trans (used'.ge.trans' (Nat.le_add_right _ _))
    | cancelled verdict along used sorted spares => exact used
  · exact Nat.le_refl _

theorem Course.used_le (accounts : t.Accounts step nodeSteps) (course : Course s t u) :
    t.desk.identifiers.used ≤ u.desk.identifiers.used := by
  induction course with
  | refl => exact Nat.le_refl _
  | tail course move ih => exact ih.trans (move.used_le (Course.accounts accounts course))

/-- A move that begins another round calls up those who failed or timed out, in the order of the step and
under identifiers that nobody has had. -/
theorem Move.again (accounts : t.Accounts step nodeSteps) (move : Move s t u)
    (more : u.drive.rounds ≠ t.drive.rounds) :
    ∃ next, u.InRound step nodeSteps next ∧ u.drive.rounds = t.drive.rounds + 1 ∧
      next.called.map Prod.snd
        = (nodeSteps.filter fun n => StepState.mayRetry (u.drive.state.disposition n.nodeId)) ∧
      ∀ id ∈ next.called.map Prod.fst,
        Identifiers.Between t.desk.identifiers.used u.desk.identifiers.used id := by
  rcases move.progress_or_request accounts with ⟨round, inRound, tally, progress⟩ | ⟨atEnd, rfl⟩
  · cases progress with
    | stays after goesOn called along used tally' spares => exact absurd along.rounds more
    | ends desk e after along used sorted spares =>
      cases after with
      | decided along' endings used' ruling => exact absurd (along'.rounds.trans along.rounds) more
      | repeats next inRound' inRange rounds type endings attempts decided called used' tally' =>
        refine ⟨next, inRound', by rw [rounds, along.rounds], ?_, fun id member => ?_⟩
        · rw [called, Drive.named, Identifiers.freshFor_snd]
          refine List.filter_congr fun n _ => ?_
          rw [sorted.exclusive.contains_retryable, StepState.disposition_eq_of_endings endings]
        · rw [called] at member
          rw [used', called]
          exact (Drive.named_between desk _ member).mono used (Nat.le_refl _)
    | cancelled verdict along used sorted spares => exact absurd along.rounds more
  · exact absurd rfl more

/-- Nobody who is done with ends in another way later. -/
theorem Course.done (accounts : t.Accounts step nodeSteps) (course : Course s t u) {node : String}
    (done : Done (t.drive.state.disposition node)) :
    u.drive.state.disposition node = t.drive.state.disposition node := by
  induction course with
  | refl => rfl
  | @tail v w course move ih =>
    have accounts := Course.accounts accounts course
    rcases move.progress_or_request accounts with ⟨round, inRound, -, -⟩ | ⟨-, rfl⟩
    · obtain ⟨-, spares, -⟩ := move.inRound accounts inRound
      exact (spares node (.inr (ih ▸ done))).trans ih
    · exact ih

/-- **A step under a policy that retries** begins one round more than it has retries at most, and its record
counts them. Another round calls up those who failed or timed out, in the order of the step and under
identifiers of which no earlier round had any. Who succeeded or is unreachable ends in no other way
later, and whatever lanes they have are settled. When nobody cancels, the policy puts up with those who
did not succeed or gives up: then the budget is used up, or nobody is left to retry the step on, which is
never found out by beginning a round. -/
theorem retries_within_budget (stance : Stance) (s : Settings) (scene : Scene) (desk : Desk) (d : Drive)
    (step : Step) (nodeSteps : List NodeStep) (fresh : d.Fresh)
    (distinct : (nodeSteps.map NodeStep.nodeId).Nodup)
    (policy : step.policyIn d.op.type = stance.policy) (bound : step.maxRetries.toNat < UInt32.size - 1) :
    let first := Drive.firstRound s scene desk d step nodeSteps
    let attempts (t : Turn) : Nat := t.drive.state.attempts.toNat
    ∀ t, Course s first t →
      (t.drive.rounds = d.rounds + attempts t ∧ 1 ≤ attempts t ∧
        attempts t ≤ step.maxRetries.toNat + 1) ∧
      (∀ u, Move s t u → EndsRound t u → attempts t = step.maxRetries.toNat + 1 →
        u.verdict ≠ .underWay) ∧
      (∀ u, Move s t u → u.drive.rounds ≠ t.drive.rounds →
        ∃ next, u.InRound step nodeSteps next ∧ attempts u = attempts t + 1 ∧
          next.called.map Prod.snd
            = (nodeSteps.filter fun n => StepState.mayRetry (u.drive.state.disposition n.nodeId)) ∧
          ∀ v old, Course s first v → Course s v t → v.InRound step nodeSteps old →
            List.Disjoint (old.called.map Prod.fst) (next.called.map Prod.fst)) ∧
      (∀ node, Done (t.drive.state.disposition node) → ∀ u, Course s t u →
        u.drive.state.disposition node = t.drive.state.disposition node ∧
        ∀ round, u.InRound step nodeSteps round →
          ∀ lane ∈ round.lanes, lane.nodeStep.nodeId = node → lane.slot.isSettled = true) ∧
      (∀ name, t.verdict ≠ .stopped (.policyAbort name "nothing left to retry")) ∧
      (t.verdict ≠ .underWay → t.verdict ≠ .stopped .cancelled → t.Judged stance step nodeSteps) := by
  intro first attempts t course
  have opened : first.Ledger stance d step nodeSteps :=
    ledger_firstRound scene desk policy bound fresh distinct
  have ledger := Course.ledger policy bound opened course
  have onward {u : Turn} (move : Move s t u) : u.Ledger stance d step nodeSteps :=
    move.ledger policy bound ledger
  refine ⟨⟨ledger.counted, ledger.begun, ledger.budget⟩, ?_, ?_, ?_, ?_, ledger.judged⟩
  · intro u move ends last underWay
    have more : u.drive.rounds ≠ t.drive.rounds := ends.resolve_left fun atEnd => atEnd underWay
    obtain ⟨-, -, one, -⟩ := move.again ledger.accounts more
    have counted := (onward move).counted
    have budget := (onward move).budget
    have before := ledger.counted
    change t.drive.state.attempts.toNat = _ at last
    omega
  · intro u move more
    obtain ⟨next, inRound, one, called, ids⟩ := move.again ledger.accounts more
    refine ⟨next, inRound, ?_, called, ?_⟩
    · have counted := (onward move).counted
      have before := ledger.counted
      change u.drive.state.attempts.toNat = t.drive.state.attempts.toNat + 1
      omega
    · intro v old earlier between inRound' id had has
      have ledger' := Course.ledger policy bound opened earlier
      have used := Course.used_le ledger'.accounts between
      exact (ledger'.handedOut old inRound' id had).ne (ids id has) used rfl
  · intro node done u later
    have kept := Course.done ledger.accounts later done
    refine ⟨kept, fun round inRound lane member here => ?_⟩
    obtain ⟨round', inRound', tally⟩ := (Course.accounts ledger.accounts later).underWay inRound.1
    obtain ⟨-, -, rfl⟩ := inRound.unique inRound'
    cases settled : lane.slot.isSettled with
    | true => rfl
    | false =>
      have notDone := tally.unsettled lane member settled
      rw [here, kept] at notDone
      exact absurd done notDone
  · intro name stopped
    have judged := ledger.judged (by simp [stopped]) (by simp [stopped])
    have aborts := (judged.aborts (by simp [stopped])).1
    rw [stopped] at aborts
    simp only [Verdict.stopped.injEq, EngineError.policyAbort.injEq] at aborts
    exact StepState.summary_ne t.drive.state aborts.2.symm

end Turn

end Ledger

/-! ### A step that is retried -/

namespace Sample

/-- The first node that does not succeed stops the dispatch, and there is one retry. -/
def retryStep : Step := { step with policy := some (.strict true), maxRetries := 1 }

def begun : Turn := Drive.firstRound settings scene desk drive retryStep nodeSteps

/-- The unreachable node is settled, which stops the dispatch. -/
def halted : Turn := Drive.settle settings scene begun.desk begun.drive retryStep nodeSteps (roundOf begun)

theorem halted_inRound : halted.InRound retryStep nodeSteps (roundOf halted) := ⟨rfl, rfl⟩

/-- The other node is passed over. -/
def passedOver : Turn :=
  let moved := halted.drive.work settings scene halted.desk halted.drive.rounds 1
  ⟨.underWay, moved.1, moved.2⟩

/-- Nobody has succeeded, and one node may be tried again. -/
def retried : Turn :=
  Drive.settle settings scene passedOver.desk passedOver.drive retryStep nodeSteps (roundOf passedOver)

end Sample

open Sample in
theorem sample_retried : retried.drive.state.attempts.toNat = 2 ∧
    ∃ next, retried.InRound retryStep nodeSteps next ∧
      next.called.map Prod.snd = [.forNode "drain b" "b" []] := by
  have halts : Turn.Move Sample.settings begun halted :=
    .settle scene begun.desk ⟨rfl, rfl⟩ (Nat.le_refl _)
  have passes : Turn.Move Sample.settings halted passedOver :=
    .work scene halted.desk 1 halted_inRound (Nat.le_refl _)
  have settles : Turn.Move Sample.settings passedOver retried :=
    .settle scene passedOver.desk ⟨rfl, rfl⟩ (Nat.le_refl _)
  have course : Turn.Course Sample.settings begun passedOver := (Relation.ReflTransGen.single halts).tail passes
  obtain ⟨-, -, again, -⟩ := Turn.retries_within_budget (.strict true) Sample.settings scene
    Sample.desk drive retryStep nodeSteps fresh (by decide) rfl (by decide) passedOver course
  obtain ⟨next, inRound, attempts, called, -⟩ := again retried settles (by decide)
  exact ⟨attempts, next, inRound, called⟩

open Sample in
/-- A step without node steps proceeds under a policy that wants fewer than half of them lost, though none
are not fewer than half of none. -/
theorem empty_step_proceeds :
    let t := Drive.firstRound Sample.settings scene Sample.desk drive
      { Sample.step with policy := some .minority } []
    t.verdict = .stepOver ∧ ¬ 2 * t.drive.state.lost [] < ([] : List NodeStep).length :=
  ⟨rfl, by decide⟩

end Engine

end Muster
