import Muster.Proofs.Act

/-!
# How far a record has got

A record shows the current step and the status of every step. `Operation.Reached` says up to where steps
have passed and from where on they are pending; `Operation.Aligned` is the shape that every record
has, and `Operation.Running` says which step is in progress. Then follows what each change of a drive
does to the statuses.
-/

set_option autoImplicit false

namespace Muster

/-- A step is over, and the operation goes on after it. -/
def StepStatus.Passed (status : StepStatus) : Prop := status = .successful ∨ status = .skipped

namespace Operation

variable {op op' : Operation} {i j : Nat} {status : StepStatus}

/-- The statuses of the steps. -/
def statuses (op : Operation) : List StepStatus := op.steps.map StepState.status

/-- The steps before the position `i` have passed, and those from the position `j` on are pending. -/
def Reached (op : Operation) (i j : Nat) : Prop :=
  ∀ k status, op.statuses[k]? = some status → (k < i → status.Passed) ∧ (j ≤ k → status = .pending)

/-- The steps before the current one have passed, and those after it are pending. -/
def Aligned (op : Operation) : Prop := op.Reached op.currentStep.toNat (op.currentStep.toNat + 1)

/-- The step at a position is the current one, and it is running. -/
structure Running (op : Operation) (i : Nat) : Prop where
  current : op.currentStep.toNat = i
  running : op.statuses[i]? = some .running

theorem Reached.mono {i' j' : Nat} (h : op.Reached i j) (before : i' ≤ i) (after : j ≤ j') :
    op.Reached i' j' := by
  intro k status found
  obtain ⟨passed, pending⟩ := h k status found
  exact ⟨fun less => passed (less.trans_le before), fun more => pending (after.trans more)⟩

theorem Reached.congr (h : op.Reached i j) (same : op'.statuses = op.statuses) : op'.Reached i j := by
  intro k status found
  rw [same] at found
  exact h k status found

theorem Reached.aligned (h : op.Reached i j) (before : op.currentStep.toNat ≤ i)
    (after : j ≤ op.currentStep.toNat + 1) : op.Aligned :=
  h.mono before after

theorem Aligned.congr (h : op.Aligned) (same : op'.statuses = op.statuses)
    (current : op'.currentStep = op.currentStep) : op'.Aligned := by
  rw [Aligned, current]
  exact Reached.congr h same

theorem Running.congr (h : op.Running i) (same : op'.statuses = op.statuses)
    (current : op'.currentStep = op.currentStep) : op'.Running i :=
  ⟨current ▸ h.current, same ▸ h.running⟩

/-- A step that changes its status leaves those before and after it where they were. -/
theorem Reached.set (h : op.Reached i j) (next : j ≤ i + 1)
    (same : op'.statuses = op.statuses.set i status) : op'.Reached i (i + 1) := by
  intro k other found
  rw [same, List.getElem?_set] at found
  split at found
  · omega
  · obtain ⟨passed, pending⟩ := h k other found
    exact ⟨passed, fun more => pending (next.trans more)⟩

/-- When the step in progress passes, the next one is reached. -/
theorem Reached.pass (h : op.Reached i (i + 1)) (passed : status.Passed)
    (same : op'.statuses = op.statuses.set i status) : op'.Reached (i + 1) (i + 1) := by
  intro k other found
  rw [same, List.getElem?_set] at found
  split at found
  · next here =>
    split at found
    · cases found
      exact ⟨fun _ => passed, fun more => by omega⟩
    · cases found
  · next away =>
    obtain ⟨before, after⟩ := h k other found
    exact ⟨fun less => before (by omega), after⟩

end Operation

namespace Engine.Drive

open Operation (statuses)

variable {d d' : Drive}

theorem statuses_modifyState (d : Drive) {f : StepState → StepState}
    (keeps : ∀ state, (f state).status = state.status) :
    (d.modifyState f).op.statuses = d.op.statuses := by
  apply List.ext_getElem?
  intro k
  simp only [statuses, modifyState, Operation.modifyStep, List.getElem?_map, List.getElem?_modify]
  cases d.op.steps[k]? <;> by_cases here : d.index = k <;> simp [here, keeps]

theorem Edits.statuses (edits : d.Edits d') : d'.op.statuses = d.op.statuses := by
  obtain ⟨f, keeps, same⟩ := edits.steps
  rw [← statuses_modifyState d keeps]
  simp only [Operation.statuses, modifyState, Operation.modifyStep, same]

theorem statuses_attempt (d : Drive) : d.attempt.op.statuses = d.op.statuses :=
  statuses_modifyState d fun _ => rfl

theorem statuses_setStatus (d : Drive) (status : StepStatus) :
    (d.setStatus status).op.statuses = d.op.statuses.set d.index status := by
  apply List.ext_getElem?
  intro k
  simp only [statuses, setStatus, modifyState, Operation.modifyStep, List.getElem?_map,
    List.getElem?_modify, List.getElem?_set, List.length_map]
  by_cases here : d.index = k
  · subst here
    by_cases inside : d.index < d.op.steps.length
    · simp [inside]
    · simp [inside]
  · simp [here]

theorem statuses_proceed (d : Drive) (scene : Scene) :
    (d.proceed scene).op.statuses = d.op.statuses.set d.index .successful :=
  statuses_setStatus d .successful

theorem statuses_takeUp (d : Drive) (scene : Scene) (later : List Step) :
    (d.takeUp scene later).op.statuses = d.op.statuses.set d.index .running :=
  statuses_setStatus
    { d with op := d.op.advanceTo d.index.toUInt64 (stamp scene), later } .running

/-- A step that is taken up becomes the current one, unless a later one was current. -/
theorem currentStep_takeUp_eq_max (scene : Scene) (later : List Step) (fits : d.index < UInt64.size) :
    (d.takeUp scene later).op.currentStep.toNat = max d.op.currentStep.toNat d.index := by
  have here : d.index.toUInt64.toNat = d.index := Nat.mod_eq_of_lt fits
  have current : (d.takeUp scene later).op.currentStep =
      if d.op.currentStep < d.index.toUInt64 then d.index.toUInt64 else d.op.currentStep := rfl
  rw [current]
  split
  · next ahead =>
    rw [UInt64.lt_iff_toNat_lt, here] at ahead
    omega
  · next behind =>
    rw [UInt64.lt_iff_toNat_lt, here] at behind
    omega

/-- The step that is taken up becomes the current one. -/
theorem currentStep_takeUp (scene : Scene) (later : List Step) (fits : d.index < UInt64.size)
    (behind : d.op.currentStep.toNat ≤ d.index) :
    (d.takeUp scene later).op.currentStep.toNat = d.index := by
  rw [currentStep_takeUp_eq_max scene later fits, Nat.max_eq_right behind]

/-- What the last record has in common with the one before it. -/
theorem frame_final (d : Drive) (scene : Scene) (result : Except EngineError Unit) :
    (d.final scene result).id = d.op.id ∧ (d.final scene result).type = d.op.type ∧
      (d.final scene result).currentStep = d.op.currentStep ∧
      (d.final scene result).statuses = d.op.statuses := by
  cases result with
  | ok value => exact ⟨rfl, rfl, rfl, rfl⟩
  | error e =>
    simp only [final, collectIssues]
    split <;> exact ⟨rfl, rfl, rfl, rfl⟩

theorem steps_final (d : Drive) (scene : Scene) (result : Except EngineError Unit) :
    (d.final scene result).steps = d.op.steps := by
  cases result with
  | ok value => rfl
  | error e =>
    simp only [final, collectIssues]
    split <;> rfl

theorem message_final (d : Drive) (scene : Scene) (e : EngineError) :
    (d.final scene (.error e)).message = e.message := by
  simp only [final, collectIssues]
  split <;> rfl

theorem host_final (d : Drive) (scene : Scene) (result : Except EngineError Unit) :
    (d.final scene result).host = d.op.host := by
  cases result with
  | ok value => rfl
  | error e =>
    simp only [final, collectIssues]
    split <;> rfl

theorem status_final (d : Drive) (scene : Scene) (result : Except EngineError Unit) :
    (d.final scene result).status = match result with
      | .ok _ => .successful
      | .error _ => .error := by
  cases result with
  | ok value => rfl
  | error e =>
    simp only [final, collectIssues]
    split <;> rfl

end Engine.Drive

end Muster
