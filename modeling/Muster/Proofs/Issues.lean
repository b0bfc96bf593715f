import Muster.Proofs.LastRecord

/-!
# What a failed operation reports

When an operation fails, the endings of the step that failed are copied into the issues of its record, and
the step is found again by the index of the current step. That index only ever moves forward, and a
submission keeps the one that the record brings along, while the recorded steps begin anew. `Charted` says
at every station of a drive where the current step is and which steps are still untouched. So the issues are
those of the failed step if it is not before the step that the record was submitted with, and otherwise
nothing is reported.
-/

set_option autoImplicit false

namespace Muster

/-! ### The issues of a step -/

/-- Nothing has happened to a step but that it may have been taken up. -/
structure StepState.Untouched (s : StepState) : Prop where
  attempts : s.attempts = 0
  endings : s.endings = (.empty, .empty, .empty, .empty)

/-- The issues of an operation after those of a step have been put over what they were before. -/
structure StepState.Reports (s : StepState) (before after : Dict String) : Prop where
  failed : ∀ node message, s.failed.get? node = some message → after.get? node = some message
  timedOut : ∀ node, s.timedOut.contains node = true → after.get? node = some "timed out"
  unreachable : ∀ node, s.unreachable.contains node = true → after.get? node = some "unreachable"
  others : ∀ node, s.failed.contains node = false → s.timedOut.contains node = false →
    s.unreachable.contains node = false → after.get? node = before.get? node

namespace Dict

variable {α : Type}

/-- One value put under many keys. -/
theorem get?_foldl_const (keys : List String) (value : α) (d : Dict α) (key : String) :
    (keys.foldl (fun d k => d.insert k value) d).get? key
      = if key ∈ keys then some value else d.get? key := by
  induction keys generalizing d with
  | nil => rfl
  | cons k rest ih =>
    rw [List.foldl_cons, ih, get?_insert]
    by_cases here : k = key
    · simp [here]
    · have differ : key ≠ k := fun same => here same.symm
      simp [differ]

theorem merge_empty (d : Dict α) : d.merge .empty = d := rfl

end Dict

namespace Engine

open Operation (Inside)

namespace Drive

variable {s : StepState}

theorem get?_issuesOf (s : StepState) (node : String) : (issuesOf s).get? node =
    if s.unreachable.contains node then some "unreachable"
    else if s.timedOut.contains node then some "timed out"
    else s.failed.get? node := by
  simp only [issuesOf, Dict.get?_foldl_const, ← Dict.contains_iff_mem_keys]

theorem issuesOf_of_untouched (h : s.Untouched) : issuesOf s = .empty := by
  obtain ⟨-, endings⟩ := h
  simp only [StepState.endings, Prod.mk.injEq] at endings
  obtain ⟨-, failed, timedOut, unreachable⟩ := endings
  rw [issuesOf, failed, timedOut, unreachable]
  rfl

/-- No node of a step is reported as something else than it is recorded as. -/
theorem reports_merge_issuesOf (h : s.Exclusive) (before : Dict String) :
    s.Reports before (before.merge (issuesOf s)) := by
  have apart := StepState.exclusive_iff.1 h
  refine ⟨fun node message failed => ?_, fun node timedOut => ?_, fun node unreachable => ?_,
    fun node notFailed notTimedOut notUnreachable => ?_⟩
  all_goals rw [Dict.get?_merge, get?_issuesOf]
  · obtain ⟨-, -, -, notTimedOut, notUnreachable, -⟩ := apart node
    have here : s.failed.contains node = true := by simp [Dict.contains, failed]
    rw [if_neg fun yes => notUnreachable ⟨here, yes⟩, if_neg fun yes => notTimedOut ⟨here, yes⟩, failed]
    rfl
  · obtain ⟨-, -, -, -, -, notUnreachable⟩ := apart node
    rw [if_neg fun yes => notUnreachable ⟨timedOut, yes⟩, if_pos timedOut]
    rfl
  · rw [if_pos unreachable]
    rfl
  · have none : s.failed.get? node = none := by simpa [Dict.contains] using notFailed
    simp [notUnreachable, notTimedOut, none]

end Drive

end Engine

/-! ### What an operation comes to -/

namespace Operation

variable {op op' first last : Operation} {i j : Nat}

/-- The steps from a position on are untouched. -/
def UntouchedFrom (op : Operation) (j : Nat) : Prop :=
  ∀ k state, op.steps[k]? = some state → j ≤ k → state.Untouched

/-- No step has failed, and the one that is shown as running has not begun a round. -/
def Quiet (op : Operation) : Prop :=
  ∀ state ∈ op.steps, state.status ≠ .error ∧ (state.status = .running → state.attempts = 0)

/-- What the last record tells of the step at a position that has failed, against the record that was
submitted. -/
structure Blames (first last : Operation) (i : Nat) (state : StepState) : Prop where
  status : last.status = .error
  alone : ∀ k : Nat, last.statuses[k]? = some .error → k = i
  current : last.currentStep.toNat = max first.currentStep.toNat i
  /-- The submitted record was not beyond the step. -/
  reports : first.currentStep.toNat ≤ i → state.Reports first.issues last.issues
  /-- The submitted record was beyond the step. -/
  stale : i < first.currentStep.toNat → last.issues = first.issues

/-- What the last record of an operation tells, against the one that was submitted. -/
structure Accounts (first last : Operation) : Prop where
  failing : ∀ i state, last.steps[i]? = some state → state.status = .error → Blames first last i state
  /-- An operation fails through one of its steps, unless it is cancelled outside a round. -/
  cause : last.status = .error →
    (∃ i : Nat, last.statuses[i]? = some .error) ∨ last.message = EngineError.cancelled.message ∧ last.Quiet

theorem UntouchedFrom.mono (h : op.UntouchedFrom i) (more : i ≤ j) : op.UntouchedFrom j :=
  fun k state found after => h k state found (more.trans after)

/-- What is done to an earlier step leaves the later ones untouched. -/
theorem UntouchedFrom.modifyStep_of_lt (h : op.UntouchedFrom j) (f : StepState → StepState) (less : i < j) :
    (op.modifyStep i f).UntouchedFrom j := by
  intro k state found after
  have away : i ≠ k := by omega
  simp only [modifyStep, List.getElem?_modify, away, if_false, Option.map_eq_map, Option.map_id'] at found
  exact h k state found after

theorem UntouchedFrom.modifyStep (h : op.UntouchedFrom j) {f : StepState → StepState} (i : Nat)
    (keeps : ∀ state, state.Untouched → (f state).Untouched) : (op.modifyStep i f).UntouchedFrom j := by
  intro k state found after
  simp only [Operation.modifyStep, List.getElem?_modify, Option.map_eq_map, Option.map_eq_some_iff] at found
  obtain ⟨old, here, rfl⟩ := found
  have before := h k old here after
  split
  · exact keeps old before
  · exact before

theorem length_modifyStep (op : Operation) (i : Nat) (f : StepState → StepState) :
    (op.modifyStep i f).steps.length = op.steps.length := List.length_modify ..

/-- Where steps have passed and none is in progress, the record is quiet. -/
theorem Reached.quiet (h : op.Reached i i) : op.Quiet := by
  intro state member
  obtain ⟨k, found⟩ := List.mem_iff_getElem?.1 member
  have status : op.statuses[k]? = some state.status := by simp [statuses, found]
  obtain ⟨passed, pending⟩ := h k state.status status
  rcases Nat.lt_or_ge k i with before | after
  · rcases passed before with same | same <;> rw [same] <;> simp
  · rw [pending after]
    simp

/-- A step that has been taken up and is untouched has not begun a round. -/
theorem Inside.quiet (h : op.Inside i) (untouched : op.UntouchedFrom i) : op.Quiet := by
  intro state member
  obtain ⟨k, found⟩ := List.mem_iff_getElem?.1 member
  have status : op.statuses[k]? = some state.status := by simp [statuses, found]
  refine ⟨fun failed => ?_, fun running => ?_⟩
  · obtain ⟨passed, pending⟩ := h.reached k state.status status
    rw [failed] at passed pending
    rcases Nat.lt_trichotomy k i with before | here | after
    · rcases passed before with other | other <;> cases other
    · have running := h.running
      rw [← here, status, failed] at running
      cases running
    · cases pending after
  · rw [running] at status
    exact (untouched k state found (h.eq_of_running status).ge).attempts

/-- Nobody is to blame where no step has failed. -/
theorem Accounts.of_quiet {last : Operation} (quiet : last.Quiet)
    (cause : last.status = .error → last.message = EngineError.cancelled.message) : Accounts first last :=
  ⟨fun _ _ found failed => absurd failed (quiet _ (List.mem_of_getElem? found)).1,
    fun status => .inr ⟨cause status, quiet⟩⟩

end Operation

namespace Engine

open Operation (Inside Quiet Accounts)

/-! ### Where the current step is -/

section

variable (first : Operation) (n : Nat)

/-- What a drive keeps until it ends. -/
structure Keeps (op : Operation) : Prop where
  length : op.steps.length = n
  exclusive : op.Exclusive
  issues : op.issues = first.issues

/-- Before the next one of the steps. -/
structure Before (op : Operation) (index : Nat) (later : List Step) : Prop extends Keeps first n op where
  reached : op.Reached index index
  untouched : op.UntouchedFrom index
  current : op.currentStep.toNat = max first.currentStep.toNat (index - 1)
  left : index + later.length = n

/-- In the middle of a step; those from the position `j` on are untouched. -/
structure Amid (j : Nat) (op : Operation) (index : Nat) (later : List Step) : Prop extends Keeps first n op where
  inside : op.Inside index
  untouched : op.UntouchedFrom j
  current : op.currentStep.toNat = max first.currentStep.toNat index
  left : index + 1 + later.length = n

/-- After a step has failed. -/
structure Failed (op : Operation) (index : Nat) : Prop extends Keeps first n op where
  reached : op.Reached index (index + 1)
  failed : op.statuses[index]? = some .error
  untouched : op.UntouchedFrom (index + 1)
  current : op.currentStep.toNat = max first.currentStep.toNat index

/-- Where a drive stands, told by its record, the position of its step and the later steps. -/
def Charted (p : Point) (op : Operation) (index : Nat) (later : List Step) : Prop :=
  match p with
  | .starting => Before first n op index later
  | .entering => Before first n op index later
  | .takenUp _ => Amid first n index op index later
  | .calling _ _ _ => Amid first n (index + 1) op index later
  | .stopping (.ok ()) => op.Quiet
  | .stopping (.error e) => Failed first n op index ∨ e = .cancelled ∧ op.Quiet
  | .ended => Accounts first op

end

section

variable {first op op' : Operation} {n index j : Nat} {later : List Step} {d d' : Drive}

theorem Keeps.modifyStep (h : Keeps first n op) (index : Nat) {f : StepState → StepState}
    (apart : ∀ state, state.Exclusive → (f state).Exclusive) : Keeps first n (op.modifyStep index f) :=
  ⟨(Operation.length_modifyStep ..).trans h.length, h.exclusive.modifyStep index apart, h.issues⟩

theorem Keeps.setStatus (h : Keeps first n d.op) (status : StepStatus) : Keeps first n (d.setStatus status).op :=
  h.modifyStep d.index fun _ exclusive => exclusive.of_endings rfl

theorem untouched_setStatus (h : d.op.UntouchedFrom j) (status : StepStatus) :
    (d.setStatus status).op.UntouchedFrom j :=
  h.modifyStep d.index fun _ untouched => ⟨untouched.attempts, untouched.endings⟩

/-- The next step is taken up. -/
theorem Before.takeUp {step : Step} {rest : List Step} (scene : Scene) (h : Before first n d.op d.index d.later)
    (fits : n ≤ UInt64.size) (some : d.later = step :: rest) :
    Amid first n d.index (d.takeUp scene rest).op d.index rest := by
  have left := h.left
  rw [some, List.length_cons] at left
  have statuses := Drive.statuses_takeUp d scene rest
  have length : d.op.statuses.length = n := by rw [Operation.statuses, List.length_map, h.length]
  let ahead : Drive := { d with op := d.op.advanceTo d.index.toUInt64 (Drive.stamp scene), later := rest }
  have keeps : Keeps first n ahead.op := ⟨h.length, h.exclusive, h.issues⟩
  have untouched : ahead.op.UntouchedFrom d.index := h.untouched
  refine ⟨keeps.setStatus .running, ⟨h.reached.set (Nat.le_succ _) statuses, ?_⟩,
    untouched_setStatus untouched .running, ?_, by omega⟩
  · rw [statuses]
    exact List.getElem?_set_self (by omega)
  · rw [Drive.currentStep_takeUp_eq_max scene rest (by omega), h.current]
    omega

/-- The step in progress has passed. -/
theorem Amid.leave {status : StepStatus} (h : Amid first n j d.op d.index d.later) (within : j ≤ d.index + 1)
    (passed : status.Passed) : Before first n (d.setStatus status).op (d.index + 1) d.later := by
  refine ⟨h.toKeeps.setStatus status, h.inside.reached.pass passed (Drive.statuses_setStatus d status),
    untouched_setStatus (h.untouched.mono within) status, h.current, h.left⟩

/-- The step in progress has failed. -/
theorem Amid.fail (h : Amid first n j d.op d.index d.later) (within : j ≤ d.index + 1) :
    Failed first n (d.setStatus .error).op d.index := by
  have statuses := Drive.statuses_setStatus d .error
  have inside : d.index < d.op.statuses.length := (List.getElem?_eq_some_iff.1 h.inside.running).1
  refine ⟨h.toKeeps.setStatus .error, h.inside.reached.set (Nat.le_refl _) statuses, ?_,
    untouched_setStatus (h.untouched.mono within) .error, h.current⟩
  rw [statuses]
  exact List.getElem?_set_self inside

/-- A round of the step in progress begins. -/
theorem Amid.attempt (h : Amid first n j d.op d.index d.later) (within : j ≤ d.index + 1) :
    Amid first n (d.index + 1) d.attempt.op d.index d.later :=
  ⟨h.toKeeps.modifyStep d.index fun _ exclusive => exclusive.of_endings rfl,
    h.inside.congr (Drive.statuses_attempt d),
    (h.untouched.mono within).modifyStep_of_lt _ (Nat.lt_succ_self _), h.current, h.left⟩

/-- How nodes of the step in progress have ended is recorded. -/
theorem Amid.edit (h : Amid first n (d.index + 1) d.op d.index d.later) (edits : d.Edits d') :
    Amid first n (d'.index + 1) d'.op d'.index d'.later := by
  obtain ⟨f, -, steps⟩ := edits.steps
  rw [edits.index, edits.later]
  have length : d'.op.steps.length = n := by rw [steps, List.length_modify, h.length]
  refine ⟨⟨length, edits.exclusive h.exclusive, edits.issues.trans h.issues⟩, h.inside.congr edits.statuses,
    fun k state found after => ?_, by rw [edits.currentStep, h.current], h.left⟩
  have modified := h.untouched.modifyStep_of_lt f (Nat.lt_succ_self d.index)
  rw [steps] at found
  exact modified k state found after

/-! ### The last record -/

/-- The issues of the current step are put over those from before. -/
theorem Drive.issues_final (d : Drive) (scene : Scene) (e : EngineError) :
    (d.final scene (.error e)).issues =
      match d.op.steps[d.op.currentStep.toNat]? with
      | some state => d.op.issues.merge (issuesOf state)
      | none => d.op.issues := by
  cases found : d.op.steps[d.op.currentStep.toNat]? with
  | some state => simp only [final, collectIssues, Operation.touch, found]
  | none => simp only [final, collectIssues, Operation.touch, found]

theorem Drive.quiet_final (quiet : d.op.Quiet) (scene : Scene) (result : Except EngineError Unit) :
    (d.final scene result).Quiet := by
  rw [Quiet, d.steps_final]
  exact quiet

/-- The issues are those of the failed step, unless the submitted record was beyond it. -/
theorem Failed.accounts (h : Failed first n d.op d.index) (scene : Scene) (e : EngineError) :
    Accounts first (d.final scene (.error e)) := by
  obtain ⟨-, -, current, statuses⟩ := d.frame_final scene (.error e)
  have alone : ∀ k : Nat, (d.final scene (.error e)).statuses[k]? = some .error → k = d.index := by
    intro k failed
    rw [statuses] at failed
    obtain ⟨passed, pending⟩ := h.reached k .error failed
    by_contra differ
    rcases Nat.lt_or_gt_of_ne differ with before | after
    · rcases passed before with other | other <;> cases other
    · cases pending after
  refine ⟨fun i state found failed => ?_, fun _ => .inl ⟨d.index, statuses ▸ h.failed⟩⟩
  obtain rfl : i = d.index := alone i (by rw [Operation.statuses, List.getElem?_map, found, ← failed]; rfl)
  rw [d.steps_final] at found
  refine ⟨d.status_final scene _, alone, by rw [current, h.current], fun behind => ?_, fun beyond => ?_⟩
  · have here : d.op.currentStep.toNat = d.index := by rw [h.current, Nat.max_eq_right behind]
    rw [d.issues_final, here, found, h.issues]
    exact Drive.reports_merge_issuesOf (h.exclusive state (List.mem_of_getElem? found)) first.issues
  · have there : d.op.currentStep.toNat = first.currentStep.toNat := by
      rw [h.current, Nat.max_eq_left beyond.le]
    rw [d.issues_final, there, h.issues]
    split
    · next other found' =>
      have untouched := h.untouched _ other found' beyond
      rw [Drive.issuesOf_of_untouched untouched, Dict.merge_empty]
    · rfl

end

/-! ### Any number of acts -/

section

variable {s : Settings} {first : Operation} {n : Nat} {a b : Station} {effects : List Effect}

/-- What a station tells of its drive. -/
def Station.Charted (first : Operation) (n : Nat) (a : Station) : Prop :=
  Engine.Charted first n a.point a.drive.op a.drive.index a.drive.later

theorem Act.charted (fits : n ≤ UInt64.size) (act : Act s a effects b) (charted : a.Charted first n) :
    b.Charted first n := by
  cases act with
  | setsOff scene => exact ⟨⟨charted.length, charted.exclusive, charted.issues⟩, charted.reached, charted.untouched,
      charted.current, charted.left⟩
  | completes none => exact charted.reached.quiet
  | turnsBack some requested => exact .inr ⟨rfl, charted.reached.quiet⟩
  | takesUp scene some wanted => exact charted.takeUp scene fits some
  | breaksOff requested => exact .inr ⟨rfl, charted.inside.quiet charted.untouched⟩
  | skips fails ignored => exact charted.leave (Nat.le_succ _) (.inr rfl)
  | calls scene desk yields => exact charted.attempt (Nat.le_succ _)
  | works sends => exact charted
  | records edits continues => exact charted.edit edits
  | retries scene desk => exact charted.attempt (Nat.le_refl _)
  | proceeds scene => 
    have passed := charted.leave (Nat.le_refl _) (.inl rfl)
    exact ⟨⟨passed.length, passed.exclusive, passed.issues⟩, passed.reached, passed.untouched,
      passed.current, passed.left⟩
  | @fails p d n step e within =>
    cases p with
    | takenUp step => exact .inl (charted.fail (Nat.le_succ _))
    | calling step nodeSteps round => exact .inl (charted.fail (Nat.le_refl _))
    | _ => cases within
  | @finishes d n scene result =>
    rcases result with e | ⟨⟩
    · rcases charted with failed | ⟨rfl, quiet⟩
      · exact failed.accounts scene e
      · exact .of_quiet (Drive.quiet_final quiet scene _) fun _ => d.message_final scene _
    · exact .of_quiet (Drive.quiet_final charted scene _) fun failed => nomatch failed
  | rests same more =>
    rw [Station.Charted] at charted ⊢
    rw [same.op, same.index, same.later]
    exact charted

theorem Acts.charted (fits : n ≤ UInt64.size) (acts : Acts s a effects b) (charted : a.Charted first n) :
    b.Charted first n := by
  induction acts with
  | refl => exact charted
  | snoc _ act ih => exact act.charted fits ih

end

/-- An operation that has just been submitted is before its first step. -/
theorem before_submitted (s : Settings) (scene : Scene) (op : Operation) (cluster : Cluster)
    (steps : List Step) : Before op steps.length (Drive.submitted s scene op cluster steps).op 0 steps := by
  have named : ∀ state ∈ (Drive.submitted s scene op cluster steps).op.steps, ∃ name, state = .named name := by
    intro state member
    obtain ⟨step, -, rfl⟩ := List.mem_map.1 member
    exact ⟨step.name, rfl⟩
  refine ⟨⟨List.length_map .., fun state member => ?_, rfl⟩, Drive.reached_submitted s scene op cluster steps,
    fun k state found _ => ?_, (Nat.max_zero _).symm, Nat.zero_add _⟩
  · obtain ⟨name, rfl⟩ := named state member
    exact StepState.exclusive_named name
  · obtain ⟨name, rfl⟩ := named state (List.mem_of_getElem? found)
    exact ⟨rfl, rfl⟩

/-- **What a failed operation reports.** An engine that may have been through anything accepts an operation,
be it new or one that was driven before. Whatever happens from then on, if its last record shows a failed
step, this is the only one. The last record then stands at this step and reports how its nodes ended,
provided that the submitted record did not stand at a later step. If it did, the last record stands there
still and reports nothing new. -/
theorem issues_in_last_record (settings : Settings) (before : List (Scene × Event)) {scene : Scene}
    {op : Operation} {cluster : Cluster} {steps : List Step} {moved : Engine × List Effect}
    (fits : steps.length ≤ UInt64.size)
    (accepted : ((started settings).run before).1.submit scene op cluster steps = .ok moved)
    (history : List (Scene × Event)) {last : Operation}
    (ends : .finish last ∈ tenure (concerning op.id (moved.2 ++ (moved.1.run history).2))) :
    Accounts op last := by
  obtain ⟨opening, here⟩ := submitted_of_submit accepted
  have filed : moved.1.Filed :=
    (Change.submits accepted).filed (filed_run (filed_started settings) before)
  -- The first record comes before everything else and does not end the operation.
  have unfinished : Unfinished moved.2 := by
    intro other member
    rw [opening] at member
    simp at member
  have first : concerning op.id moved.2 = moved.2 := by
    refine concerning_all fun effect member => ?_
    rw [opening, List.mem_singleton] at member
    rw [member]
    rfl
  rw [concerning_append, first, tenure_append unfinished] at ends
  have ends' := (List.mem_append.1 ends).resolve_left (unfinished last)
  obtain ⟨b, acts, -⟩ := run_running filed here history
  have charted : b.Charted op steps.length := acts.charted fits (before_submitted _ scene op cluster steps)
  obtain ⟨atEnd, same, -⟩ := acts.op_of_finish (filed op.id _ here).1 ends'
  rw [Station.Charted, atEnd, same] at charted
  exact charted

/-! ### An operation that is submitted again -/

namespace Sample

/-- A record that was left at the second step of an earlier list. -/
def reused : Operation := { operation with currentStep := 1 }

/-- One step, which is broken off in the middle of its round. -/
def single : List Step := [.fixed "drain" [.forNode "drain b" "b" [.runCommand ⟨default, ["drain"], false⟩]]]

def resubmitted (op : Operation) : Engine × List Effect :=
  ((started Sample.settings).submit scene op default single).toOption.getD (started Sample.settings, [])

def brokenRound : List (Scene × Event) :=
  [(scene, .step "op"), (scene, .work "op" 1 0), (scene, .cancel "op"), (scene, .heed "op")]

def outcome (op : Operation) : List Effect :=
  tenure (concerning op.id ((resubmitted op).2 ++ ((resubmitted op).1.run brokenRound).2))

end Sample

open Sample in
/-- The step fails either way, and only the new record reports its node. -/
theorem sample_reused :
    (∃ last state, .finish last ∈ outcome operation ∧ last.steps = [state] ∧ state.status = .error ∧
      state.failed.get? "b" = some "cancelled" ∧ last.currentStep.toNat = 0 ∧
      last.issues.get? "b" = some "cancelled") ∧
    ∃ last state, .finish last ∈ outcome reused ∧ last.steps = [state] ∧ state.status = .error ∧
      state.failed.get? "b" = some "cancelled" ∧ last.currentStep.toNat = 1 ∧ last.issues = .empty := by
  have ends (op : Operation) (accepted : (started Sample.settings).submit scene op default single =
      .ok (resubmitted op)) {last : Operation} (final : (outcome op).getLast? = some (.finish last)) :
      .finish last ∈ outcome op ∧ Accounts op last :=
    ⟨List.mem_of_getLast? final, issues_in_last_record Sample.settings [] (by decide) accepted brokenRound
      (List.mem_of_getLast? final)⟩
  constructor
  · have final : ∃ last state, (outcome operation).getLast? = some (.finish last) ∧ last.steps = [state] ∧
        state.status = .error ∧ state.failed.get? "b" = some "cancelled" := ⟨_, _, rfl, rfl, rfl, rfl⟩
    obtain ⟨last, state, final, steps, status, failed⟩ := final
    obtain ⟨member, accounts⟩ := ends operation rfl final
    have blames := accounts.failing 0 state (by rw [steps]; rfl) status
    exact ⟨last, state, member, steps, status, failed, blames.current,
      (blames.reports (Nat.le_refl _)).failed "b" "cancelled" failed⟩
  · have final : ∃ last state, (outcome reused).getLast? = some (.finish last) ∧ last.steps = [state] ∧
        state.status = .error ∧ state.failed.get? "b" = some "cancelled" := ⟨_, _, rfl, rfl, rfl, rfl⟩
    obtain ⟨last, state, final, steps, status, failed⟩ := final
    obtain ⟨member, accounts⟩ := ends reused rfl final
    have blames := accounts.failing 0 state (by rw [steps]; rfl) status
    exact ⟨last, state, member, steps, status, failed, blames.current, blames.stale Nat.one_pos⟩

end Engine

end Muster
