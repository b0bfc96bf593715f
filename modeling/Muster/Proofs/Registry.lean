import Muster.Proofs.Submission

/-!
# One drive for each operation

An engine keeps a registry of the operations that it drives. An accepted submission files a task there,
and the task takes itself out when it ends. `Change.balance` says that whatever else happens leaves an
operation filed as it was, so the tasks begun, the tasks ended and the registry add up after any history:
nobody is driven twice, and what the registry says of an operation is true. The submissions that an engine
refuses do not show at all.
-/

set_option autoImplicit false

namespace Muster.Engine

/-! ### The host in the records -/

/-- A record shows this host. -/
def Effect.Hosted (host : String) : Effect → Prop
  | .save op => op.host = host
  | .finish op => op.host = host
  | .send _ _ => True

/-- Every drive shows the host of its engine. -/
def Hosted (e : Engine) : Prop := ∀ id d, e.drives.get? id = some d → d.op.host = e.settings.host

section

variable {s : Settings} {a b : Station} {effects : List Effect} {id : String} {e : Engine} {event : Event}
  {moved : Engine × List Effect}

/-- No act of a drive changes the host of its operation. -/
theorem Act.hosted (act : Act s a effects b) (filed : a.Filed id) (own : a.drive.op.host = s.host) :
    b.drive.op.host = s.host ∧ ∀ effect ∈ effects, effect.Hosted s.host := by
  have silent : ∀ effect ∈ ([] : List Effect), effect.Hosted s.host := fun _ member => nomatch member
  have saves {op : Operation} (here : op.host = s.host) :
      ∀ effect ∈ [Effect.save op], effect.Hosted s.host := by
    intro effect member
    rw [List.mem_singleton.1 member]
    exact here
  cases act with
  | setsOff scene => exact ⟨own, saves own⟩
  | takesUp scene some wanted => exact ⟨own, saves own⟩
  | skips fails ignored => exact ⟨own, saves own⟩
  | works sends =>
    refine ⟨own, fun effect member => ?_⟩
    obtain ⟨lane, -, k, task, -, rfl⟩ := sends.carries (filed.context _ _ _ rfl).2 effect member
    trivial
  | records edits continues => exact ⟨edits.host.trans own, saves (edits.host.trans own)⟩
  | proceeds scene => exact ⟨own, saves own⟩
  | @finishes d n scene result =>
    have here : (d.final scene result).host = s.host := (d.host_final scene result).trans own
    refine ⟨here, fun effect member => ?_⟩
    rcases List.mem_pair.1 member with rfl | rfl <;> exact here
  | rests same more => exact ⟨(congrArg Operation.host same.op).trans own, silent⟩
  | _ => exact ⟨own, silent⟩

theorem Acts.hosted (acts : Acts s a effects b) (filed : a.Filed id) (own : a.drive.op.host = s.host) :
    b.drive.op.host = s.host ∧ ∀ effect ∈ effects, effect.Hosted s.host := by
  induction acts with
  | refl => exact ⟨own, fun _ member => nomatch member⟩
  | snoc acts act ih =>
    obtain ⟨now, before⟩ := ih
    obtain ⟨next, more⟩ := act.hosted (acts.filed filed).1 now
    refine ⟨next, fun effect member => ?_⟩
    rcases List.mem_append.1 member with old | new
    · exact before effect old
    · exact more effect new

theorem Change.hosted (filed : e.Filed) (hosted : e.Hosted) (change : Change e event moved) :
    moved.1.Hosted ∧ ∀ effect ∈ moved.2, effect.Hosted e.settings.host := by
  cases change with
  | @moves event id d brought here moves =>
    obtain ⟨acts, -, -⟩ := filed.brought here moves
    obtain ⟨own, shown⟩ := acts.hosted (filed id d here).1 (hosted id d here)
    refine ⟨fun k d' found => ?_, shown⟩
    by_cases same : k = id
    · subst same
      rcases get?_putBack_self e k brought with ⟨kept, -⟩ | ⟨gone, -⟩
      · rw [kept] at found
        cases found
        exact own
      · rw [gone] at found
        cases found
    · rw [get?_putBack_of_ne e brought same] at found
      exact hosted k d' found
  | rests f settings identifiers drives same =>
    refine ⟨fun k d' found => ?_, fun _ member => nomatch member⟩
    rw [drives, Option.map_eq_some_iff] at found
    obtain ⟨d, here, rfl⟩ := found
    rw [(Drive.rests_asked (same k d)).1.op, settings]
    exact hosted k d here
  | submits accepted =>
    obtain ⟨-, -, -, rfl⟩ := submit_eq_ok.1 accepted
    refine ⟨fun k d' found => ?_, fun effect member => ?_⟩
    · simp only [Dict.get?_insert] at found
      split at found
      · cases found
        rfl
      · exact hosted k d' found
    · rw [List.mem_singleton.1 member]
      rfl

theorem hosted_started (settings : Settings) : (started settings).Hosted := by
  intro id d found
  simp [started] at found

theorem hosted_run (filed : e.Filed) (hosted : e.Hosted) (history : List (Scene × Event)) :
    ∀ effect ∈ (e.run history).2, effect.Hosted e.settings.host := by
  induction history generalizing e with
  | nil => exact fun _ member => nomatch member
  | cons first rest ih =>
    have change := next_change e first.1 first.2
    obtain ⟨next, shown⟩ := change.hosted filed hosted
    intro effect member
    rcases List.mem_append.1 member with now | later
    · exact shown effect now
    · rw [← change.settings]
      exact ih (change.filed filed) next effect later

end

/-! ### Tasks begun and ended -/

/-- An event begins a task for an operation: the operation is submitted and accepted. -/
def begins (e : Engine) (scene : Scene) (id : String) : Event → Bool
  | .submit op cluster steps => decide (op.id = id) && (e.submit scene op cluster steps).isOk
  | _ => false

/-- The number of tasks that are begun for an operation. -/
def begun (e : Engine) (id : String) : List (Scene × Event) → Nat
  | [] => 0
  | (scene, event) :: rest => (e.begins scene id event).toNat + (e.next scene event).1.begun id rest

/-- An effect with which a task of an operation ends. -/
def Effect.endsTask (id : String) : Effect → Bool
  | .finish op => decide (op.id = id)
  | _ => false

/-- The number of tasks of an operation that have ended. -/
def ended (id : String) (effects : List Effect) : Nat := effects.countP (Effect.endsTask id)

section

variable {effects more : List Effect} {id : String} {e : Engine} {scene : Scene} {event : Event}
  {moved : Engine × List Effect}

theorem ended_append (id : String) (effects more : List Effect) :
    ended id (effects ++ more) = ended id effects + ended id more := List.countP_append

theorem ended_concerning (id : String) (effects : List Effect) :
    ended id (concerning id effects) = ended id effects := by
  rw [ended, concerning, List.countP_filter]
  refine List.countP_congr fun effect _ => ?_
  cases effect with
  | finish op => by_cases mine : op.id = id <;> simp [Effect.endsTask, Effect.operationId, mine]
  | _ => simp [Effect.endsTask]

theorem ended_of_unfinished (unfinished : Unfinished effects) : ended id effects = 0 := by
  refine List.countP_eq_zero.2 fun effect member => ?_
  cases effect with
  | finish op => exact absurd member (unfinished op)
  | _ => simp [Effect.endsTask]

/-- A refused submission does nothing. -/
theorem next_of_refused {op : Operation} {cluster : Cluster} {steps : List Step} {reason : EngineError}
    (refused : e.submit scene op cluster steps = .error reason) :
    e.next scene (.submit op cluster steps) = (e, []) := by
  rw [next, refused]

/-- As long as no task begins, one that runs goes on or ends, and no other one ends. -/
theorem Change.quiet (filed : e.Filed) (change : Change e event moved) (id : String)
    (other : e.isRunning id = false →
      ∀ op cluster steps, event = .submit op cluster steps → op.id ≠ id) :
    (e.isRunning id).toNat = ended id moved.2 + (moved.1.isRunning id).toNat := by
  rw [← ended_concerning]
  cases running : e.isRunning id with
  | false =>
    obtain ⟨gone, nothing⟩ := change.absent filed (isRunning_eq_false.1 running) (other running)
    rw [nothing, isRunning_eq_false.2 gone]
    rfl
  | true =>
    obtain ⟨d, here⟩ := Option.isSome_iff_exists.1 running
    obtain ⟨own, goesOn⟩ := filed id d here
    rcases change.running filed here with ⟨d', kept, acts⟩ | ⟨gone, b, atEnd, acts⟩
    · have still : moved.1.isRunning id = true := Option.isSome_iff_exists.2 ⟨d', kept⟩
      rcases acts.finish_last own goesOn with ⟨-, unfinished⟩ | ⟨atEnd, -⟩
      · rw [ended_of_unfinished unfinished, still]
        rfl
      · exact absurd atEnd (change.filed filed id d' kept).2
    · rcases acts.finish_last own goesOn with ⟨notEnded, -⟩ | ⟨-, earlier, last, same, unfinished⟩
      · exact absurd atEnd notEnded
      · have mine : last.id = id := (acts.filed own).2 (.finish last) (by rw [same]; simp)
        rw [same, ended_append, ended_of_unfinished unfinished, isRunning_eq_false.2 gone]
        simp [ended, Effect.endsTask, mine]

/-- **The registry is kept in balance** by every event. -/
theorem next_balance (filed : e.Filed) (scene : Scene) (event : Event) (id : String) :
    (e.begins scene id event).toNat + (e.isRunning id).toNat =
      ended id (e.next scene event).2 + ((e.next scene event).1.isRunning id).toNat := by
  have change := next_change e scene event
  cases event with
  | submit op cluster steps =>
    by_cases mine : op.id = id
    · subst mine
      cases answer : e.submit scene op cluster steps with
      | error reason =>
        rw [next_of_refused answer]
        simp [begins, answer, Except.isOk, Except.toBool, ended]
      | ok moved =>
        obtain ⟨-, -, free, same⟩ := submit_eq_ok.1 answer
        have idle : e.isRunning op.id = false := isRunning_eq_false.2 free
        have filed' : moved.1.isRunning op.id = true := by
          rw [same]
          exact Option.isSome_iff_exists.2 ⟨_, Dict.get?_insert_self ..⟩
        have silent : ended op.id moved.2 = 0 := by
          rw [same]
          rfl
        have next : e.next scene (.submit op cluster steps) = moved := by rw [Engine.next, answer]
        rw [next, filed', silent, idle]
        simp [begins, answer, Except.isOk, Except.toBool]
    · have quiet := change.quiet filed id (by rintro _ _ _ _ ⟨⟩; exact mine)
      simp [begins, mine, quiet]
  | _ =>
    have quiet := change.quiet filed id (by simp)
    simpa [begins] using quiet

theorem run_balance (filed : e.Filed) (history : List (Scene × Event)) (id : String) :
    e.begun id history + (e.isRunning id).toNat =
      ended id (e.run history).2 + ((e.run history).1.isRunning id).toNat := by
  induction history generalizing e with
  | nil => simp [begun, run, ended]
  | cons first rest ih =>
    obtain ⟨scene, event⟩ := first
    have step := next_balance filed scene event id
    have later := ih ((next_change e scene event).filed filed)
    rw [run_cons, begun]
    simp only [ended_append]
    omega

end

/-! ### What the registry says is true -/

/-- A task drives an operation: it was begun and has not ended. -/
def Driven (settings : Settings) (history : List (Scene × Event)) (id : String) : Prop :=
  ended id ((started settings).run history).2 < (started settings).begun id history

instance (settings : Settings) (history : List (Scene × Event)) (id : String) :
    Decidable (Driven settings history id) := Nat.decLt ..

/-- An engine may drive an operation of this host. -/
def Admits (settings : Settings) (op : Operation) : Prop := op.host = "" ∨ op.host = settings.host

/-- What an engine promises about its registry after it has been through a history. -/
structure Registry (settings : Settings) (history : List (Scene × Event)) (e : Engine)
    (effects : List Effect) : Prop where
  /-- At most one task drives an operation. -/
  single : ∀ id, ended id effects ≤ (started settings).begun id history ∧
    (started settings).begun id history ≤ ended id effects + 1
  isRunning : ∀ id, e.isRunning id = true ↔ Driven settings history id
  cancel : ∀ id, (e.cancel id).1 = true ↔ Driven settings history id
  alreadyRunning : ∀ scene op cluster steps id,
    e.submit scene op cluster steps = .error (.alreadyRunning id) ↔
      id = op.id ∧ steps ≠ [] ∧ Admits settings op ∧ Driven settings history op.id
  /-- A refused submission might as well not have been made. -/
  refused : ∀ scene op cluster steps reason, e.submit scene op cluster steps = .error reason →
    ∀ rest, e.run ((scene, .submit op cluster steps) :: rest) = e.run rest
  /-- Every record shows the host of the engine. -/
  host : ∀ record, .save record ∈ effects ∨ .finish record ∈ effects → record.host = settings.host
  /-- What is not driven can be submitted, for the first time or again. -/
  again : ∀ scene op cluster steps, ¬ Driven settings history op.id → steps ≠ [] →
    Admits settings op → ∃ moved, e.submit scene op cluster steps = .ok moved ∧
      Driven settings (history ++ [(scene, .submit op cluster steps)]) op.id

/-- The answer to a submission, by what is asked for. -/
theorem submit_answer {e : Engine} (scene : Scene) (op : Operation) (cluster : Cluster) (steps : List Step) :
    (steps = [] ∧ e.submit scene op cluster steps = .error .emptyPlan) ∨
    (steps ≠ [] ∧ ¬ Admits e.settings op ∧
      e.submit scene op cluster steps = .error (.foreignHost op.id op.host)) ∨
    (steps ≠ [] ∧ Admits e.settings op ∧ e.isRunning op.id = true ∧
      e.submit scene op cluster steps = .error (.alreadyRunning op.id)) ∨
    (steps ≠ [] ∧ Admits e.settings op ∧ e.isRunning op.id = false ∧
      ∃ moved, e.submit scene op cluster steps = .ok moved) := by
  by_cases empty : steps = []
  · exact .inl ⟨empty, by rw [submit, empty]; rfl⟩
  have isEmpty : ¬ steps.isEmpty = true := fun none => empty (List.isEmpty_iff.1 none)
  by_cases admits : Admits e.settings op
  · have own : ¬(op.host ≠ "" ∧ op.host ≠ e.settings.host) := fun foreign =>
      admits.elim foreign.1 foreign.2
    cases running : e.isRunning op.id with
    | true =>
      refine .inr (.inr (.inl ⟨empty, admits, rfl, ?_⟩))
      rw [submit, if_neg isEmpty, if_neg own, if_pos running]
    | false =>
      exact .inr (.inr (.inr ⟨empty, admits, rfl, _,
        submit_eq_ok.2 ⟨empty, admits, isRunning_eq_false.1 running, rfl⟩⟩))
  · have foreign : op.host ≠ "" ∧ op.host ≠ e.settings.host := not_or.1 admits
    refine .inr (.inl ⟨empty, admits, ?_⟩)
    rw [submit, if_neg isEmpty, if_pos foreign]

/-- **One drive for each operation.** After any history of an engine, every operation id has at most one
task that drives it, and the registry, requests to cancel and submissions answer accordingly. A refused
submission changes nothing, every record shows the host of the engine, and what is no longer driven can be
submitted again. -/
theorem driven_once (settings : Settings) (history : List (Scene × Event)) :
    Registry settings history ((started settings).run history).1 ((started settings).run history).2 := by
  have filed := filed_started settings
  have same : ((started settings).run history).1.settings = settings := settings_run ..
  have balance (history : List (Scene × Event)) (id : String) :
      (started settings).begun id history = ended id ((started settings).run history).2 +
        (((started settings).run history).1.isRunning id).toNat := by
    have sum := run_balance filed history id
    have idle : (started settings).isRunning id = false := rfl
    rw [idle] at sum
    exact sum
  have driven (history : List (Scene × Event)) (id : String) :
      ((started settings).run history).1.isRunning id = true ↔ Driven settings history id := by
    rw [Driven, balance]
    cases ((started settings).run history).1.isRunning id <;> simp
  refine ⟨fun id => ?_, driven history, driven history, fun scene op cluster steps id => ?_,
    fun scene op cluster steps reason refused rest => ?_, fun record shown => ?_,
    fun scene op cluster steps idle some admits => ?_⟩
  · rw [balance]
    have bit := Bool.toNat_le (((started settings).run history).1.isRunning id)
    omega
  · rw [← driven]
    have answer := submit_answer (e := ((started settings).run history).1) scene op cluster steps
    rw [same] at answer
    rcases answer with ⟨empty, refused⟩ | ⟨some, foreign, refused⟩ | ⟨some, admits, running, refused⟩ |
      ⟨some, admits, idle, moved, accepted⟩
    · subst empty
      simp [refused]
    · simp [refused, foreign]
    · simp [refused, some, admits, running, eq_comm]
    · simp [accepted, idle]
  · rw [run_cons, next_of_refused refused]
    rfl
  · have hosted := hosted_run filed (hosted_started settings) history
    rcases shown with saved | finished
    · exact hosted _ saved
    · exact hosted _ finished
  · have free := isRunning_eq_false.1 (Bool.eq_false_iff.2 fun running => idle ((driven ..).1 running))
    rw [← same] at admits
    have accepted : ((started settings).run history).1.submit scene op cluster steps = .ok _ :=
      submit_eq_ok.2 ⟨some, admits, free, rfl⟩
    refine ⟨_, accepted, (driven ..).1 ?_⟩
    rw [run_append, run_cons, next, accepted]
    exact Option.isSome_iff_exists.2 ⟨_, Dict.get?_insert_self ..⟩

/-! ### An operation that is submitted three times -/

namespace Sample

/-- A second submission comes while the operation is driven, and a third one after it was cancelled. -/
def resubmissions : List (Scene × Event) :=
  [(scene, .submit operation default plan), (scene, .step "op"), (scene, .submit operation default plan),
    (scene, .cancel "op"), (scene, .heed "op"), (scene, .submit operation default plan)]

end Sample

open Sample in
/-- Two of the submissions began a task, and the second task drives the operation. -/
theorem sample_resubmitted :
    (started Sample.settings).begun "op" resubmissions = 2 ∧
      ended "op" ((started Sample.settings).run resubmissions).2 = 1 ∧
      (((started Sample.settings).run resubmissions).1.cancel "op").1 = true := by
  have registry := driven_once Sample.settings resubmissions
  exact ⟨rfl, rfl, (registry.cancel "op").2 (by decide)⟩

end Muster.Engine
