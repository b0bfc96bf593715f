import Muster.Proofs.Cancellation

/-!
# What the store holds while a drive waits

Whenever a drive waits, in a pause or in a round, everything that its record says has been handed to the
store, with one exception: that a round has begun is counted in the record at once and handed over only
with the first outcome that is settled. `Drive.Stored` says so of a log and a drive; the functions that
make up a move are gone through once, and `stored_while_waiting` says it of every engine.
-/

set_option autoImplicit false

namespace Muster

namespace Operation

/-- The operation apart from the time of its last change. -/
def undated (op : Operation) : Operation := op.touch 0

/-- The operation with one more round counted for one of its steps. -/
def counted (op : Operation) (index : Nat) : Operation :=
  op.modifyStep index fun state => { state with attempts := state.attempts + 1 }

theorem undated_counted {op other : Operation} (same : op.undated = other.undated) (index : Nat) :
    (op.counted index).undated = (other.counted index).undated := by
  have moved (op : Operation) : (op.counted index).undated = op.undated.counted index := rfl
  rw [moved, moved, same]

/-- A round more or less is seen in the record. -/
theorem undated_counted_ne {op : Operation} {index : Nat} (inside : index < op.steps.length) :
    (op.counted index).undated ≠ op.undated := by
  intro same
  have steps : (op.counted index).steps = op.steps :=
    show (op.counted index).undated.steps = op.undated.steps by rw [same]
  have attempts := congrArg (fun steps : List StepState => steps[index]?.map StepState.attempts) steps
  simp only [counted, modifyStep, List.getElem?_modify_eq, List.getElem?_eq_getElem inside,
    Option.map_eq_map, Option.map_some, Option.some.injEq] at attempts
  simp at attempts

end Operation

namespace Engine

/-! ### What has been handed over -/

/-- None of the outcomes of the round has been settled. -/
def Round.untouched (r : Round) : Bool := r.lanes.all fun lane => !lane.slot.isSettled

/-- The drive is in a round that its last record does not count yet. -/
def Drive.uncounted (d : Drive) : Bool :=
  match d.phase with
  | .dispatching _ _ round => round.untouched
  | _ => false

/-- The last record of a log is that of a drive, apart from the round that it does not count yet. -/
def Drive.Stored (log : List Effect) (d : Drive) : Prop :=
  ∃ record, latest? log = some record ∧
    d.op.undated = (if d.uncounted then record.counted d.index else record).undated

/-- The last record of a log is that of a drive. -/
def Drive.Saved (log : List Effect) (d : Drive) : Prop :=
  ∃ record, latest? log = some record ∧ d.op.undated = record.undated

section

variable {r t : Round} {log : List Effect} {d : Drive} {desk : Desk}

theorem Round.untouched_eq_roster (r : Round) : r.untouched = r.roster.all fun entry => !entry.2.2 := by
  simp [untouched, roster, Lane.entry, List.all_map, Function.comp_def]

/-- Who goes on touches nobody's outcome. -/
theorem Round.Keeps.untouched (keeps : r.Keeps t) (sound : r.Sound) : t.untouched = r.untouched := by
  rw [untouched_eq_roster, untouched_eq_roster, keeps.roster sound]

theorem Round.untouched_begin (s : Settings) (scene : Scene) (skip : Bool) (c : RoundContext)
    (named : List (String × NodeStep)) : (begin s scene skip c named).untouched = true := by
  rw [untouched, List.all_eq_true]
  intro lane among
  rw [unsettled_begin s scene skip c named among]
  rfl

/-- A round is touched once an outcome has been taken out of it. -/
theorem Round.Took.untouched {lane : Lane} {outcome : Outcome} (took : r.Took lane outcome t) :
    t.untouched = false := by
  rw [Round.untouched, List.all_eq_false]
  exact ⟨_, took.taken, by simp [Slot.isSettled]⟩

theorem Drive.saved_save (log : List Effect) (d : Drive) (desk : Desk) :
    d.Saved (log ++ (d.save desk).effects) := by
  refine ⟨d.op, ?_, rfl⟩
  rw [show (d.save desk).effects = desk.effects ++ [.save d.op] from rfl, ← List.append_assoc]
  exact latest?_save _ _

theorem Drive.Saved.stored (saved : d.Saved log) (counted : d.uncounted = false) : d.Stored log := by
  obtain ⟨record, latest, same⟩ := saved
  exact ⟨record, latest, by rw [counted]; exact same⟩

theorem Drive.Stored.saved (stored : d.Stored log) (counted : d.uncounted = false) : d.Saved log := by
  obtain ⟨record, latest, same⟩ := stored
  rw [counted] at same
  exact ⟨record, latest, same⟩

end

/-! ### Every function of a drive hands over what it changes -/

namespace Drive

section

variable (s : Settings) (scene : Scene) (log : List Effect) (desk : Desk) (d : Drive) (step : Step)
  (nodeSteps : List NodeStep) (round : Round)

/-- What a move leaves has been handed over. -/
abbrev Keeping (log : List Effect) (moved : Drive × Desk) : Prop := moved.1.Stored (log ++ moved.2.effects)

/-- What a turn leaves has been handed over, if its step goes on. Whatever ends a step is followed by a
record. -/
def TurnKept (log : List Effect) (turn : Turn) : Prop :=
  turn.verdict = .underWay → Keeping log (turn.drive, turn.desk)

variable {log desk d} in
/-- A round that begins is counted in the record and not handed over. -/
theorem keeping_dispatch (saved : d.Saved (log ++ desk.effects)) (called : List NodeStep) :
    TurnKept log (dispatch s scene desk d step nodeSteps called) := by
  intro _
  obtain ⟨record, latest, same⟩ := saved
  have uncounted : (dispatch s scene desk d step nodeSteps called).drive.uncounted = true :=
    Round.untouched_begin ..
  refine ⟨record, latest, ?_⟩
  rw [uncounted]
  exact Operation.undated_counted same d.index

theorem keeping_concludeRound : TurnKept log (concludeRound s scene desk d step nodeSteps round) := by
  have cases := concludeRound_cases s scene desk d step nodeSteps round
  generalize concludeRound s scene desk d step nodeSteps round = turn at cases ⊢
  cases cases with
  | retries decided some => exact keeping_dispatch s scene step nodeSteps (saved_save ..) _
  | _ => exact fun underWay => nomatch underWay

variable {log desk d} in
theorem keeping_launch (saved : d.Saved (log ++ desk.effects)) :
    TurnKept log (launch s scene desk d step) := by
  have equal := launch_eq s scene desk d step
  split at equal
  · next nodeSteps yields =>
    rw [equal]
    by_cases none : nodeSteps = []
    · subst none
      rw [firstRound_nil]
      exact keeping_concludeRound s scene log _ _ step [] _
    · rw [firstRound_of_ne_nil s scene desk d step nodeSteps none]
      exact keeping_dispatch s scene step nodeSteps saved _
  · intro underWay
    rw [equal] at underWay
    split at underWay <;> cases underWay

variable {log desk d round} in
theorem keeping_settle (stored : d.Stored (log ++ desk.effects)) (sound : round.Sound) :
    TurnKept log (settle s scene desk d step nodeSteps round) := by
  have cases := settle_cases s scene desk d step nodeSteps round
  generalize settle s scene desk d step nodeSteps round = turn at cases ⊢
  cases cases with
  | idle none => exact fun _ => stored
  | finalizes lane outcome taken noted swept took note gaveUp sweep =>
    exact keeping_concludeRound s scene log _ _ step nodeSteps _
  | ends lane outcome taken noted took note patient atEnd =>
    exact keeping_concludeRound s scene log _ _ step nodeSteps _
  | goesOn lane outcome taken noted took note patient busy =>
    intro _
    -- The outcome that was taken is settled, so the round is counted by the record that notes it.
    have taking := Round.took_of_take? took
    have counted : (onward noted step lane outcome taken).untouched = false := by
      rw [(keeps_onward noted step lane outcome taken).untouched (taking.sound sound)]
      exact taking.untouched
    exact Saved.stored (saved_save log noted desk) counted

theorem keeping_finish (result : Except EngineError Unit) : Keeping log (finish scene desk d result) := by
  refine ⟨d.final scene result, ?_, ?_⟩
  · rw [finish_eq, Desk.emit, Desk.emit, List.append_assoc, ← List.append_assoc, latest?, records_append]
    exact List.getLast?_concat
  · rw [finish_eq]
    rfl

variable {log} in
theorem keeping_resolve {turn : Turn} (kept : TurnKept log turn)
    (enters : turn.verdict = .stepOver →
      Keeping log (enter s scene turn.desk turn.drive.leave turn.drive.later)) :
    Keeping log (resolve s scene turn) := by
  obtain ⟨verdict, drive, desk⟩ := turn
  cases verdict with
  | underWay => exact kept rfl
  | stopped e => exact keeping_finish ..
  | stepOver => exact enters rfl

/-- A step that is entered is handed over before anything else. -/
theorem keeping_enter (later : List Step) : Keeping log (enter s scene desk d later) := by
  induction later generalizing desk d with
  | nil => exact keeping_finish ..
  | cons step later ih =>
    rw [enter_cons]
    split
    · exact keeping_finish ..
    · have saved := saved_save log (d.takeUp scene later) desk
      split
      · exact Saved.stored (d := { d.takeUp scene later with phase := .pausing step _ }) saved rfl
      · obtain ⟨-, rest⟩ :=
          place_launch s scene ((d.takeUp scene later).save desk) (d.takeUp scene later) step
        refine keeping_resolve s scene (keeping_launch s scene step saved) fun _ => ?_
        rw [rest]
        exact ih ..

/-- **A drive that goes on** leaves nothing behind but the round that it counts. -/
theorem Moves.keeping {moved : Drive × Desk} (moves : d.Moves s desk moved)
    (stored : d.Stored (log ++ desk.effects))
    (inOrder : ∀ step nodeSteps round, d.phase = .dispatching step nodeSteps round →
      round.Sound ∧ round.Faithful) : Keeping log moved := by
  cases moves with
  | step scene =>
    rw [Drive.step]
    split
    · exact keeping_enter ..
    · next step due phase =>
      split
      · have counted : d.uncounted = false := by rw [uncounted, phase]
        exact keeping_resolve s scene (keeping_launch s scene step (stored.saved counted)) fun _ =>
          keeping_enter ..
      · exact stored
    · next step nodeSteps round phase =>
      exact keeping_resolve s scene
        (keeping_settle s scene step nodeSteps stored (inOrder step nodeSteps round phase).1) fun _ =>
          keeping_enter ..
    · exact stored
  | heed scene =>
    rw [Drive.heed]
    split
    · split
      · exact keeping_finish ..
      · exact keeping_finish ..
      · exact stored
      · exact stored
    · exact stored
  | work scene round i =>
    rw [Drive.work]
    split
    · next step nodeSteps r phase =>
      split
      · obtain ⟨sound, faithful⟩ := inOrder step nodeSteps r phase
        obtain ⟨sent, sends⟩ := Round.sends_work s scene desk r i
        have sending : Sending sent := by
          intro effect member
          obtain ⟨lane, -, k, task, -, rfl⟩ := sends.carries faithful effect member
          exact ⟨_, _, rfl⟩
        obtain ⟨record, latest, same⟩ := stored
        refine ⟨record, ?_, ?_⟩
        · rw [sends.effects, ← List.append_assoc, latest?, sending.records_append]
          exact latest
        · have untouched := (Round.keeps_work s scene desk r i).untouched sound
          rw [uncounted, phase] at same
          rw [uncounted]
          simp only at same ⊢
          rw [untouched]
          exact same
      · exact stored
    · exact stored

end

end Drive

/-! ### Every engine hands over what its drives change -/

/-- What the drives of an engine wait with has been handed over. -/
def Keeping (log : List Effect) (e : Engine) : Prop :=
  ∀ id d, e.drives.get? id = some d → d.Stored (concerning id log)

section

variable {e : Engine} {log : List Effect} {event : Event} {moved : Engine × List Effect}

/-- Whatever happens is handed over. -/
theorem Change.keeping (keeping : Keeping log e) (healthy : e.Healthy) (change : Change e event moved) :
    Keeping (log ++ moved.2) moved.1 := by
  intro k d' found
  rw [concerning_append]
  cases change with
  | @moves event id d brought here moves =>
    obtain ⟨-, -, own⟩ := healthy.filed.brought here moves
    by_cases same : k = id
    · subst same
      rcases get?_putBack_self e k brought with ⟨kept, -⟩ | ⟨gone, -⟩
      · rw [kept] at found
        obtain rfl := Option.some.inj found
        have all : concerning k (e.putBack k brought).2 = brought.2.effects := concerning_all own
        rw [all]
        refine moves.keeping e.settings (concerning k log) e.desk d ?_ fun step nodeSteps round phase => ?_
        · rw [show e.desk.effects = [] from rfl, List.append_nil]
          exact keeping k d here
        · refine ⟨healthy.inOrder here phase, ((healthy.filed k d here).1.context step nodeSteps round ?_).2⟩
          rw [station, phase]
          rfl
      · rw [gone] at found
        cases found
    · have none : concerning k (e.putBack id brought).2 = [] := concerning_none own same
      rw [none, List.append_nil]
      rw [get?_putBack_of_ne e brought same] at found
      exact keeping k d' found
  | rests f settings identifiers drives same =>
    rw [drives, Option.map_eq_some_iff] at found
    obtain ⟨d, here, rfl⟩ := found
    have before := keeping k d here
    rw [show concerning k [] = [] from rfl, List.append_nil]
    rcases same k d with equal | asked
    · rw [equal]
      exact before
    · rw [asked]
      exact before
  | @submits scene op cluster steps moved accepted =>
    obtain ⟨-, -, -, rfl⟩ := submit_eq_ok.1 accepted
    have own : ∀ effect ∈ [Effect.save (Drive.submitted e.settings scene op cluster steps).op],
        effect.operationId = op.id := by
      intro effect member
      rw [List.mem_singleton.1 member]
      rfl
    simp only [Dict.get?_insert] at found
    split at found
    · next same =>
      obtain rfl := Option.some.inj found
      subst same
      rw [concerning_all own]
      exact Drive.Saved.stored ⟨_, latest?_save _ _, rfl⟩ rfl
    · next differ =>
      rw [concerning_none own differ, List.append_nil]
      exact keeping k d' found

theorem Keeping.run (keeping : Keeping log e) (healthy : e.Healthy) (history : List (Scene × Event)) :
    Keeping (log ++ (e.run history).2) (e.run history).1 := by
  induction history generalizing e log with
  | nil =>
    rw [show (e.run []).2 = [] from rfl, List.append_nil]
    exact keeping
  | cons first rest ih =>
    have next := (next_change e first.1 first.2).keeping keeping healthy
    have later := ih next (healthy.next first.1 first.2)
    rw [run_cons]
    rw [List.append_assoc] at later
    exact later

end

/-- **What the store holds while an operation runs.** Whatever an engine has been through, for every
operation that it drives the store holds a record that agrees with the one of the drive in everything but
the time of its last change and, at most, one counter. The counter is that of the rounds of the step in
progress, and it is behind by one as long as no outcome of the round has been settled; at all other
times, in a pause and as soon as an outcome has been settled, the two agree. -/
theorem stored_while_waiting (settings : Settings) (history : List (Scene × Event)) {id : String} {d : Drive}
    (here : ((started settings).run history).1.drives.get? id = some d) (store : Records) :
    ∃ record, (store.after ((started settings).run history).2).operations.get? id = some record ∧
      d.op.undated = (if d.uncounted then record.counted d.index else record).undated ∧
      (record.undated = d.op.undated ↔ d.uncounted = false) := by
  have healthy := (healthy_started settings).run history
  have begun : Keeping [] (started settings) := fun id d found => by simp [started] at found
  have kept := begun.run (healthy_started settings) history id d here
  rw [List.nil_append] at kept
  obtain ⟨record, latest, same⟩ := kept
  refine ⟨record, by rw [get?_after, latest]; rfl, same, ?_⟩
  cases uncounted : d.uncounted with
  | false =>
    rw [uncounted] at same
    exact ⟨fun _ => rfl, fun _ => same.symm⟩
  | true =>
    rw [uncounted, if_pos rfl] at same
    refine ⟨fun equal => ?_, fun contrary => by cases contrary⟩
    have steps : (record.counted d.index).steps.length = d.op.steps.length :=
      show (record.counted d.index).undated.steps.length = d.op.undated.steps.length by rw [same]
    have inside : d.index < record.steps.length := by
      have inRange : d.index < d.op.steps.length := by
        rw [Drive.uncounted] at uncounted
        split at uncounted
        · next step nodeSteps round phase => exact healthy.inRange here phase
        · cases uncounted
      simp only [Operation.counted, Operation.modifyStep, List.length_modify] at steps
      omega
    exact absurd (same.symm.trans equal.symm) (Operation.undated_counted_ne inside)

/-! ### A node step that has not been answered -/

namespace Sample

/-- The first round of the second step has begun, and its only node step waits for an answer. -/
def asking : List (Scene × Event) := [(scene, .submit operation default plan), (scene, .step "op")]

def askingDrive : Drive := (((started Sample.settings).run asking).1.drives.get? "op").getD drive

end Sample

open Sample in
/-- The drive has begun a round of its second step, and the store has a record without any. -/
theorem sample_not_stored :
    askingDrive.uncounted = true ∧ askingDrive.op.steps.map StepState.attempts = [0, 1] ∧
      ∃ record, (Records.empty.after ((started Sample.settings).run asking).2).operations.get? "op" = some record ∧
        record.steps.map StepState.attempts = [0, 0] ∧ record.undated ≠ askingDrive.op.undated := by
  have here : ((started Sample.settings).run asking).1.drives.get? "op" = some askingDrive := rfl
  obtain ⟨record, found, -, agrees⟩ := stored_while_waiting Sample.settings asking here .empty
  have held : (Records.empty.after ((started Sample.settings).run asking).2).operations.get? "op" =
      some (askingDrive.op.modifyStep 1 fun state => { state with attempts := 0 }) := rfl
  rw [held] at found
  obtain rfl := Option.some.inj found
  refine ⟨rfl, rfl, _, held, rfl, fun same => ?_⟩
  have counted := agrees.1 same
  cases counted

end Engine

end Muster
