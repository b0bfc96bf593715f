import Muster.Engine
import Muster.Proofs.Dict
import Muster.Proofs.Record

/-!
# What an engine does for one operation

An engine drives many operations, and what it does for one of them is told by the identifier in the
effects. An event changes the engine in one of three ways (`Change`): a drive makes a move, an operation
is submitted, or nothing is done to the world. For a running operation each of them is a chain of acts
of its drive (`Change.running`), and nothing at all concerns an operation that is not running
(`Change.absent`).
-/

set_option autoImplicit false

namespace Muster.Engine

/-! ### Effects by operation -/

/-- The operation that an effect is for. -/
def Effect.operationId : Effect → String
  | .save op => op.id
  | .send _ envelope => envelope.operationId
  | .finish op => op.id

/-- The effects that are for an operation. -/
def concerning (id : String) (effects : List Effect) : List Effect :=
  effects.filter fun effect => effect.operationId = id

/-- The effects up to the first end of an operation. -/
def tenure : List Effect → List Effect
  | [] => []
  | .finish op :: _ => [.finish op]
  | effect :: rest => effect :: tenure rest

section

variable {effects more : List Effect} {id : String}

theorem concerning_append (id : String) (effects more : List Effect) :
    concerning id (effects ++ more) = concerning id effects ++ concerning id more :=
  List.filter_append ..

theorem concerning_all (own : ∀ effect ∈ effects, effect.operationId = id) :
    concerning id effects = effects :=
  List.filter_eq_self.2 fun effect member => decide_eq_true (own effect member)

theorem concerning_none {other : String} (own : ∀ effect ∈ effects, effect.operationId = other)
    (differ : id ≠ other) : concerning id effects = [] := by
  apply List.filter_eq_nil_iff.2
  intro effect member same
  exact differ ((of_decide_eq_true same).symm.trans (own effect member))

theorem tenure_append (unfinished : Unfinished effects) (more : List Effect) :
    tenure (effects ++ more) = effects ++ tenure more := by
  induction effects with
  | nil => rfl
  | cons effect rest ih =>
    have rest' : Unfinished rest := fun last member => unfinished last (List.mem_cons_of_mem _ member)
    cases effect with
    | finish op => exact absurd List.mem_cons_self (unfinished op)
    | save op => exact congrArg (List.cons _) (ih rest')
    | send nodeId envelope => exact congrArg (List.cons _) (ih rest')

theorem tenure_finish (unfinished : Unfinished effects) (last : Operation) (more : List Effect) :
    tenure (effects ++ .finish last :: more) = effects ++ [.finish last] := by
  rw [tenure_append unfinished]
  rfl

end

/-! ### Acts of one drive -/

/-- A drive is filed under the identifier of its operation, and so is what its round sends. -/
structure Station.Filed (id : String) (a : Station) : Prop where
  operation : a.drive.op.id = id
  context : ∀ step nodeSteps round, a.point = .calling step nodeSteps round →
    round.context.operationId = id ∧ round.Faithful

section

variable {s : Settings} {a b : Station} {effects : List Effect} {id : String}

theorem Effect.Carries.operationId_eq {c : RoundContext} {nodeStepId : String} {n : NodeStep}
    {effect : Effect} (carries : effect.Carries s c nodeStepId n) :
    effect.operationId = c.operationId := by
  obtain ⟨k, task, -, rfl⟩ := carries
  rfl

/-- What a drive does is for its own operation. -/
theorem Act.filed (act : Act s a effects b) (filed : a.Filed id) :
    b.Filed id ∧ ∀ effect ∈ effects, effect.operationId = id := by
  obtain ⟨same, context⟩ := filed
  have away {d : Drive} {p : Point} {n : Nat} (here : d.op.id = id)
      (idle : ∀ step nodeSteps round, p ≠ .calling step nodeSteps round) :
      (⟨p, d, n⟩ : Station).Filed id :=
    ⟨here, fun step nodeSteps round calling => absurd calling (idle step nodeSteps round)⟩
  have opens {s : Settings} {scene : Scene} {desk : Desk} {d : Drive} {step : Step} {n : Nat}
      {nodeSteps called : List NodeStep} (here : d.op.id = id) :
      (⟨.calling step nodeSteps (d.opening s scene desk step called), d.attempt, n⟩ : Station).Filed id := by
    refine ⟨here, fun _ _ round calling => ?_⟩
    cases calling
    exact ⟨here, Round.faithful_begin _ _ _ _ _⟩
  have saves {op : Operation} (here : op.id = id) :
      ∀ effect ∈ [Effect.save op], effect.operationId = id := by
    intro effect member
    rw [List.mem_singleton.1 member]
    exact here
  have silent : ∀ effect ∈ ([] : List Effect), effect.operationId = id := fun _ member => nomatch member
  cases act with
  | setsOff scene => exact ⟨away same (by simp), saves same⟩
  | completes none => exact ⟨away same (by simp), silent⟩
  | turnsBack some requested => exact ⟨away same (by simp), silent⟩
  | takesUp scene some wanted => exact ⟨away same (by simp), saves same⟩
  | breaksOff requested => exact ⟨away same (by simp), silent⟩
  | skips fails ignored => exact ⟨away same (by simp), saves same⟩
  | calls scene desk yields => exact ⟨opens same, silent⟩
  | works sends =>
    obtain ⟨operation, faithful⟩ := context _ _ _ rfl
    refine ⟨⟨same, fun _ _ round calling => ?_⟩, fun effect member => ?_⟩
    · cases calling
      rw [sends.continues.context]
      exact ⟨operation, sends.continues.faithful faithful⟩
    · obtain ⟨lane, -, carries⟩ := sends.carries faithful effect member
      exact carries.operationId_eq.trans operation
  | records edits continues =>
    obtain ⟨operation, faithful⟩ := context _ _ _ rfl
    refine ⟨⟨edits.id.trans same, fun _ _ round calling => ?_⟩, saves (edits.id.trans same)⟩
    cases calling
    rw [continues.context]
    exact ⟨operation, continues.faithful faithful⟩
  | retries scene desk => exact ⟨opens same, silent⟩
  | proceeds scene => exact ⟨away same (by simp), saves same⟩
  | fails e within => exact ⟨away same (by simp), silent⟩
  | @finishes d n scene result =>
    have here : (d.final scene result).id = id := (d.frame_final scene result).1.trans same
    refine ⟨away here (by simp), fun effect member => ?_⟩
    rcases List.mem_pair.1 member with rfl | rfl <;> exact here
  | @rests p d d' n m still more =>
    refine ⟨⟨?_, context⟩, silent⟩
    rw [still.op]
    exact same

theorem Acts.filed (acts : Acts s a effects b) (filed : a.Filed id) :
    b.Filed id ∧ ∀ effect ∈ effects, effect.operationId = id := by
  induction acts with
  | refl => exact ⟨filed, fun _ member => nomatch member⟩
  | snoc _ act ih =>
    obtain ⟨next, more⟩ := act.filed ih.1
    refine ⟨next, fun effect member => ?_⟩
    rcases List.mem_append.1 member with old | new
    · exact ih.2 effect old
    · exact more effect new

theorem Acts.used_le (acts : Acts s a effects b) : a.used ≤ b.used := by
  induction acts with
  | refl => exact Nat.le_refl _
  | snoc _ act ih =>
    refine ih.trans ?_
    cases act with
    | calls scene desk yields => exact Nat.le_add_right ..
    | retries scene desk => exact Nat.le_add_right ..
    | rests same more => exact more
    | _ => exact Nat.le_refl _

/-- As long as a drive goes on it does not end its operation. -/
theorem Act.unfinished (act : Act s a effects b) (filed : a.Filed id) (goesOn : b.point ≠ .ended) :
    Unfinished effects := by
  intro last member
  cases act with
  | works sends =>
    obtain ⟨lane, -, k, task, -, same⟩ := sends.carries (filed.context _ _ _ rfl).2 _ member
    cases same
  | finishes scene result => exact goesOn rfl
  | _ => simp at member

/-- A drive that ends says so at last. -/
theorem Act.finishes_of_ended (act : Act s a effects b) (begun : a.point ≠ .ended)
    (atEnd : b.point = .ended) : ∃ last, effects = [.save last, .finish last] := by
  cases act with
  | finishes scene result => exact ⟨_, rfl⟩
  | rests same more => exact absurd atEnd begun
  | _ => cases atEnd

theorem Act.nothing_of_ended (act : Act s a effects b) (atEnd : a.point = .ended) :
    b.point = .ended ∧ effects = [] := by
  cases act with
  | rests same more => exact ⟨atEnd, rfl⟩
  | fails e within =>
    simp only at atEnd
    rw [atEnd] at within
    cases within
  | _ => cases atEnd

/-- **The end of an operation** is the last effect of its drive. -/
theorem Acts.finish_last (acts : Acts s a effects b) (filed : a.Filed id) (begun : a.point ≠ .ended) :
    (b.point ≠ .ended ∧ Unfinished effects) ∨
    (b.point = .ended ∧ ∃ earlier last, effects = earlier ++ [.finish last] ∧ Unfinished earlier) := by
  induction acts with
  | refl => exact .inl ⟨begun, fun _ member => nomatch member⟩
  | @snoc b c effects more acts act ih =>
    rcases ih with ⟨goesOn, unfinished⟩ | ⟨atEnd, ends⟩
    · by_cases atEnd : c.point = .ended
      · obtain ⟨last, rfl⟩ := act.finishes_of_ended goesOn atEnd
        refine .inr ⟨atEnd, effects ++ [.save last], last, by simp, fun other member => ?_⟩
        rcases List.mem_append.1 member with old | new
        · exact unfinished other old
        · simp at new
      · refine .inl ⟨atEnd, fun last member => ?_⟩
        rcases List.mem_append.1 member with old | new
        · exact unfinished last old
        · exact act.unfinished (acts.filed filed).1 atEnd last new
    · obtain ⟨still, rfl⟩ := act.nothing_of_ended atEnd
      rw [List.append_nil]
      exact .inr ⟨still, ends⟩

end

/-! ### One event -/

/-- Where a drive stands that an engine drives. -/
def station (e : Engine) (d : Drive) : Station := ⟨d.phase.point, d, e.identifiers.used⟩

/-- The drives of an engine are filed under their operations, and none of them has ended. -/
def Filed (e : Engine) : Prop :=
  ∀ id d, e.drives.get? id = some d → (e.station d).Filed id ∧ d.phase.point ≠ .ended

/-- What a drive may do on its own. -/
inductive Drive.Moves (s : Settings) (desk : Desk) (d : Drive) : Drive × Desk → Prop where
  | step (scene : Scene) : Moves s desk d (d.step s scene desk)
  | heed (scene : Scene) : Moves s desk d (d.heed scene desk)
  | work (scene : Scene) (round i : Nat) : Moves s desk d (d.work s scene desk round i)

theorem Drive.Moves.brings {s : Settings} {desk : Desk} {d : Drive} {moved : Drive × Desk}
    (moves : d.Moves s desk moved) : Brings s d.phase.point desk d moved := by
  cases moves with
  | step scene => exact d.brings_step s scene desk
  | heed scene => exact d.brings_heed s scene desk
  | work scene round i => exact d.brings_work s scene desk round i

/-- The ways in which an event changes an engine, with its effects. -/
inductive Change (e : Engine) : Event → Engine × List Effect → Prop where
  /-- A drive makes a move. -/
  | moves {event : Event} {id : String} {d : Drive} {moved : Drive × Desk}
      (here : e.drives.get? id = some d) (moves : d.Moves e.settings e.desk moved) :
      Change e event (e.putBack id moved)
  /-- Drives are asked to end, or nothing happens to them. -/
  | rests {event : Event} {e' : Engine} (f : String → Drive → Drive) (settings : e'.settings = e.settings)
      (identifiers : e'.identifiers = e.identifiers)
      (drives : ∀ id, e'.drives.get? id = (e.drives.get? id).map (f id))
      (same : ∀ id d, f id d = d ∨ f id d = { d with cancelRequested := true }) :
      Change e event (e', [])
  | submits {scene : Scene} {op : Operation} {cluster : Cluster} {steps : List Step}
      {moved : Engine × List Effect} (accepted : e.submit scene op cluster steps = .ok moved) :
      Change e (.submit op cluster steps) moved

theorem Drive.rests_refl (d : Drive) : d.Rests d := ⟨rfl, rfl, rfl, rfl, id⟩

/-- A request to cancel is no more than that. -/
theorem Drive.rests_asked {d d' : Drive} (same : d' = d ∨ d' = { d with cancelRequested := true }) :
    d.Rests d' ∧ d'.phase = d.phase := by
  rcases same with rfl | rfl
  · exact ⟨d'.rests_refl, rfl⟩
  · exact ⟨⟨rfl, rfl, rfl, rfl, fun _ => rfl⟩, rfl⟩

section

variable {e : Engine} {event : Event} {moved : Engine × List Effect} {id : String} {d : Drive}

theorem Change.still (e : Engine) (event : Event) : Change e event (e, []) :=
  .rests (fun _ d => d) rfl rfl (fun _ => by simp) fun _ _ => .inl rfl

/-- **What an event does** is one of the three. -/
theorem next_change (e : Engine) (scene : Scene) (event : Event) :
    Change e event (e.next scene event) := by
  cases event with
  | submit op cluster steps =>
    simp only [next]
    split
    · next moved accepted => exact .submits accepted
    · exact .still e _
  | cancel id =>
    refine .rests (fun k d => if k = id then { d with cancelRequested := true } else d) rfl rfl
      (fun k => ?_) fun k d => ?_
    · have found := Dict.get?_modify e.drives id k fun d => { d with cancelRequested := true }
      refine found.trans ?_
      split <;> simp
    · split
      · exact .inr rfl
      · exact .inl rfl
  | shutdown =>
    exact .rests (fun _ d => { d with cancelRequested := true }) rfl rfl
      (fun k => Dict.get?_map _ e.drives k) fun _ _ => .inr rfl
  | receive payload =>
    refine .rests (fun _ d => d) ?_ ?_ (fun k => ?_) fun _ _ => .inl rfl
    all_goals
      rw [receive]
      split <;> simp
  | step id =>
    simp only [next, step]
    split
    · next d here => exact .moves here (.step scene)
    · exact .still e _
  | heed id =>
    simp only [next, heed]
    split
    · next d here => exact .moves here (.heed scene)
    · exact .still e _
  | work id round index =>
    simp only [next, work]
    split
    · next d here => exact .moves here (.work scene round index)
    · exact .still e _

/-! ### Putting a drive back -/

theorem get?_putBack_of_ne {k : String} (e : Engine) (brought : Drive × Desk) (differ : k ≠ id) :
    (e.putBack id brought).1.drives.get? k = e.drives.get? k := by
  obtain ⟨d, desk⟩ := brought
  simp only [putBack]
  split
  · exact Dict.get?_erase_of_ne differ
  · exact Dict.get?_insert_of_ne differ

/-- A drive that has ended is forgotten, and any other one is kept. -/
theorem get?_putBack_self (e : Engine) (id : String) (brought : Drive × Desk) :
    ((e.putBack id brought).1.drives.get? id = some brought.1 ∧ brought.1.phase.point ≠ .ended) ∨
    ((e.putBack id brought).1.drives.get? id = none ∧ brought.1.phase.point = .ended) := by
  obtain ⟨d, desk⟩ := brought
  simp only [putBack]
  split
  · next phase => exact .inr ⟨Dict.get?_erase_self .., by rw [phase]; rfl⟩
  · next phase =>
    refine .inl ⟨Dict.get?_insert_self .., ?_⟩
    cases here : d.phase with
    | finished => exact absurd here phase
    | _ => simp [Phase.point]

/-! ### What an event means for an operation -/

/-- The drive of an operation that has just been submitted. -/
def Drive.submitted (s : Settings) (scene : Scene) (op : Operation) (cluster : Cluster)
    (steps : List Step) : Drive where
  op := ({ op with host := s.host, steps := steps.map fun step => .named step.name } : Operation).touch
    (stamp scene)
  cluster
  index := 0
  later := steps
  cancelRequested := false
  rounds := 0
  phase := .starting

theorem submit_eq_ok {scene : Scene} {op : Operation} {cluster : Cluster} {steps : List Step} :
    e.submit scene op cluster steps = .ok moved ↔
      steps ≠ [] ∧ (op.host = "" ∨ op.host = e.settings.host) ∧ e.drives.get? op.id = none ∧
      moved = ({ e with drives := e.drives.insert op.id (.submitted e.settings scene op cluster steps) },
        [.save (Drive.submitted e.settings scene op cluster steps).op]) := by
  have running : e.isRunning op.id = true ↔ e.drives.get? op.id ≠ none := by
    rw [isRunning, Dict.contains, Option.isSome_iff_ne_none]
  rw [submit]
  split
  · next empty => simp [List.isEmpty_iff.1 empty]
  · next some =>
    split
    · next foreign => simp [foreign]
    · next host =>
      split
      · next here => simp [running.1 here]
      · next absent =>
        have free : e.drives.get? op.id = none := by
          by_contra present
          exact absent (running.2 present)
        have host' : op.host = "" ∨ op.host = e.settings.host := by
          by_contra neither
          exact host (not_or.1 neither)
        have some' : steps ≠ [] := fun none => some (List.isEmpty_iff.2 none)
        simp only [Except.ok.injEq, ne_eq, some', not_false_eq_true, host', free, true_and]
        exact ⟨fun same => same.symm, fun same => same.symm⟩

/-- What a move of a drive does is for its own operation. -/
theorem Filed.brought {brought : Drive × Desk} (filed : e.Filed) (here : e.drives.get? id = some d)
    (moves : d.Moves e.settings e.desk brought) :
    Acts e.settings (e.station d) brought.2.effects (resting brought) ∧
      (resting brought).Filed id ∧ ∀ effect ∈ brought.2.effects, effect.operationId = id := by
  obtain ⟨effects, same, acts⟩ := moves.brings
  have own : brought.2.effects = effects := same
  rw [own]
  exact ⟨acts, acts.filed (filed id d here).1⟩

theorem Change.settings (change : Change e event moved) : moved.1.settings = e.settings := by
  cases change with
  | moves here moves => rfl
  | rests f settings identifiers drives same => exact settings
  | submits accepted =>
    obtain ⟨-, -, -, rfl⟩ := submit_eq_ok.1 accepted
    rfl

theorem Change.filed (filed : e.Filed) (change : Change e event moved) : moved.1.Filed := by
  intro k d' found
  cases change with
  | @moves event id d brought here moves =>
    obtain ⟨-, own, -⟩ := filed.brought here moves
    by_cases differ : k = id
    · subst differ
      rcases get?_putBack_self e k brought with ⟨kept, goesOn⟩ | ⟨gone, -⟩
      · rw [kept] at found
        cases found
        exact ⟨⟨own.operation, own.context⟩, goesOn⟩
      · rw [gone] at found
        cases found
    · rw [get?_putBack_of_ne e brought differ] at found
      exact ⟨⟨(filed k d' found).1.operation, (filed k d' found).1.context⟩, (filed k d' found).2⟩
  | rests f settings identifiers drives same =>
    rw [drives, Option.map_eq_some_iff] at found
    obtain ⟨d, here, rfl⟩ := found
    obtain ⟨own, goesOn⟩ := filed k d here
    obtain ⟨still, phase⟩ := Drive.rests_asked (same k d)
    refine ⟨⟨(congrArg Operation.id still.op).trans own.operation, ?_⟩, phase ▸ goesOn⟩
    intro step nodeSteps round calling
    refine own.context step nodeSteps round ?_
    rw [station, ← phase]
    exact calling
  | submits accepted =>
    obtain ⟨-, -, -, rfl⟩ := submit_eq_ok.1 accepted
    simp only [Dict.get?_insert] at found
    split at found
    · next same =>
      cases found
      exact ⟨⟨same.symm, fun _ _ _ calling => nomatch calling⟩, by simp [Drive.submitted, Phase.point]⟩
    · exact ⟨⟨(filed k d' found).1.operation, (filed k d' found).1.context⟩, (filed k d' found).2⟩

/-- **For a running operation** an event is a chain of acts of its drive, which may end it. -/
theorem Change.running (filed : e.Filed) (here : e.drives.get? id = some d)
    (change : Change e event moved) :
    (∃ d', moved.1.drives.get? id = some d' ∧
      Acts e.settings (e.station d) (concerning id moved.2) (moved.1.station d')) ∨
    (moved.1.drives.get? id = none ∧ ∃ b, b.point = .ended ∧
      Acts e.settings (e.station d) (concerning id moved.2) b) := by
  cases change with
  | @moves event other d' brought there moves =>
    obtain ⟨acts, -, own⟩ := filed.brought there moves
    by_cases same : id = other
    · subst same
      rw [there] at here
      cases here
      have all : concerning id (e.putBack id brought).2 = brought.2.effects := concerning_all own
      rw [all]
      rcases get?_putBack_self e id brought with ⟨kept, -⟩ | ⟨gone, atEnd⟩
      · exact .inl ⟨brought.1, kept, acts⟩
      · exact .inr ⟨gone, _, atEnd, acts⟩
    · have none : concerning id (e.putBack other brought).2 = [] := concerning_none own same
      rw [none]
      refine .inl ⟨d, (get?_putBack_of_ne e brought same).trans here, ?_⟩
      exact Acts.refl.snoc (.rests d.rests_refl acts.used_le)
  | @rests event e' f settings identifiers drives same =>
    obtain ⟨still, phase⟩ := Drive.rests_asked (same id d)
    have there : e'.station (f id d) = ⟨d.phase.point, f id d, e.identifiers.used⟩ := by
      rw [station, phase, identifiers]
    have rests : Act e.settings (e.station d) [] (e'.station (f id d)) := by
      rw [there]
      exact .rests still (Nat.le_refl _)
    exact .inl ⟨f id d, by rw [drives, here]; rfl, Acts.refl.snoc rests⟩
  | @submits scene op cluster steps moved accepted =>
    obtain ⟨-, -, free, rfl⟩ := submit_eq_ok.1 accepted
    have differ : id ≠ op.id := by
      intro same
      rw [← same, here] at free
      cases free
    have none : concerning id [.save (Drive.submitted e.settings scene op cluster steps).op] = [] := by
      apply concerning_none _ differ
      intro effect member
      rw [List.mem_singleton.1 member]
      rfl
    refine .inl ⟨d, (Dict.get?_insert_of_ne differ).trans here, ?_⟩
    rw [none]
    exact .refl

/-- **For an operation that is not running** nothing is done, unless it is submitted. -/
theorem Change.absent (filed : e.Filed) (absent : e.drives.get? id = none)
    (other : ∀ op cluster steps, event = .submit op cluster steps → op.id ≠ id)
    (change : Change e event moved) :
    moved.1.drives.get? id = none ∧ concerning id moved.2 = [] := by
  cases change with
  | @moves event key d brought here moves =>
    obtain ⟨-, -, own⟩ := filed.brought here moves
    have differ : id ≠ key := by
      intro same
      rw [← same, absent] at here
      cases here
    exact ⟨(get?_putBack_of_ne e brought differ).trans absent, concerning_none own differ⟩
  | rests f settings identifiers drives same => exact ⟨by rw [drives, absent]; rfl, rfl⟩
  | @submits scene op cluster steps moved accepted =>
    obtain ⟨-, -, -, rfl⟩ := submit_eq_ok.1 accepted
    have differ : id ≠ op.id := (other op cluster steps rfl).symm
    refine ⟨(Dict.get?_insert_of_ne differ).trans absent, concerning_none ?_ differ⟩
    intro effect member
    rw [List.mem_singleton.1 member]
    rfl

/-! ### Any number of events -/

theorem run_cons (e : Engine) (scene : Scene) (event : Event) (rest : List (Scene × Event)) :
    e.run ((scene, event) :: rest) = (((e.next scene event).1.run rest).1,
      (e.next scene event).2 ++ ((e.next scene event).1.run rest).2) := rfl

theorem run_append (e : Engine) (history more : List (Scene × Event)) :
    e.run (history ++ more) = (((e.run history).1.run more).1,
      (e.run history).2 ++ ((e.run history).1.run more).2) := by
  induction history generalizing e with
  | nil => rfl
  | cons first rest ih =>
    rw [List.cons_append, run_cons, run_cons, ih]
    simp only [List.append_assoc]

theorem filed_run (filed : e.Filed) (history : List (Scene × Event)) : (e.run history).1.Filed := by
  induction history generalizing e with
  | nil => exact filed
  | cons first rest ih => exact ih ((next_change e first.1 first.2).filed filed)

theorem filed_started (settings : Settings) : (started settings).Filed := by
  intro id d found
  simp [started] at found

theorem settings_run (e : Engine) (history : List (Scene × Event)) :
    (e.run history).1.settings = e.settings := by
  induction history generalizing e with
  | nil => rfl
  | cons first rest ih => exact (ih (e.next first.1 first.2).1).trans (next_change e first.1 first.2).settings

theorem run_absent (filed : e.Filed) (absent : e.drives.get? id = none) (history : List (Scene × Event))
    (other : ∀ entry ∈ history, ∀ op cluster steps, entry.2 = .submit op cluster steps → op.id ≠ id) :
    (e.run history).1.drives.get? id = none ∧ concerning id (e.run history).2 = [] := by
  induction history generalizing e with
  | nil => exact ⟨absent, rfl⟩
  | cons first rest ih =>
    have change := next_change e first.1 first.2
    obtain ⟨gone, nothing⟩ := change.absent filed absent (other first List.mem_cons_self)
    obtain ⟨still, silent⟩ := ih (change.filed filed) gone fun entry member =>
      other entry (List.mem_cons_of_mem _ member)
    refine ⟨still, ?_⟩
    rw [run, concerning_append, nothing, silent]
    rfl

/-- **What an engine does for a running operation**, up to its end, is a chain of acts of its drive. -/
theorem run_running (filed : e.Filed) (here : e.drives.get? id = some d)
    (history : List (Scene × Event)) :
    ∃ b, Acts e.settings (e.station d) (tenure (concerning id (e.run history).2)) b ∧
      (b.point = .ended ∨
        ∃ d', (e.run history).1.drives.get? id = some d' ∧ b = (e.run history).1.station d') := by
  induction history generalizing e d with
  | nil => exact ⟨e.station d, .refl, .inr ⟨d, here, rfl⟩⟩
  | cons first rest ih =>
    have change := next_change e first.1 first.2
    obtain ⟨own, begun⟩ := filed id d here
    have split : concerning id (e.run (first :: rest)).2 =
        concerning id (e.next first.1 first.2).2 ++
          concerning id ((e.next first.1 first.2).1.run rest).2 := concerning_append ..
    rw [split]
    rcases change.running filed here with ⟨d', kept, acts⟩ | ⟨gone, b, atEnd, acts⟩
    · have goesOn := (change.filed filed id d' kept).2
      rcases acts.finish_last own begun with ⟨-, unfinished⟩ | ⟨atEnd, -⟩
      · obtain ⟨b, later, stands⟩ := ih (change.filed filed) kept
        rw [change.settings] at later
        rw [tenure_append unfinished]
        exact ⟨b, acts.trans later, stands⟩
      · exact absurd atEnd goesOn
    · rcases acts.finish_last own begun with ⟨goesOn, -⟩ | ⟨-, earlier, last, same, unfinished⟩
      · exact absurd atEnd goesOn
      · rw [same] at acts ⊢
        rw [List.append_assoc, List.singleton_append, tenure_finish unfinished]
        exact ⟨b, acts, .inl atEnd⟩

end

end Muster.Engine
