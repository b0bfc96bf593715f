import Muster.Proofs.Building
import Muster.Proofs.Passage
import Muster.Proofs.Submission

/-!
# Whatever is sent has its grounds

The trace of an engine is what it hears and what it does, in the order of its events. An envelope of an
operation is sent by a node step that goes on, and by nothing else (`Desk.Tends`); at that moment every
earlier step of the operation has been passed, and the step in progress was built from the first record
that shows it running. `grounds_of_send` says so of every envelope in the trace.
-/

set_option autoImplicit false

namespace Muster

namespace Engine

/-! ### Moves that send nothing -/

/-- From one desk to the other nothing was sent, and nothing was put into a mailbox. -/
structure Desk.Tends (desk desk' : Desk) : Prop where
  recedes : desk.router.Recedes desk'.router
  silent : ∃ more, desk'.effects = desk.effects ++ more ∧ ∀ nodeId envelope, .send nodeId envelope ∉ more

namespace Desk.Tends

variable {desk desk' desk'' : Desk}

theorem refl (desk : Desk) : desk.Tends desk := ⟨.refl _, [], (List.append_nil _).symm, by simp⟩

theorem trans (first : desk.Tends desk') (second : desk'.Tends desk'') : desk.Tends desk'' := by
  obtain ⟨more, same, silent⟩ := first.silent
  obtain ⟨more', same', silent'⟩ := second.silent
  refine ⟨first.recedes.trans second.recedes, more ++ more', by rw [same', same, List.append_assoc], ?_⟩
  intro nodeId envelope member
  rcases List.mem_append.1 member with early | late
  · exact silent nodeId envelope early
  · exact silent' nodeId envelope late

theorem save (d : Drive) (desk : Desk) : desk.Tends (d.save desk) :=
  ⟨.refl _, [.save d.op], rfl, by simp⟩

theorem close (round : Round) (desk : Desk) : desk.Tends (round.close desk) :=
  ⟨ReplyRouter.recedes_foldl_release .., [], (List.append_nil _).symm, by simp⟩

end Desk.Tends

namespace Drive

variable (s : Settings) (scene : Scene) (desk : Desk) (d : Drive) (step : Step)
  (nodeSteps : List NodeStep) (round : Round)

theorem tends_concludeRound : desk.Tends (concludeRound s scene desk d step nodeSteps round).desk := by
  have closed : desk.Tends ((d.collect scene round).save (round.close desk)) :=
    (Desk.Tends.close round desk).trans (.save ..)
  have cases := concludeRound_cases s scene desk d step nodeSteps round
  generalize concludeRound s scene desk d step nodeSteps round = turn at cases ⊢
  cases cases with
  | proceeds decided => exact closed.trans (.save ..)
  | aborts reason decided => exact closed
  | nothingLeft decided none => exact closed
  | retries decided some => exact closed.trans ⟨.refl _, [], (List.append_nil _).symm, by simp⟩

theorem tends_settle : desk.Tends (settle s scene desk d step nodeSteps round).desk := by
  have cases := settle_cases s scene desk d step nodeSteps round
  generalize settle s scene desk d step nodeSteps round = turn at cases ⊢
  cases cases with
  | idle none => exact .refl _
  | finalizes lane outcome taken noted swept took note gaveUp sweep =>
    exact ((Desk.Tends.save ..).trans (.save ..)).trans (tends_concludeRound ..)
  | ends lane outcome taken noted took note patient atEnd =>
    exact (Desk.Tends.save ..).trans (tends_concludeRound ..)
  | goesOn lane outcome taken noted took note patient busy => exact .save ..

theorem tends_firstRound : desk.Tends (firstRound s scene desk d step nodeSteps).desk := by
  have begun : desk.Tends (dispatch s scene desk d step nodeSteps nodeSteps).desk :=
    ⟨.refl _, [], (List.append_nil _).symm, by simp⟩
  by_cases none : nodeSteps = []
  · subst none
    rw [firstRound_nil]
    exact begun.trans (tends_concludeRound ..)
  · rw [firstRound_of_ne_nil s scene desk d step nodeSteps none]
    exact begun

theorem tends_launch : desk.Tends (launch s scene desk d step).desk := by
  have equal := launch_eq s scene desk d step
  split at equal
  · rw [equal]
    exact tends_firstRound ..
  · split at equal
    · rw [equal]
      exact .save ..
    · rw [equal]
      exact .refl _

theorem tends_finish (result : Except EngineError Unit) : desk.Tends (finish scene desk d result).2 :=
  ⟨.refl _, [.save (finish scene desk d result).1.op, .finish (finish scene desk d result).1.op],
    List.append_assoc .., by simp⟩

variable {s scene desk} in
theorem tends_resolve {turn : Turn} (tends : desk.Tends turn.desk) (enters : turn.verdict = .stepOver →
      turn.desk.Tends (enter s scene turn.desk turn.drive.leave turn.drive.later).2) :
    desk.Tends (resolve s scene turn).2 := by
  obtain ⟨verdict, drive, desk'⟩ := turn
  cases verdict with
  | underWay => exact tends
  | stopped e => exact tends.trans (tends_finish ..)
  | stepOver => exact tends.trans (enters rfl)

theorem tends_enter (later : List Step) : desk.Tends (enter s scene desk d later).2 := by
  induction later generalizing desk d with
  | nil => exact tends_finish ..
  | cons step later ih =>
    rw [enter_cons]
    split
    · exact tends_finish ..
    · split
      · exact .save ..
      · obtain ⟨-, rest⟩ :=
          place_launch s scene ((d.takeUp scene later).save desk) (d.takeUp scene later) step
        refine tends_resolve ((Desk.Tends.save ..).trans (tends_launch ..)) fun _ => ?_
        rw [rest]
        exact ih ..

theorem tends_step : desk.Tends (d.step s scene desk).2 := by
  rw [Drive.step]
  split
  · exact (Desk.Tends.save ..).trans (tends_enter ..)
  · split
    · exact tends_resolve (tends_launch ..) fun _ => tends_enter ..
    · exact .refl _
  · exact tends_resolve (tends_settle ..) fun _ => tends_enter ..
  · exact .refl _

theorem tends_heed : desk.Tends (d.heed scene desk).2 := by
  rw [heed]
  split
  · split
    · exact tends_finish ..
    · exact ((Desk.Tends.save ..).trans (.close ..)).trans (tends_finish ..)
    · exact .refl _
    · exact .refl _
  · exact .refl _

end Drive

/-- A move of a drive puts nothing into a mailbox. -/
theorem Drive.Moves.recedes {s : Settings} {desk : Desk} {d : Drive} {moved : Drive × Desk}
    (moves : d.Moves s desk moved) : desk.router.Recedes moved.2.router := by
  cases moves with
  | step scene => exact (d.tends_step s scene desk).recedes
  | heed scene => exact (d.tends_heed scene desk).recedes
  | work scene round i =>
    rw [Drive.work]
    split
    · split
      · exact Round.recedes_work ..
      · exact .refl _
    · exact .refl _

/-- Whatever a move of a drive sends carries a task of a node step of its round. -/
theorem Drive.Moves.carries_of_send {s : Settings} {desk : Desk} {d : Drive} {moved : Drive × Desk}
    {nodeId : String} {envelope : Envelope} (moves : d.Moves s desk moved) (none : desk.effects = [])
    (faithful : ∀ step nodeSteps round, d.phase = .dispatching step nodeSteps round → round.Faithful)
    (sent : .send nodeId envelope ∈ moved.2.effects) :
    ∃ step nodeSteps round, d.phase = .dispatching step nodeSteps round ∧
      ∃ lane ∈ round.lanes,
        Effect.Carries s round.context lane.id lane.nodeStep (.send nodeId envelope) := by
  have silent {desk' : Desk} (tends : desk.Tends desk') : .send nodeId envelope ∉ desk'.effects := by
    obtain ⟨more, same, silent⟩ := tends.silent
    rw [same, none, List.nil_append]
    exact silent nodeId envelope
  cases moves with
  | step scene => exact absurd sent (silent (d.tends_step s scene desk))
  | heed scene => exact absurd sent (silent (d.tends_heed scene desk))
  | work scene round i =>
    rw [Drive.work] at sent
    split at sent
    · next step nodeSteps r phase =>
      split at sent
      · obtain ⟨effects, sends⟩ := Round.sends_work s scene desk r i
        rw [sends.effects, none, List.nil_append] at sent
        exact ⟨step, nodeSteps, r, phase, sends.carries (faithful step nodeSteps r phase) _ sent⟩
      · exact absurd sent (silent (.refl _))
    · exact absurd sent (silent (.refl _))

/-! ### The log of an engine -/

/-- What an engine takes in with an event. -/
def intake (e : Engine) : Event → List Entry
  | .receive payload =>
    if e.routing then
      match Reply.decode payload with
      | .ok reply => [.heard reply]
      | .error _ => []
    else []
  | _ => []

/-- What an engine hears and does in the course of events. -/
def trace (e : Engine) : List (Scene × Event) → List Entry
  | [] => []
  | (scene, event) :: rest =>
    e.intake event ++ (e.next scene event).2.map .did ++ (e.next scene event).1.trace rest

/-- An operation has ended. -/
def Ended (id : String) (log : List Entry) : Prop := ∃ last, .did (.finish last) ∈ log ∧ last.id = id

/-- What an entry does to the world. -/
def Entry.effect? : Entry → Option Effect
  | .heard _ => none
  | .did effect => some effect

/-- What is done according to a log. -/
def deeds (log : List Entry) : List Effect := log.filterMap Entry.effect?

/-- The records of an operation that are handed to the store, the oldest first. -/
def saved (id : String) (log : List Entry) : List Operation := records (concerning id (deeds log))

section

variable {e : Engine} {scene : Scene} {event : Event} {id : String} {log more : List Entry}

theorem Ended.append (h : Ended id log) (more : List Entry) : Ended id (log ++ more) := by
  obtain ⟨last, member, same⟩ := h
  exact ⟨last, List.mem_append_left _ member, same⟩

theorem intake_cases (e : Engine) (event : Event) :
    e.intake event = [] ∨ ∃ reply, e.intake event = [.heard reply] := by
  cases event with
  | receive payload =>
    rw [intake]
    split
    · split
      · next reply _ => exact .inr ⟨reply, rfl⟩
      · exact .inl rfl
    · exact .inl rfl
  | _ => exact .inl rfl

/-- An event brings a reply and nothing else, or puts nothing into a mailbox. -/
theorem hears_or_recedes (e : Engine) (scene : Scene) (event : Event) :
    (∃ reply, e.intake event = [.heard reply] ∧
      e.next scene event = ({ e with router := (e.router.route reply).2 }, [])) ∨
    (e.intake event = [] ∧ e.router.Recedes (e.next scene event).1.router) := by
  cases event with
  | submit op cluster steps =>
    refine .inr ⟨rfl, ?_⟩
    simp only [next]
    split
    · next moved accepted =>
      obtain ⟨-, -, -, rfl⟩ := submit_eq_ok.1 accepted
      exact .refl _
    · exact .refl _
  | cancel id => exact .inr ⟨rfl, .refl _⟩
  | shutdown => exact .inr ⟨rfl, .refl _⟩
  | receive payload =>
    simp only [intake, next, receive, ReplyRouter.receive]
    cases Reply.decode payload with
    | ok reply =>
      split
      · exact .inl ⟨reply, rfl, rfl⟩
      · exact .inr ⟨rfl, .refl _⟩
    | error e => split <;> exact .inr ⟨rfl, .refl _⟩
  | step id =>
    simp only [next, Engine.step]
    split
    · next d _ => exact .inr ⟨rfl, (d.tends_step e.settings scene e.desk).recedes⟩
    · exact .inr ⟨rfl, .refl _⟩
  | heed id =>
    simp only [next, Engine.heed]
    split
    · next d _ => exact .inr ⟨rfl, (d.tends_heed scene e.desk).recedes⟩
    · exact .inr ⟨rfl, .refl _⟩
  | work id round index =>
    simp only [next, Engine.work]
    split
    · next d _ =>
      have moves : d.Moves e.settings e.desk (d.work e.settings scene e.desk round index) := .work ..
      exact .inr ⟨rfl, moves.recedes⟩
    · exact .inr ⟨rfl, .refl _⟩

theorem deeds_append (log more : List Entry) : deeds (log ++ more) = deeds log ++ deeds more :=
  List.filterMap_append

theorem deeds_did (effects : List Effect) : deeds (effects.map .did) = effects := by
  simp [deeds, List.filterMap_map, Function.comp_def, Entry.effect?]

theorem deeds_trace (e : Engine) (history : List (Scene × Event)) :
    deeds (e.trace history) = (e.run history).2 := by
  induction history generalizing e with
  | nil => rfl
  | cons first rest ih =>
    have silent : deeds (e.intake first.2) = [] := by
      rcases e.intake_cases first.2 with none | ⟨reply, one⟩
      · rw [none]
        rfl
      · rw [one]
        rfl
    rw [trace, deeds_append, deeds_append, silent, deeds_did, ih, List.nil_append]
    rfl

theorem trace_append (e : Engine) (history more : List (Scene × Event)) :
    e.trace (history ++ more) = e.trace history ++ (e.run history).1.trace more := by
  induction history generalizing e with
  | nil => rfl
  | cons first rest ih =>
    rw [List.cons_append, trace, trace, ih, List.append_assoc _ (trace ..)]
    rfl

/-- An entry of a trace comes with an event, after the trace of the events before it. -/
theorem split_trace {history : List (Scene × Event)} {earlier later : List Entry} {entry : Entry}
    (split : e.trace history = earlier ++ entry :: later) :
    ∃ before scene event, (∃ after, history = before ++ (scene, event) :: after) ∧
      ∃ sofar, earlier = e.trace before ++ sofar ∧
        entry ∈ (e.run before).1.intake event ++ ((e.run before).1.next scene event).2.map .did := by
  induction history generalizing e earlier with
  | nil => simp [trace] at split
  | cons first rest ih =>
    obtain ⟨scene, event⟩ := first
    rw [trace] at split
    rcases List.append_eq_append_iff.1 split with ⟨middle, rfl, within⟩ | ⟨middle, whole, within⟩
    · obtain ⟨before, scene', event', ⟨after, rfl⟩, sofar, rfl, member⟩ := ih within
      refine ⟨(scene, event) :: before, scene', event', ⟨after, rfl⟩, sofar, ?_, member⟩
      rw [trace]
      simp only [List.append_assoc]
    · cases middle with
      | nil =>
        rw [List.nil_append] at within
        have within' : (e.next scene event).1.trace rest = [] ++ entry :: later := within.symm
        obtain ⟨before, scene', event', ⟨after, rfl⟩, sofar, none, member⟩ := ih within'
        refine ⟨(scene, event) :: before, scene', event', ⟨after, rfl⟩, sofar, ?_, member⟩
        rw [List.append_nil] at whole
        rw [trace, ← whole, List.append_assoc, ← none, List.append_nil]
      | cons other middle =>
        obtain ⟨rfl, -⟩ := List.cons.inj within
        refine ⟨[], scene, event, ⟨rest, rfl⟩, earlier, rfl, ?_⟩
        rw [show (e.run []).1 = e from rfl, whole]
        exact List.mem_append_right _ List.mem_cons_self

end

/-! ### Whatever an engine has been through -/

/-- An engine as it may have come to be. -/
structure Healthy (e : Engine) : Prop where
  router : e.router.Sound
  filed : e.Filed
  onCourse : e.OnCourse

theorem healthy_started (settings : Settings) : (started settings).Healthy :=
  ⟨ReplyRouter.sound_idle, filed_started settings, fun id d found => by simp [started] at found⟩

theorem Healthy.next {e : Engine} (h : e.Healthy) (scene : Scene) (event : Event) :
    (e.next scene event).1.Healthy := by
  have change := next_change e scene event
  refine ⟨?_, change.filed h.filed, change.onCourse h.onCourse⟩
  rcases e.hears_or_recedes scene event with ⟨reply, -, heard⟩ | ⟨-, recedes⟩
  · rw [heard]
    exact h.router.route reply
  · exact recedes.sound h.router

theorem Healthy.run {e : Engine} (h : e.Healthy) (history : List (Scene × Event)) :
    (e.run history).1.Healthy := by
  induction history generalizing e with
  | nil => exact h
  | cons first rest ih => exact ih (h.next first.1 first.2)

/-- Every step calls on each node once at most. -/
def Distinct (cluster : Cluster) (steps : List Step) : Prop :=
  ∀ step ∈ steps, ∀ record nodeSteps, step.workload.yield cluster record = .ok nodeSteps →
    (nodeSteps.map NodeStep.nodeId).Nodup

/-- An operation has ended, or its drive is founded on the log. -/
def Attended (cluster : Cluster) (steps : List Step) (op : Operation) (log : List Entry) (e : Engine) :
    Prop :=
  Ended op.id log ∨ ∃ d, e.drives.get? op.id = some d ∧
    Founded e.settings cluster steps op log e.router d.phase.point d

section

variable {s : Settings} {cluster : Cluster} {steps : List Step} {op : Operation} {log : List Entry}
  {e : Engine} {scene : Scene} {event : Event} {d d' : Drive} {step : Step} {nodeSteps : List NodeStep}
  {round : Round} {moved : Engine × List Effect}

/-- A drive in a round has come there by a course, so the tally of its round holds. -/
theorem Drive.Coursed.tally {used : Nat} (coursed : d.Coursed s used)
    (phase : d.phase = .dispatching step nodeSteps round)
    (distinct : (nodeSteps.map NodeStep.nodeId).Nodup) : d.InRange ∧ Tally nodeSteps round d.state := by
  obtain ⟨scene, desk, first, t, fresh, -, course, underWay, rfl, -⟩ := coursed step nodeSteps round phase
  have begun := Turn.accounts_firstRound s scene desk step fresh distinct
  have accounts := Turn.Course.accounts begun course
  obtain ⟨round', inRound, tally⟩ := accounts.underWay underWay
  obtain ⟨-, -, rfl⟩ := inRound.unique ⟨underWay, phase⟩
  exact ⟨accounts.inRange, tally⟩

/-- A request to cancel changes nothing that a drive is founded on. -/
theorem Founded.asked {router : ReplyRouter} {p : Point}
    (founded : Founded s cluster steps op log router p d)
    (same : d' = d ∨ d' = { d with cancelRequested := true }) :
    Founded s cluster steps op log router p d' := by
  rcases same with rfl | rfl
  · exact founded
  · obtain ⟨grounded, stance⟩ := founded
    refine ⟨grounded.same rfl rfl rfl rfl, ?_⟩
    cases p with
    | takenUp step => exact stance.same rfl rfl
    | calling step nodeSteps round =>
      obtain ⟨placed, yields, operation, vouched, credits⟩ := stance
      exact ⟨placed.same rfl rfl, yields, operation, vouched, credits⟩
    | _ => exact stance

/-- What a drive of an engine is founded on stands in the way of every move. -/
theorem Drive.Moves.founding {brought : Drive × Desk} {id : String} (healthy : e.Healthy)
    (distinct : Distinct cluster steps) (here : e.drives.get? id = some d)
    (founded : Founded e.settings cluster steps op log e.router d.phase.point d)
    (moves : d.Moves e.settings e.desk brought) :
    Founding e.settings cluster steps op log brought := by
  obtain ⟨reserved, coursed⟩ := healthy.onCourse id d here
  have founded' : Founded e.settings cluster steps op (e.desk.log log) e.desk.router d.phase.point d := by
    have same : e.desk.log log = log := List.append_nil log
    rw [same]
    exact founded
  cases moves with
  | step scene =>
    refine Drive.founding_step founded' reserved fun step nodeSteps round phase => ?_
    obtain ⟨-, stance⟩ := founded
    rw [phase] at stance
    obtain ⟨placed, ⟨record, yields⟩, -⟩ := stance
    exact coursed.tally phase (distinct step (List.mem_of_getElem? placed.here) record nodeSteps yields)
  | heed scene => exact Drive.founding_heed founded'
  | work scene round i => exact Drive.founding_work founded' healthy.router round i

/-- An event that brings no reply leaves an operation attended. -/
theorem Change.attended (healthy : e.Healthy) (distinct : Distinct cluster steps)
    (change : Change e event moved) (recedes : e.router.Recedes moved.1.router)
    (attended : Attended cluster steps op log e) :
    Attended cluster steps op (log ++ moved.2.map .did) moved.1 := by
  have settings := change.settings
  rcases attended with ended | ⟨d, here, founded⟩
  · exact .inl (ended.append _)
  have others : Founded moved.1.settings cluster steps op (log ++ moved.2.map .did) moved.1.router
      d.phase.point d := by
    rw [settings]
    exact (founded.append _).recedes recedes
  cases change with
  | @moves event id d' brought there moves =>
    by_cases same : op.id = id
    · subst same
      rw [here] at there
      obtain rfl := Option.some.inj there
      have founding := moves.founding healthy distinct here founded
      rcases get?_putBack_self e op.id brought with ⟨kept, -⟩ | ⟨-, atEnd⟩
      · exact .inr ⟨brought.1, kept, founding⟩
      · obtain ⟨acts, -, own⟩ := healthy.filed.brought here moves
        obtain ⟨filed, begun⟩ := healthy.filed op.id d here
        rcases acts.finish_last filed begun with ⟨goesOn, -⟩ | ⟨-, earlier, last, effects, -⟩
        · exact absurd atEnd goesOn
        · have member : .finish last ∈ brought.2.effects := by
            rw [effects]
            simp
          exact .inl ⟨last, List.mem_append_right _ (List.mem_map_of_mem member), own _ member⟩
    · exact .inr ⟨d, (get?_putBack_of_ne e brought same).trans here, others⟩
  | @rests event e' f settings' identifiers drives same =>
    have asked := same op.id d
    obtain ⟨-, phase⟩ := Drive.rests_asked asked
    refine .inr ⟨f op.id d, by rw [drives, here]; rfl, ?_⟩
    rw [phase]
    exact others.asked asked
  | @submits scene other cluster' steps' moved accepted =>
    obtain ⟨-, -, free, rfl⟩ := submit_eq_ok.1 accepted
    have differ : op.id ≠ other.id := by
      intro same
      rw [← same, here] at free
      cases free
    exact .inr ⟨d, (Dict.get?_insert_of_ne differ).trans here, others⟩

theorem Attended.next (attended : Attended cluster steps op log e) (healthy : e.Healthy)
    (distinct : Distinct cluster steps) (scene : Scene) (event : Event) :
    Attended cluster steps op (log ++ (e.intake event ++ (e.next scene event).2.map .did))
      (e.next scene event).1 := by
  rcases e.hears_or_recedes scene event with ⟨reply, intake, heard⟩ | ⟨intake, recedes⟩
  · rw [intake, heard, List.map_nil, List.append_nil]
    rcases attended with ended | ⟨d, here, founded⟩
    · exact .inl (ended.append _)
    · exact .inr ⟨d, here, founded.routes healthy.router reply⟩
  · rw [intake, List.nil_append]
    exact (next_change e scene event).attended healthy distinct recedes attended

/-- Whatever an engine goes through, an operation is attended until it has ended. -/
theorem Attended.run (attended : Attended cluster steps op log e) (healthy : e.Healthy)
    (distinct : Distinct cluster steps) (history : List (Scene × Event)) :
    Attended cluster steps op (log ++ e.trace history) (e.run history).1 := by
  induction history generalizing e log with
  | nil =>
    rw [trace, List.append_nil]
    exact attended
  | cons first rest ih =>
    have later := ih (attended.next healthy distinct first.1 first.2) (healthy.next first.1 first.2)
    rw [List.append_assoc] at later
    exact later

end

/-! ### The grounds of an envelope -/

section

variable (s : Settings) (cluster : Cluster) (steps : List Step) (op : Operation)

/-- An envelope carries a task of a node step that the step at a position yields on the first record to
show it running, and every step before that one has been passed. -/
structure Grounds (log : List Entry) (k : Nat) (n : NodeStep) (nodeId : String) (envelope : Envelope) :
    Prop where
  built : ∃ step nodeSteps record, steps[k]? = some step ∧
    (saved op.id log).find? (Operation.shows k) = some record ∧
    step.workload.yield cluster record = .ok nodeSteps ∧ n ∈ nodeSteps
  carries : ∃ c id, Effect.Carries s c id n (.send nodeId envelope)
  past : ∀ i < k, ∃ step, steps[i]? = some step ∧ Passed s cluster op log i step

end

section

variable {cluster : Cluster} {steps : List Step} {op : Operation} {e : Engine} {scene : Scene}
  {event : Event} {moved : Engine × List Effect}

theorem find?_saved_append {id : String} {log : List Entry} {k : Nat} {record : Operation}
    (found : (saved id log).find? (Operation.shows k) = some record) (more : List Entry) :
    (saved id (log ++ more)).find? (Operation.shows k) = some record := by
  rw [saved, deeds_append, concerning_append, records_append, List.find?_append, ← saved, found]
  rfl

theorem Grounds.append {s : Settings} {log : List Entry} {k : Nat} {n : NodeStep} {nodeId : String}
    {envelope : Envelope} (h : Grounds s cluster steps op log k n nodeId envelope) (more : List Entry) :
    Grounds s cluster steps op (log ++ more) k n nodeId envelope := by
  obtain ⟨⟨step, nodeSteps, record, here, found, yields, listed⟩, carries, past⟩ := h
  refine ⟨⟨step, nodeSteps, record, here, find?_saved_append found more, yields, listed⟩, carries, ?_⟩
  intro i before
  obtain ⟨step, here, passed⟩ := past i before
  exact ⟨step, here, passed.append more⟩

/-- An operation that is submitted is attended from its first record on. -/
theorem attended_submit (accepted : e.submit scene op cluster steps = .ok moved) :
    Attended cluster steps op (moved.2.map .did) moved.1 := by
  obtain ⟨-, -, -, rfl⟩ := submit_eq_ok.1 accepted
  refine .inr ⟨_, Dict.get?_insert_self .., ⟨rfl, rfl, fun k before => ?_, rfl⟩, List.drop_zero.symm⟩
  exact absurd before (Nat.not_lt_zero k)

theorem unfinished_of_not_ended {id : String} {log : List Entry} (goesOn : ¬ Ended id log) :
    Unfinished (concerning id (deeds log)) := by
  intro last member
  obtain ⟨deed, own⟩ := List.mem_filter.1 member
  obtain ⟨entry, entered, effect⟩ := List.mem_filterMap.1 deed
  cases entry with
  | heard reply => cases effect
  | did other =>
    cases effect
    exact goesOn ⟨last, entered, of_decide_eq_true own⟩

theorem tenure_eq {effects : List Effect} (unfinished : Unfinished effects) : tenure effects = effects := by
  have whole := tenure_append unfinished []
  rw [List.append_nil] at whole
  rw [whole]
  exact List.append_nil _

/-- An engine that accepts an operation saves its first record and drives it. -/
theorem submitted_of_submit (accepted : e.submit scene op cluster steps = .ok moved) :
    moved.2 = [.save (Drive.submitted e.settings scene op cluster steps).op] ∧
      moved.1.drives.get? op.id = some (.submitted e.settings scene op cluster steps) := by
  obtain ⟨-, -, -, rfl⟩ := submit_eq_ok.1 accepted
  exact ⟨rfl, Dict.get?_insert_self ..⟩

theorem deeds_of_submit (accepted : e.submit scene op cluster steps = .ok moved)
    (history : List (Scene × Event)) :
    concerning op.id (deeds (moved.2.map .did ++ moved.1.trace history))
      = moved.2 ++ concerning op.id (moved.1.run history).2 := by
  have first : concerning op.id moved.2 = moved.2 := by
    refine concerning_all fun effect member => ?_
    rw [(submitted_of_submit accepted).1] at member
    rw [List.mem_singleton.1 member]
    rfl
  rw [deeds_append, deeds_did, deeds_trace, concerning_append, first]

/-- As long as an operation goes on, the node steps of its round are those that the step yields on the
first record that shows it running. -/
theorem built_of_submit (healthy : e.Healthy) (accepted : e.submit scene op cluster steps = .ok moved)
    (history : List (Scene × Event)) {d : Drive} {step : Step} {nodeSteps : List NodeStep} {round : Round}
    (goesOn : ¬ Ended op.id (moved.2.map .did ++ moved.1.trace history))
    (here : (moved.1.run history).1.drives.get? op.id = some d)
    (phase : d.phase = .dispatching step nodeSteps round) :
    ∃ record, (saved op.id (moved.2.map .did ++ moved.1.trace history)).find? (Operation.shows d.index)
        = some record ∧ step.workload.yield cluster record = .ok nodeSteps := by
  have submits : Change e (.submit op cluster steps) moved := .submits accepted
  have filed := submits.filed healthy.filed
  obtain ⟨opening, there⟩ := submitted_of_submit accepted
  obtain ⟨own, begun⟩ := filed op.id _ there
  obtain ⟨reserved, -⟩ := submits.onCourse healthy.onCourse op.id _ there
  let effects := concerning op.id (moved.1.run history).2
  have logged : concerning op.id (deeds (moved.2.map .did ++ moved.1.trace history)) = moved.2 ++ effects :=
    deeds_of_submit accepted history
  have unfinished : Unfinished effects := by
    have whole := unfinished_of_not_ended goesOn
    rw [logged] at whole
    exact fun last member => whole last (List.mem_append_right _ member)
  have silent : (moved.1.station (.submitted e.settings scene op cluster steps)).Built cluster moved.2 := by
    intro record member k from_
    rw [opening] at member
    rw [List.mem_singleton.1 member]
    exact Drive.Reserves.shows reserved k from_
  obtain ⟨b, acts, stands⟩ := run_running filed there history
  rw [tenure_eq unfinished] at acts
  have built : b.Built cluster (moved.2 ++ effects) := (acts.built own reserved rfl silent).1
  rcases stands with atEnd | ⟨d', there', rfl⟩
  · rcases acts.finish_last own begun with ⟨running, -⟩ | ⟨-, earlier, last, ends, -⟩
    · exact absurd atEnd running
    · exact absurd (by rw [ends]; simp) (unfinished last)
  · rw [here] at there'
    obtain rfl := Option.some.inj there'
    rw [station, phase] at built
    rw [saved, logged]
    exact built.2

theorem split_of_not_mem {α : Type} {first rest earlier later : List α} {a : α} (away : a ∉ first)
    (split : first ++ rest = earlier ++ a :: later) :
    ∃ within, earlier = first ++ within ∧ rest = within ++ a :: later := by
  rcases List.append_eq_append_iff.1 split with ⟨within, same, rest⟩ | ⟨within, same, rest⟩
  · exact ⟨within, same, rest⟩
  · cases within with
    | nil =>
      rw [List.append_nil] at same
      exact ⟨[], by rw [same, List.append_nil], rest.symm⟩
    | cons b within =>
      obtain ⟨rfl, -⟩ := List.cons.inj rest
      exact absurd (by rw [same]; simp) away

/-- What is done for an operation that is not submitted again is done before its end. -/
theorem tenure_concerning {id : String} {d : Drive} (filed : e.Filed) (here : e.drives.get? id = some d)
    (history : List (Scene × Event))
    (once : ∀ entry ∈ history, ∀ op cluster steps, entry.2 = .submit op cluster steps → op.id ≠ id) :
    tenure (concerning id (e.run history).2) = concerning id (e.run history).2 := by
  induction history generalizing e d with
  | nil => rfl
  | cons first rest ih =>
    have change := next_change e first.1 first.2
    have once' := fun entry member => once entry (List.mem_cons_of_mem first member)
    obtain ⟨own, begun⟩ := filed id d here
    rw [run, concerning_append]
    rcases change.running filed here with ⟨d', kept, acts⟩ | ⟨gone, b, atEnd, acts⟩
    · have goesOn := (change.filed filed id d' kept).2
      rcases acts.finish_last own begun with ⟨-, unfinished⟩ | ⟨atEnd, -⟩
      · rw [tenure_append unfinished, ih (change.filed filed) kept once']
      · exact absurd atEnd goesOn
    · rcases acts.finish_last own begun with ⟨goesOn, -⟩ | ⟨-, earlier, last, same, unfinished⟩
      · exact absurd atEnd goesOn
      · rw [same, (run_absent (change.filed filed) gone rest once').2, List.append_nil,
          tenure_finish unfinished]

/-- Nothing is sent for an operation that has ended, unless it is submitted again. -/
theorem not_ended_of_send (healthy : e.Healthy) (accepted : e.submit scene op cluster steps = .ok moved)
    {history : List (Scene × Event)} {earlier later : List Entry} {nodeId : String} {envelope : Envelope}
    (once : ∀ entry ∈ history, ∀ other cluster steps,
      entry.2 = .submit other cluster steps → other.id ≠ op.id)
    (split : moved.2.map .did ++ moved.1.trace history
      = earlier ++ .did (.send nodeId envelope) :: later)
    (own : envelope.operationId = op.id) : ¬ Ended op.id earlier := by
  rintro ⟨last, finished, same⟩
  have filed := (Change.submits accepted).filed healthy.filed
  obtain ⟨opening, there⟩ := submitted_of_submit accepted
  obtain ⟨own', begun⟩ := filed op.id _ there
  have unfinished : Unfinished moved.2 := by
    rw [opening]
    intro other member
    simp at member
  have whole : moved.2 ++ concerning op.id (moved.1.run history).2
      = concerning op.id (deeds earlier) ++ .send nodeId envelope :: concerning op.id (deeds later) := by
    have sent : concerning op.id (deeds (.did (.send nodeId envelope) :: later))
        = .send nodeId envelope :: concerning op.id (deeds later) :=
      List.filter_cons_of_pos (decide_eq_true own)
    rw [← deeds_of_submit accepted, split, deeds_append, concerning_append, sent]
  have ends : .finish last ∈ concerning op.id (deeds earlier) :=
    List.mem_filter.2 ⟨List.mem_filterMap.2 ⟨_, finished, rfl⟩, decide_eq_true same⟩
  obtain ⟨b, acts, -⟩ := run_running filed there history
  rw [tenure_concerning filed there history once] at acts
  rcases acts.finish_last own' begun with ⟨-, goesOn⟩ | ⟨-, before, final, final', goesOn⟩
  · have member : .finish last ∈ moved.2 ++ concerning op.id (moved.1.run history).2 := by
      rw [whole]
      exact List.mem_append_left _ ends
    exact (List.mem_append.1 member).elim (unfinished last) (goesOn last)
  · -- The end is the last of all, and the envelope comes after it.
    rw [final', ← List.append_assoc] at whole
    have shorter := congrArg List.dropLast whole
    rw [List.dropLast_concat, List.dropLast_append_cons] at shorter
    have member : .finish last ∈ moved.2 ++ before := by
      rw [shorter]
      exact List.mem_append_left _ ends
    exact (List.mem_append.1 member).elim (unfinished last) (goesOn last)

/-- An engine stays healthy when it accepts an operation. -/
theorem Healthy.submit (healthy : e.Healthy) (accepted : e.submit scene op cluster steps = .ok moved) :
    moved.1.Healthy := by
  have submits : Change e (.submit op cluster steps) moved := .submits accepted
  refine ⟨?_, submits.filed healthy.filed, submits.onCourse healthy.onCourse⟩
  obtain ⟨-, -, -, rfl⟩ := submit_eq_ok.1 accepted
  exact healthy.router

/-- An envelope in the trace of a submission is an effect of an event after it. -/
theorem sent_of_split (accepted : e.submit scene op cluster steps = .ok moved)
    {history : List (Scene × Event)} {earlier later : List Entry} {nodeId : String} {envelope : Envelope}
    (split : moved.2.map .did ++ moved.1.trace history
      = earlier ++ .did (.send nodeId envelope) :: later) :
    ∃ before scene event sofar, earlier = (moved.2.map .did ++ moved.1.trace before) ++ sofar ∧
      .send nodeId envelope ∈ ((moved.1.run before).1.next scene event).2 := by
  have record : .did (.send nodeId envelope) ∉ moved.2.map Entry.did := by
    rw [(submitted_of_submit accepted).1]
    simp
  obtain ⟨within, rfl, split'⟩ := split_of_not_mem record split
  obtain ⟨before, scene', event, -, sofar, rfl, member⟩ := split_trace split'
  refine ⟨before, scene', event, sofar, (List.append_assoc ..).symm, ?_⟩
  rcases List.mem_append.1 member with heard | did
  · rcases intake_cases (moved.1.run before).1 event with none | ⟨reply, one⟩
    · rw [none] at heard
      cases heard
    · rw [one, List.mem_singleton] at heard
      cases heard
  · obtain ⟨effect, done, same⟩ := List.mem_map.1 did
    cases same
    exact done

/-- Whatever is sent for an operation carries a task of a node step of its round. -/
theorem Change.carries_of_send {id nodeId : String} {envelope : Envelope} {d : Drive} (filed : e.Filed)
    (change : Change e event moved) (here : e.drives.get? id = some d)
    (sent : .send nodeId envelope ∈ moved.2) (own : envelope.operationId = id) :
    ∃ step nodeSteps round, d.phase = .dispatching step nodeSteps round ∧ ∃ lane ∈ round.lanes,
      Effect.Carries e.settings round.context lane.id lane.nodeStep (.send nodeId envelope) := by
  cases change with
  | @moves event other d' brought there moves =>
    obtain ⟨-, -, owned⟩ := filed.brought there moves
    have same : id = other := own.symm.trans (owned _ sent)
    subst same
    rw [here] at there
    obtain rfl := Option.some.inj there
    refine moves.carries_of_send rfl (fun step nodeSteps round phase => ?_) sent
    refine ((filed id d here).1.context step nodeSteps round ?_).2
    rw [station, phase]
    rfl
  | rests f settings identifiers drives same => cases sent
  | submits accepted =>
    rw [(submitted_of_submit accepted).1] at sent
    simp at sent

/-- **Whatever is sent has its grounds.** An engine that may have been through anything accepts an
operation over steps each of which calls on a node once at most. Whatever happens from then on, an envelope
that it sends for this operation before the operation ends carries a task of a node step that its step
yields on the first record that shows this step running, and all steps before that one have been
passed by then. -/
theorem grounds_of_send (healthy : e.Healthy) (distinct : Distinct cluster steps)
    (accepted : e.submit scene op cluster steps = .ok moved) {history : List (Scene × Event)}
    {earlier later : List Entry} {nodeId : String} {envelope : Envelope}
    (split : moved.2.map .did ++ moved.1.trace history
      = earlier ++ .did (.send nodeId envelope) :: later)
    (goesOn : ¬ Ended op.id earlier) (own : envelope.operationId = op.id) :
    ∃ k n, Grounds e.settings cluster steps op earlier k n nodeId envelope := by
  obtain ⟨before, scene', event, sofar, rfl, sent⟩ := sent_of_split accepted split
  have goesOn' : ¬ Ended op.id (moved.2.map .did ++ moved.1.trace before) :=
    fun ended => goesOn (ended.append sofar)
  have healthy' := (healthy.submit accepted).run before
  obtain ⟨d, here, grounded, stance⟩ :=
    ((attended_submit accepted).run (healthy.submit accepted) distinct before).resolve_left goesOn'
  have change := next_change (moved.1.run before).1 scene' event
  obtain ⟨step, nodeSteps, round, phase, lane, among, carries⟩ :=
    change.carries_of_send healthy'.filed here sent own
  obtain ⟨record, found, yields⟩ := built_of_submit healthy accepted before goesOn' here phase
  rw [phase] at stance
  obtain ⟨placed, -⟩ := stance
  have once := distinct step (List.mem_of_getElem? placed.here) record nodeSteps yields
  obtain ⟨-, tally⟩ := (healthy'.onCourse op.id d here).2.tally phase once
  have settings : (moved.1.run before).1.settings = e.settings :=
    (settings_run ..).trans (Change.submits accepted).settings
  rw [settings] at carries grounded
  refine ⟨d.index, lane.nodeStep, Grounds.append ⟨?_, ⟨_, _, carries⟩, grounded.past⟩ sofar⟩
  exact ⟨step, nodeSteps, record, placed.here, found, yields, tally.mem_nodeSteps among⟩

end

end Engine

end Muster
