import Muster.Proofs.Act
import Muster.Proofs.Minutes

/-!
# The proceedings of a step

`Proceedings` are a turn together with the chapters of its rounds, and `Proceedings.Next` is a move that
keeps them: it says what was minuted and what was sent. Nothing is added to what a drive does or
taken from it. Every such move is one of a course (`Next.move`), and every course has proceedings
(`exists_run`).

What can happen next is listed once, as the stages of a round (`Stage`).
-/

set_option autoImplicit false

namespace Muster.Engine

/-! ### Moves that are minuted -/

instance (d : Drive) (step : Step) (outcome : Outcome) (timeouts : Nat) :
    Decidable (Drive.Finalizes d step outcome timeouts) :=
  inferInstanceAs (Decidable (_ ∧ _))

/-- What is minuted when the outcome that was handed in first is settled. -/
def Drive.minutes (scene : Scene) (d : Drive) (step : Step) (r : Round) : List Minute :=
  match r.take? with
  | none => []
  | some (lane, outcome, taken) =>
    .first r lane outcome ::
      if Finalizes (d.note scene lane.nodeStep outcome) step outcome (taken.count outcome).timeouts then
        Minute.swept Round.givenUp 0 (taken.count outcome).lanes
      else []

theorem Drive.minutes_of_take? {scene : Scene} {d : Drive} {step : Step} {r taken : Round} {lane : Lane}
    {outcome : Outcome} (took : r.take? = some (lane, outcome, taken)) :
    d.minutes scene step r = .first r lane outcome ::
      if Finalizes (d.note scene lane.nodeStep outcome) step outcome (taken.count outcome).timeouts then
        Minute.swept Round.givenUp 0 (taken.count outcome).lanes
      else [] := by
  rw [minutes, took]

/-- The chapter that is opened for the round that a turn begins. -/
def Turn.chapter? (scene : Scene) (t : Turn) : Option Chapter :=
  match t.verdict, t.drive.phase with
  | .underWay, .dispatching _ _ round => some ⟨round.called, scene.unreachable, []⟩
  | _, _ => none

/-- A turn and the chapters of its rounds. -/
structure Proceedings where
  turn : Turn
  /-- The rounds that have come to an end, the oldest first. -/
  concluded : List Chapter
  /-- The round that is under way, or was when the operation was cancelled. -/
  current? : Option Chapter

/-- What may happen while a step is run. -/
inductive Motion where
  /-- The outcome that was handed in first is settled. -/
  | settle
  /-- The node step at a position goes on. -/
  | work (i : Nat)
  /-- Somebody wants the operation to end. -/
  | request
  /-- The request to end is heeded. -/
  | abandon
  deriving DecidableEq

namespace Proceedings

/-- A step is begun. -/
def opening (s : Settings) (scene : Scene) (desk : Desk) (d : Drive) (step : Step)
    (nodeSteps : List NodeStep) : Proceedings :=
  let turn := Drive.firstRound s scene desk d step nodeSteps
  { turn
    concluded := if nodeSteps = [] then [⟨[], scene.unreachable, []⟩] else []
    current? := turn.chapter? scene }

/-- A round comes to an end, and another one may begin. -/
def conclude (p : Proceedings) (scene : Scene) (u : Turn) (c : Chapter) : Proceedings :=
  ⟨u, p.concluded ++ [c], u.chapter? scene⟩

/-- Somebody wants the operation to end. -/
def asked (p : Proceedings) : Proceedings :=
  { p with turn := { p.turn with drive := { p.turn.drive with cancelRequested := true } } }

/-- The chapters of all rounds. -/
def chapters (p : Proceedings) : List Chapter := p.concluded ++ p.current?.toList

/-- One move, in a world of its own, with what it sends. -/
inductive Next (s : Settings) (p : Proceedings) : Scene → Motion → List Effect → Proceedings → Prop where
  | settles {step : Step} {nodeSteps : List NodeStep} {round : Round} {c : Chapter} {u : Turn}
      {sent : List Effect} (scene : Scene) (desk : Desk) (inRound : p.turn.InRound step nodeSteps round)
      (here : p.current? = some c) (later : p.turn.desk.identifiers.used ≤ desk.identifiers.used)
      (turn : Drive.settle s scene desk p.turn.drive step nodeSteps round = u)
      (effects : u.desk.effects = desk.effects ++ sent) (goesOn : ¬ Turn.EndsRound p.turn u) :
      Next s p scene .settle sent
        ⟨u, p.concluded, some (c.add (p.turn.drive.minutes scene step round))⟩
  | concludes {step : Step} {nodeSteps : List NodeStep} {round : Round} {c : Chapter} {u : Turn}
      {sent : List Effect} (scene : Scene) (desk : Desk) (inRound : p.turn.InRound step nodeSteps round)
      (here : p.current? = some c) (later : p.turn.desk.identifiers.used ≤ desk.identifiers.used)
      (turn : Drive.settle s scene desk p.turn.drive step nodeSteps round = u)
      (effects : u.desk.effects = desk.effects ++ sent) (ends : Turn.EndsRound p.turn u) :
      Next s p scene .settle sent
        (p.conclude scene u (c.add (p.turn.drive.minutes scene step round)))
  | works {step : Step} {nodeSteps : List NodeStep} {round : Round} {moved : Drive × Desk}
      {sent : List Effect} (scene : Scene) (desk : Desk) (i : Nat)
      (inRound : p.turn.InRound step nodeSteps round)
      (later : p.turn.desk.identifiers.used ≤ desk.identifiers.used)
      (went : p.turn.drive.work s scene desk p.turn.drive.rounds i = moved)
      (effects : moved.2.effects = desk.effects ++ sent) :
      Next s p scene (.work i) sent { p with turn := ⟨.underWay, moved.1, moved.2⟩ }
  | asks (scene : Scene) : Next s p scene .request [] p.asked
  | abandons {step : Step} {nodeSteps : List NodeStep} {round : Round} {c : Chapter} {u : Turn}
      {sent : List Effect} (scene : Scene) (desk : Desk) (inRound : p.turn.InRound step nodeSteps round)
      (here : p.current? = some c) (requested : p.turn.drive.cancelRequested = true)
      (later : p.turn.desk.identifiers.used ≤ desk.identifiers.used)
      (turn : Drive.abandon scene desk p.turn.drive round = u)
      (effects : u.desk.effects = desk.effects ++ sent) :
      Next s p scene .abandon sent
        ⟨u, p.concluded, some (c.add (Minute.swept (fun _ => .failed "cancelled") 0 round.lanes))⟩

/-- Any number of moves, and all that they send. -/
inductive Run (s : Settings) (p : Proceedings) :
    List (Scene × Motion) → List Effect → Proceedings → Prop where
  | refl : Run s p [] [] p
  | snoc {q r : Proceedings} {history : List (Scene × Motion)} {sent more : List Effect} {scene : Scene}
      {motion : Motion} (run : Run s p history sent q) (next : Next s q scene motion more r) :
      Run s p (history ++ [(scene, motion)]) (sent ++ more) r

variable {s : Settings} {p q r : Proceedings} {scene : Scene} {motion : Motion} {sent more : List Effect}
  {history later : List (Scene × Motion)} {step : Step} {nodeSteps : List NodeStep} {round : Round}
  {c : Chapter}

theorem Run.trans (first : Run s p history sent q) (second : Run s q later more r) :
    Run s p (history ++ later) (sent ++ more) r := by
  induction second with
  | refl =>
    rw [List.append_nil, List.append_nil]
    exact first
  | snoc _ next ih =>
    rw [← List.append_assoc, ← List.append_assoc]
    exact ih.snoc next

/-- What is minuted is a move of the course. -/
theorem Next.move (next : Next s p scene motion sent q) : Turn.Move s p.turn q.turn := by
  cases next with
  | settles scene desk inRound here later turn effects goesOn =>
    subst turn
    exact .settle scene desk inRound later
  | concludes scene desk inRound here later turn effects ends =>
    subst turn
    exact .settle scene desk inRound later
  | works scene desk i inRound later went effects =>
    subst went
    exact .work scene desk i inRound later
  | asks scene => exact .request
  | abandons scene desk inRound here requested later turn effects =>
    subst turn
    exact .abandon scene desk inRound requested later

theorem Next.concluded_prefix (next : Next s p scene motion sent q) : p.concluded <+: q.concluded := by
  cases next with
  | concludes scene desk inRound here later turn effects ends => exact ⟨_, rfl⟩
  | _ => exact List.prefix_rfl

theorem Run.course (run : Run s p history sent q) : Turn.Course s p.turn q.turn := by
  induction run with
  | refl => exact .refl
  | snoc _ next ih => exact ih.tail next.move

/-! ### What is only saved -/

end Proceedings

/-- From one desk to another records have been saved at most. -/
def Desk.Saves (desk desk' : Desk) : Prop :=
  ∃ ops : List Operation, desk'.effects = desk.effects ++ ops.map .save

namespace Desk.Saves

variable {desk desk' desk'' : Desk}

theorem refl (same : desk'.effects = desk.effects) : desk.Saves desk' :=
  ⟨[], by rw [same, List.map_nil, List.append_nil]⟩

theorem trans (first : desk.Saves desk') (second : desk'.Saves desk'') : desk.Saves desk'' := by
  obtain ⟨ops, same⟩ := first
  obtain ⟨more, same'⟩ := second
  exact ⟨ops ++ more, by rw [same', same, List.map_append, List.append_assoc]⟩

theorem save (d : Drive) (desk : Desk) : desk.Saves (d.save desk) := ⟨[d.op], rfl⟩

/-- Nothing else than records is among the effects. -/
theorem of_effects {sent : List Effect} (saves : desk.Saves desk')
    (effects : desk'.effects = desk.effects ++ sent) : ∃ ops : List Operation, sent = ops.map .save := by
  obtain ⟨ops, same⟩ := saves
  rw [same] at effects
  exact ⟨ops, (List.append_cancel_left effects).symm⟩

end Desk.Saves

namespace Drive

variable (s : Settings) (scene : Scene) (desk : Desk) (d : Drive) (step : Step) (nodeSteps : List NodeStep)
  (round : Round)

/-- The end of a round is only recorded, and identifiers may be handed out for another one. -/
theorem saves_concludeRound :
    desk.Saves (concludeRound s scene desk d step nodeSteps round).desk ∧
    desk.identifiers.used ≤ (concludeRound s scene desk d step nodeSteps round).desk.identifiers.used := by
  have cases := concludeRound_cases s scene desk d step nodeSteps round
  generalize concludeRound s scene desk d step nodeSteps round = turn at cases ⊢
  have collected : desk.Saves ((d.collect scene round).save (round.close desk)) := .save _ (round.close desk)
  cases cases with
  | proceeds decided => exact ⟨collected.trans (.save _ _), Nat.le_refl _⟩
  | aborts reason decided => exact ⟨collected, Nat.le_refl _⟩
  | nothingLeft decided none => exact ⟨collected, Nat.le_refl _⟩
  | retries decided some =>
    refine ⟨collected.trans (.refl rfl), ?_⟩
    have used := Identifiers.freshFor_used desk.identifiers (round.again (d.collect scene round).state)
    exact (Nat.le_add_right ..).trans used.ge

/-- Settling an outcome sends nothing. -/
theorem saves_settle :
    desk.Saves (settle s scene desk d step nodeSteps round).desk ∧
    desk.identifiers.used ≤ (settle s scene desk d step nodeSteps round).desk.identifiers.used := by
  have cases := settle_cases s scene desk d step nodeSteps round
  generalize settle s scene desk d step nodeSteps round = turn at cases ⊢
  cases cases with
  | idle none => exact ⟨.refl rfl, Nat.le_refl _⟩
  | finalizes lane outcome taken noted swept took note gaveUp sweep =>
    obtain ⟨saves, used⟩ := saves_concludeRound s scene (swept.save (noted.save desk)) swept step nodeSteps
      (taken.count outcome)
    exact ⟨((Desk.Saves.save noted desk).trans (.save swept _)).trans saves, used⟩
  | ends lane outcome taken noted took note patient atEnd =>
    obtain ⟨saves, used⟩ := saves_concludeRound s scene (noted.save desk) noted step nodeSteps
      (onward noted step lane outcome taken)
    exact ⟨(Desk.Saves.save noted desk).trans saves, used⟩
  | goesOn lane outcome taken noted took note patient busy => exact ⟨.save noted desk, Nat.le_refl _⟩

end Drive

namespace Proceedings

variable {s : Settings} {p q r : Proceedings} {scene : Scene} {motion : Motion} {sent more : List Effect}
  {history later : List (Scene × Motion)} {step : Step} {nodeSteps : List NodeStep} {round : Round}
  {c : Chapter}

theorem Next.saved (next : Next s p scene .settle sent q) : ∃ ops : List Operation, sent = ops.map .save := by
  cases next with
  | settles scene desk inRound here later turn effects goesOn =>
    subst turn
    exact (Drive.saves_settle ..).1.of_effects effects
  | concludes scene desk inRound here later turn effects ends =>
    subst turn
    exact (Drive.saves_settle ..).1.of_effects effects

/-! ### The stages of a round -/

/-- The round that is under way, and its chapter. -/
structure At (p : Proceedings) (step : Step) (nodeSteps : List NodeStep) (round : Round) (c : Chapter) :
    Prop where
  inRound : p.turn.InRound step nodeSteps round
  here : p.current? = some c
  tells : c.Tells round
  faithful : round.Faithful
  distinct : (c.called.map Prod.fst).Nodup
  spent : ∀ entry ∈ c.called, Identifiers.Between 0 p.turn.desk.identifiers.used entry.1
  inOrder : (c.called.map Prod.snd).Sublist nodeSteps
  data : round.context.returnData = p.turn.drive.op.returnData

open Drive in
/-- What may happen next to a round that is under way. -/
inductive Stage (s : Settings) (p : Proceedings) (scene : Scene) (step : Step) (nodeSteps : List NodeStep)
    (round : Round) (c : Chapter) : Motion → List Effect → Proceedings → Prop where
  /-- There is no outcome to settle. -/
  | idle (desk : Desk) (later : p.turn.desk.identifiers.used ≤ desk.identifiers.used)
      (none : round.take? = none) :
      Stage s p scene step nodeSteps round c .settle [] { p with turn := ⟨.underWay, p.turn.drive, desk⟩ }
  /-- An outcome is settled, and the round goes on. -/
  | settles {lane : Lane} {outcome : Outcome} {taken : Round} {noted : Drive} {sent : List Effect}
      (desk : Desk) (later : p.turn.desk.identifiers.used ≤ desk.identifiers.used)
      (took : round.take? = some (lane, outcome, taken))
      (note : noted = p.turn.drive.note scene lane.nodeStep outcome)
      (patient : ¬ Finalizes noted step outcome (taken.count outcome).timeouts)
      (busy : (onward noted step lane outcome taken).isOver = false)
      (saved : ∃ ops : List Operation, sent = ops.map .save) :
      Stage s p scene step nodeSteps round c .settle sent
        ⟨⟨.underWay,
          { noted with phase := .dispatching step nodeSteps (onward noted step lane outcome taken) },
          noted.save desk⟩, p.concluded, some (c.add [.first round lane outcome])⟩
  /-- The last outcome is settled. -/
  | ends {lane : Lane} {outcome : Outcome} {taken : Round} {noted : Drive} {sent : List Effect}
      (desk : Desk) (later : p.turn.desk.identifiers.used ≤ desk.identifiers.used)
      (took : round.take? = some (lane, outcome, taken))
      (note : noted = p.turn.drive.note scene lane.nodeStep outcome)
      (patient : ¬ Finalizes noted step outcome (taken.count outcome).timeouts)
      (atEnd : (onward noted step lane outcome taken).isOver = true)
      (saved : ∃ ops : List Operation, sent = ops.map .save) :
      Stage s p scene step nodeSteps round c .settle sent
        (p.conclude scene
          (concludeRound s scene (noted.save desk) noted step nodeSteps (onward noted step lane outcome taken))
          (c.add [.first round lane outcome]))
  /-- After an outcome waiting is given up. -/
  | finalizes {lane : Lane} {outcome : Outcome} {taken : Round} {noted swept : Drive} {sent : List Effect}
      (desk : Desk) (later : p.turn.desk.identifiers.used ≤ desk.identifiers.used)
      (took : round.take? = some (lane, outcome, taken))
      (note : noted = p.turn.drive.note scene lane.nodeStep outcome)
      (gaveUp : Finalizes noted step outcome (taken.count outcome).timeouts)
      (sweep : swept = noted.modifyState ((taken.count outcome).sweep Round.givenUp))
      (saved : ∃ ops : List Operation, sent = ops.map .save) :
      Stage s p scene step nodeSteps round c .settle sent
        (p.conclude scene
          (concludeRound s scene (swept.save (noted.save desk)) swept step nodeSteps (taken.count outcome))
          ((c.add [.first round lane outcome]).add
            (Minute.swept Round.givenUp 0 (taken.count outcome).lanes)))
  | works {sent : List Effect} (desk : Desk) (i : Nat)
      (later : p.turn.desk.identifiers.used ≤ desk.identifiers.used)
      (speaks : round.Speaks s i desk (round.work s scene desk i) sent) :
      Stage s p scene step nodeSteps round c (.work i) sent
        { p with turn := ⟨.underWay,
          { p.turn.drive with phase := .dispatching step nodeSteps (round.work s scene desk i).1 },
          (round.work s scene desk i).2⟩ }
  | asks : Stage s p scene step nodeSteps round c .request [] p.asked
  | abandons {sent : List Effect} (desk : Desk)
      (later : p.turn.desk.identifiers.used ≤ desk.identifiers.used)
      (requested : p.turn.drive.cancelRequested = true)
      (saved : ∃ ops : List Operation, sent = ops.map .save) :
      Stage s p scene step nodeSteps round c .abandon sent
        ⟨Drive.abandon scene desk p.turn.drive round, p.concluded,
          some (c.add (Minute.swept (fun _ => .failed "cancelled") 0 round.lanes))⟩

/-- After the end of a round it has ended. -/
theorem endsRound_concludeRound {t : Turn} {d : Drive} (desk : Desk) (rounds : d.rounds = t.drive.rounds) :
    Turn.EndsRound t (Drive.concludeRound s scene desk d step nodeSteps round) := by
  rcases Drive.rounds_concludeRound s scene desk d step nodeSteps round with ⟨decided, -⟩ | ⟨-, more⟩
  · exact .inl decided
  · refine .inr ?_
    rw [more, rounds]
    omega

theorem not_endsRound {t u : Turn} (underWay : u.verdict = .underWay)
    (same : u.drive.rounds = t.drive.rounds) : ¬ Turn.EndsRound t u := by
  rintro (decided | more)
  · exact decided underWay
  · exact more same

/-- **What may happen next** is one of the stages. -/
theorem Next.stage (here : p.At step nodeSteps round c) (next : Next s p scene motion sent q) :
    Stage s p scene step nodeSteps round c motion sent q := by
  cases next with
  | @settles step' nodeSteps' round' c' u sent scene desk inRound current later turn effects goesOn =>
    obtain ⟨rfl, rfl, rfl⟩ := here.inRound.unique inRound
    obtain rfl : c = c' := Option.some.inj (here.here.symm.trans current)
    have saved := (Drive.saves_settle s scene desk p.turn.drive step nodeSteps round).1
    have cases := Drive.settle_cases s scene desk p.turn.drive step nodeSteps round
    rw [turn] at cases saved
    cases cases with
    | idle none =>
      obtain rfl : sent = [] := by simpa using effects
      have nothing : p.turn.drive.minutes scene step round = [] := by rw [Drive.minutes, none]
      rw [nothing, Chapter.add_nil, ← current]
      exact .idle desk later none
    | finalizes lane outcome taken noted swept took note gaveUp sweep =>
      refine absurd (endsRound_concludeRound _ ?_) goesOn
      rw [sweep, note]
      rfl
    | ends lane outcome taken noted took note patient atEnd =>
      refine absurd (endsRound_concludeRound _ ?_) goesOn
      rw [note]
      rfl
    | goesOn lane outcome taken noted took note patient busy =>
      rw [Drive.minutes_of_take? took, ← note, if_neg patient]
      exact .settles desk later took note patient busy (saved.of_effects effects)
  | @concludes step' nodeSteps' round' c' u sent scene desk inRound current later turn effects ends =>
    obtain ⟨rfl, rfl, rfl⟩ := here.inRound.unique inRound
    obtain rfl : c = c' := Option.some.inj (here.here.symm.trans current)
    have saved := (Drive.saves_settle s scene desk p.turn.drive step nodeSteps round).1
    have cases := Drive.settle_cases s scene desk p.turn.drive step nodeSteps round
    rw [turn] at cases saved
    cases cases with
    | idle none => exact absurd ends (not_endsRound rfl rfl)
    | finalizes lane outcome taken noted swept took note gaveUp sweep =>
      rw [Drive.minutes_of_take? took, ← note, if_pos gaveUp, ← List.singleton_append, ← Chapter.add_add]
      exact .finalizes desk later took note gaveUp sweep (saved.of_effects effects)
    | ends lane outcome taken noted took note patient atEnd =>
      rw [Drive.minutes_of_take? took, ← note, if_neg patient]
      exact .ends desk later took note patient atEnd (saved.of_effects effects)
    | goesOn lane outcome taken noted took note patient busy =>
      have same : noted.rounds = p.turn.drive.rounds := by
        rw [note]
        rfl
      exact absurd ends (not_endsRound rfl same)
  | @works step' nodeSteps' round' moved sent scene desk i inRound later went effects =>
    obtain ⟨rfl, rfl, rfl⟩ := here.inRound.unique inRound
    rw [Drive.work_dispatching s scene desk i inRound.2] at went
    subst went
    obtain ⟨more, speaks⟩ := Round.speaks_work s scene desk round i
    obtain rfl : more = sent := List.append_cancel_left (speaks.effects.symm.trans effects)
    exact .works desk i later speaks
  | asks scene => exact .asks
  | @abandons step' nodeSteps' round' c' u sent scene desk inRound current requested later turn effects =>
    obtain ⟨rfl, rfl, rfl⟩ := here.inRound.unique inRound
    obtain rfl : c = c' := Option.some.inj (here.here.symm.trans current)
    subst turn
    have saves : desk.Saves (Drive.abandon scene desk p.turn.drive round).desk :=
      .trans (.save _ desk) (.refl rfl)
    exact .abandons desk later requested (saves.of_effects effects)

/-- After the verdict somebody may want the operation to end, and that is all. -/
theorem Next.asked_of_decided (decided : p.turn.verdict ≠ .underWay) (next : Next s p scene motion sent q) :
    sent = [] ∧ q = p.asked := by
  cases next with
  | settles scene desk inRound here later turn effects goesOn => exact absurd inRound.1 decided
  | concludes scene desk inRound here later turn effects ends => exact absurd inRound.1 decided
  | works scene desk i inRound later went effects => exact absurd inRound.1 decided
  | asks scene => exact ⟨rfl, rfl⟩
  | abandons scene desk inRound here requested later turn effects => exact absurd inRound.1 decided

/-! ### What is kept -/

/-- The proceedings of a step that was begun with a drive are in order. -/
structure Kept (d : Drive) (step : Step) (nodeSteps : List NodeStep) (p : Proceedings) : Prop where
  sound : p.turn.InOrder
  underWay : p.turn.verdict = .underWay → ∃ round c, p.At step nodeSteps round c
  concluded : ∀ c ∈ p.concluded, c.Complete ∧ (c.called.map Prod.snd).Sublist nodeSteps
  /-- Unless the operation was cancelled every round has come to its end when the step has. -/
  ended : p.turn.verdict ≠ .underWay → p.turn.verdict ≠ .stopped .cancelled → p.current? = none
  /-- A round that was cancelled stays the last one. -/
  cancelled : p.turn.verdict = .stopped .cancelled → ∃ c, p.current? = some c ∧ c.Complete
  rounds : p.turn.drive.rounds = d.rounds + p.chapters.length
  type : p.turn.drive.op.type = d.op.type

/-- A move only saves records unless a node step goes on. -/
theorem Next.saved_or_works {d : Drive} (kept : p.Kept d step nodeSteps) (next : Next s p scene motion sent q) :
    (∃ ops : List Operation, sent = ops.map .save) ∨
    ∃ round c i desk, p.At step nodeSteps round c ∧ p.turn.desk.identifiers.used ≤ desk.identifiers.used ∧
      round.Speaks s i desk (round.work s scene desk i) sent ∧
      q.turn = ⟨.underWay,
        { p.turn.drive with phase := .dispatching step nodeSteps (round.work s scene desk i).1 },
        (round.work s scene desk i).2⟩ := by
  by_cases underWay : p.turn.verdict = .underWay
  · obtain ⟨round, c, here⟩ := kept.underWay underWay
    cases next.stage here with
    | idle desk later none => exact .inl ⟨[], rfl⟩
    | settles desk later took note patient busy saved => exact .inl saved
    | ends desk later took note patient atEnd saved => exact .inl saved
    | finalizes desk later took note gaveUp sweep saved => exact .inl saved
    | works desk i later speaks => exact .inr ⟨round, c, i, desk, here, later, speaks, rfl⟩
    | asks => exact .inl ⟨[], rfl⟩
    | abandons desk later requested saved => exact .inl saved
  · exact .inl ⟨[], (next.asked_of_decided underWay).1⟩

/-- Another round is under way, with a chapter of its own. -/
theorem at_dispatch {e : Drive} {called : List NodeStep} (desk : Desk) (inOrder : called.Sublist nodeSteps)
    (turn : q.turn = Drive.dispatch s scene desk e step nodeSteps called)
    (current : q.current? = q.turn.chapter? scene) : ∃ round c, q.At step nodeSteps round c := by
  have fst : (Drive.named desk called).map Prod.fst
      = (List.range' desk.identifiers.used called.length).map Identifiers.text :=
    Identifiers.freshFor_fst ..
  have once : (List.range' desk.identifiers.used called.length).Nodup := List.nodup_range'
  have snd : (Drive.named desk called).map Prod.snd = called := Identifiers.freshFor_snd ..
  have chapter : (e.opening s scene desk step called).called = Drive.named desk called := Round.called_begin ..
  have faithful : (e.opening s scene desk step called).Faithful := Round.faithful_begin _ _ _ _ _
  refine ⟨e.opening s scene desk step called, ⟨Drive.named desk called, scene.unreachable, []⟩, ?_⟩
  refine ⟨?_, ?_, ?_, faithful, ?_, fun entry member => ?_, ?_, ?_⟩
  · rw [turn]
    exact ⟨rfl, rfl⟩
  · rw [current, turn, ← chapter]
    rfl
  · rw [← chapter]
    exact Chapter.tells_begin ..
  · rw [fst]
    exact once.map Identifiers.text_injective
  · rw [turn]
    exact (Identifiers.between_of_mem_freshFor (List.mem_map_of_mem member)).mono (Nat.zero_le _) (Nat.le_refl _)
  · rw [snd]
    exact inOrder
  · rw [turn]
    rfl

/-- The end of a round keeps the proceedings in order. -/
theorem kept_conclude {d e : Drive} {after : Round} {c' : Chapter} (desk : Desk) (kept : p.Kept d step nodeSteps)
    (current : p.current? = some c) (complete : c'.Complete) (called : after.called = c'.called)
    (inOrder : (c'.called.map Prod.snd).Sublist nodeSteps) (rounds : e.rounds = p.turn.drive.rounds)
    (type : e.op.type = p.turn.drive.op.type) :
    (p.conclude scene (Drive.concludeRound s scene desk e step nodeSteps after) c').Kept d step nodeSteps := by
  have concluded : ∀ c ∈ p.concluded ++ [c'], c.Complete ∧ (c.called.map Prod.snd).Sublist nodeSteps := by
    intro c member
    rcases List.mem_append.1 member with old | new
    · exact kept.concluded c old
    · rw [List.mem_singleton.1 new]
      exact ⟨complete, inOrder⟩
  have before := kept.rounds
  simp only [chapters, current, Option.toList_some, List.length_append, List.length_singleton] at before
  have sound := Turn.inOrder_concludeRound s scene desk e step nodeSteps after
  have cases := Drive.concludeRound_cases s scene desk e step nodeSteps after
  generalize Drive.concludeRound s scene desk e step nodeSteps after = u at sound cases ⊢
  have stops {verdict : Verdict} {d' : Drive} {desk' : Desk} (decided : verdict ≠ .underWay)
      (kept' : verdict ≠ .stopped .cancelled) (sound : Turn.InOrder ⟨verdict, d', desk'⟩) (rounds' : d'.rounds = e.rounds)
      (type' : d'.op.type = e.op.type) : (p.conclude scene ⟨verdict, d', desk'⟩ c').Kept d step nodeSteps := by
    have none : Turn.chapter? scene ⟨verdict, d', desk'⟩ = none := by
      cases verdict with
      | underWay => exact absurd rfl decided
      | _ => rfl
    refine ⟨sound, fun underWay => absurd underWay decided, concluded, fun _ _ => none,
      fun cancelled => absurd cancelled kept', ?_, (type'.trans type).trans kept.type⟩
    simp only [chapters, conclude, none, Option.toList_none, List.append_nil, List.length_append,
      List.length_singleton]
    omega
  cases cases with
  | proceeds decided => exact stops (by simp) (by simp) sound rfl rfl
  | aborts reason decided => exact stops (by simp) (by simp) sound rfl rfl
  | nothingLeft decided none => exact stops (by simp) (by simp) sound rfl rfl
  | retries decided some =>
    have again : (after.again (e.collect scene after).state).Sublist nodeSteps := by
      have listed : (after.lanes.map Lane.nodeStep).Sublist nodeSteps := by
        rw [Round.nodeSteps_eq, called]
        exact inOrder
      exact List.filter_sublist.trans listed
    refine ⟨sound, fun _ => at_dispatch _ again rfl rfl, concluded, fun decided => absurd rfl decided,
      fun cancelled => (nomatch cancelled), ?_, type.trans kept.type⟩
    have more : e.rounds + 1 = d.rounds + (p.concluded ++ [c']).length + 1 := by
      rw [List.length_append, List.length_singleton]
      omega
    rw [chapters, List.length_append, ← Nat.add_assoc]
    exact more

/-- Somebody who wants the operation to end changes nothing else. -/
theorem At.asked (here : p.At step nodeSteps round c) : p.asked.At step nodeSteps round c :=
  ⟨here.inRound, here.here, here.tells, here.faithful, here.distinct, here.spent, here.inOrder, here.data⟩

/-- **A move keeps the proceedings in order.** -/
theorem Next.kept {d : Drive} (kept : p.Kept d step nodeSteps) (next : Next s p scene motion sent q) :
    q.Kept d step nodeSteps := by
  have sound := next.move.inOrder kept.sound
  by_cases underWay : p.turn.verdict = .underWay
  · obtain ⟨round, c, here⟩ := kept.underWay underWay
    have order := kept.sound step nodeSteps round here.inRound
    -- The chapter of the round is one, whatever has been added to it.
    have one (c' : Chapter) : p.turn.drive.rounds = d.rounds + (p.concluded ++ [c']).length := by
      rw [kept.rounds, chapters, here.here, List.length_append, List.length_append]
      rfl
    have entries {used : Nat} (later : p.turn.desk.identifiers.used ≤ used) :
        ∀ entry ∈ c.called, Identifiers.Between 0 used entry.1 :=
      fun entry member => (here.spent entry member).mono (Nat.le_refl _) later
    cases next.stage here with
    | idle desk later none =>
      refine ⟨sound, fun _ => ⟨round, c, ?_⟩, kept.concluded, fun decided => absurd rfl decided,
        fun cancelled => (nomatch cancelled), kept.rounds, kept.type⟩
      exact ⟨⟨rfl, here.inRound.2⟩, here.here, here.tells, here.faithful, here.distinct, entries later,
        here.inOrder, here.data⟩
    | @settles lane outcome taken noted sent desk later took note patient busy saved =>
      have tells := here.tells.onward order noted step took
      have continues : round.Continues (Drive.onward noted step lane outcome taken) :=
        (Round.continues_of_take? took).trans (Drive.continues_onward lane outcome taken)
      refine ⟨sound, fun _ => ⟨_, _, ⟨rfl, rfl⟩, rfl, tells, continues.faithful here.faithful, here.distinct,
        entries later, here.inOrder, ?_⟩, kept.concluded, fun decided => absurd rfl decided,
        fun cancelled => (nomatch cancelled), ?_, ?_⟩
      · rw [continues.context, here.data, note]
        rfl
      · have same : noted.rounds = p.turn.drive.rounds := by
          rw [note]
          rfl
        exact same.trans (one _)
      · rw [note]
        exact kept.type
    | @ends lane outcome taken noted sent desk later took note patient atEnd saved =>
      have tells := here.tells.onward order noted step took
      apply kept_conclude _ kept here.here (tells.complete atEnd) tells.called here.inOrder
      · rw [note]
        rfl
      · rw [note]
        rfl
    | @finalizes lane outcome taken noted swept sent desk later took note gaveUp sweep saved =>
      have tells := here.tells.take took
      apply kept_conclude _ kept here.here (tells.swept Round.givenUp) tells.called here.inOrder
      · rw [sweep, note]
        rfl
      · rw [sweep, note]
        rfl
    | works desk i later speaks =>
      obtain ⟨_, sends⟩ := Round.sends_work s scene desk round i
      have tells := here.tells.shifts (Round.shifts_work s scene desk order i) sends.continues.called
        (Round.timeouts_work s scene desk round i)
      have used := congrArg Identifiers.used (Round.identifiers_work s scene desk round i)
      have spent := entries (later.trans used.ge)
      refine ⟨sound, fun _ => ⟨_, c, ⟨rfl, rfl⟩, here.here, tells, sends.continues.faithful here.faithful,
        here.distinct, spent, here.inOrder, ?_⟩, kept.concluded, fun decided => absurd rfl decided,
        fun cancelled => (nomatch cancelled), kept.rounds, kept.type⟩
      rw [sends.continues.context]
      exact here.data
    | asks =>
      exact ⟨sound, fun _ => ⟨round, c, here.asked⟩, kept.concluded, kept.ended, kept.cancelled, kept.rounds,
        kept.type⟩
    | abandons desk later requested saved =>
      exact ⟨sound, fun underWay => (nomatch underWay), kept.concluded, fun _ other => absurd rfl other,
        fun _ => ⟨_, rfl, here.tells.swept _⟩, one _, kept.type⟩
  · obtain ⟨-, rfl⟩ := next.asked_of_decided underWay
    exact ⟨sound, fun now => absurd now underWay, kept.concluded, kept.ended, kept.cancelled, kept.rounds,
      kept.type⟩

theorem Run.kept {d : Drive} (run : Run s p history sent q) (kept : p.Kept d step nodeSteps) :
    q.Kept d step nodeSteps := by
  induction run with
  | refl => exact kept
  | snoc _ next ih => exact next.kept ih

theorem kept_dispatch (s : Settings) (scene : Scene) (desk : Desk) (d : Drive) (step : Step)
    (nodeSteps : List NodeStep) :
    let turn := Drive.dispatch s scene desk d step nodeSteps nodeSteps
    Kept d step nodeSteps ⟨turn, [], turn.chapter? scene⟩ where
  sound := by apply Turn.inOrder_dispatch
  underWay _ := at_dispatch desk (.refl nodeSteps) rfl rfl
  concluded _ member := nomatch member
  ended decided := absurd rfl decided
  cancelled cancelled := nomatch cancelled
  rounds := rfl
  type := rfl

/-- A step begins with its proceedings in order. -/
theorem kept_opening (s : Settings) (scene : Scene) (desk : Desk) (d : Drive) (step : Step)
    (nodeSteps : List NodeStep) : (opening s scene desk d step nodeSteps).Kept d step nodeSteps := by
  have first := kept_dispatch s scene desk d step nodeSteps
  by_cases empty : nodeSteps = []
  · -- The one round of an empty step has nobody to wait for.
    subst empty
    have complete : Chapter.Complete ⟨[], scene.unreachable, []⟩ :=
      ⟨fun _ member => (nomatch member), fun _ inside => absurd inside (Nat.not_lt_zero _)⟩
    exact kept_conclude _ first rfl complete rfl (.refl []) rfl rfl
  · rw [opening, Drive.firstRound_of_ne_nil s scene desk d step nodeSteps empty, if_neg empty]
    exact first

/-! ### Every course has proceedings -/

/-- Whatever move is made, it can be minuted. -/
theorem exists_next {d : Drive} {u : Turn} (kept : p.Kept d step nodeSteps) (move : Turn.Move s p.turn u) :
    ∃ scene motion sent q, Next s p scene motion sent q ∧ q.turn = u := by
  cases move with
  | @settle step' nodeSteps' round scene desk inRound later =>
    obtain ⟨round', c, here⟩ := kept.underWay inRound.1
    obtain ⟨⟨ops, effects⟩, -⟩ := Drive.saves_settle s scene desk p.turn.drive step' nodeSteps' round
    by_cases ends : Turn.EndsRound p.turn (Drive.settle s scene desk p.turn.drive step' nodeSteps' round)
    · exact ⟨_, _, _, _, .concludes scene desk inRound here.here later rfl effects ends, rfl⟩
    · exact ⟨_, _, _, _, .settles scene desk inRound here.here later rfl effects ends, rfl⟩
  | @work step' nodeSteps' round scene desk i inRound later =>
    obtain ⟨sent, speaks⟩ := Round.speaks_work s scene desk round i
    have went := Drive.work_dispatching s scene desk i inRound.2
    have effects : (p.turn.drive.work s scene desk p.turn.drive.rounds i).2.effects = desk.effects ++ sent := by
      rw [went]
      exact speaks.effects
    exact ⟨_, _, _, _, .works scene desk i inRound later rfl effects, rfl⟩
  | request => exact ⟨⟨0, fun _ => true, fun _ => false⟩, _, _, _, .asks _, rfl⟩
  | @abandon step' nodeSteps' round scene desk inRound requested later =>
    obtain ⟨round', c, here⟩ := kept.underWay inRound.1
    have saves : desk.Saves (Drive.abandon scene desk p.turn.drive round).desk :=
      .trans (.save _ desk) (.refl rfl)
    obtain ⟨ops, effects⟩ := saves
    exact ⟨_, _, _, _, .abandons scene desk inRound here.here requested later rfl effects, rfl⟩

/-- **Every course has proceedings**: whatever is true of all proceedings of a step is true of whatever a
drive does to it. -/
theorem exists_run {u : Turn} (s : Settings) (scene : Scene) (desk : Desk) (d : Drive) (step : Step)
    (nodeSteps : List NodeStep)
    (course : Turn.Course s (Drive.firstRound s scene desk d step nodeSteps) u) :
    ∃ history sent q, Run s (opening s scene desk d step nodeSteps) history sent q ∧ q.turn = u := by
  induction course with
  | refl => exact ⟨[], [], _, .refl, rfl⟩
  | tail _ move ih =>
    obtain ⟨history, sent, q, run, rfl⟩ := ih
    obtain ⟨scene', motion, more, r, next, rfl⟩ :=
      exists_next (run.kept (kept_opening s scene desk d step nodeSteps)) move
    exact ⟨_, _, r, run.snoc next, rfl⟩

end Proceedings

end Muster.Engine
