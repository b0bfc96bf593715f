import Muster.Proofs.Proceedings

/-!
# How node steps are classified

The record of a step is told by its minutes: whoever is done with is entered as the minutes say, one after
the other (`Next.recorded`). Once the dispatch has been stopped, whoever still waits is passed over
(`Round.Dismisses`): it never begins, and is classified as not dispatched when the round comes to its
end (`Next.dismissed`).
-/

set_option autoImplicit false

namespace Muster.Engine

/-! ### What is recorded -/

namespace Drive

variable {d : Drive} {step : Step} {nodeSteps : List NodeStep} {round : Round}

/-- The end of a round changes nothing about how nodes have ended. -/
theorem endings_concludeRound (s : Settings) (scene : Scene) (desk : Desk) (inRange : d.InRange) :
    (concludeRound s scene desk d step nodeSteps round).drive.InRange ∧
    (concludeRound s scene desk d step nodeSteps round).drive.state.endings = d.state.endings := by
  have collected : (d.collect scene round).InRange := inRange
  have marked (status : StepStatus) : ((d.collect scene round).setStatus status).InRange ∧
      ((d.collect scene round).setStatus status).state.endings = d.state.endings :=
    ⟨inRange_modifyState collected _, endings_setStatus collected status⟩
  have cases := concludeRound_cases s scene desk d step nodeSteps round
  generalize concludeRound s scene desk d step nodeSteps round = u at cases ⊢
  cases cases with
  | proceeds decided => exact marked .successful
  | aborts reason decided => exact marked .error
  | nothingLeft decided none => exact marked .error
  | retries decided some =>
    have endings := congrArg StepState.endings (state_dispatch s scene ((d.collect scene round).save (round.close desk))
      step nodeSteps (round.again (d.collect scene round).state) collected)
    exact ⟨inRange_dispatch _ _ _ _ _ _ collected, endings⟩

end Drive

namespace Proceedings

variable {s : Settings} {p q r : Proceedings} {scene : Scene} {motion : Motion} {sent more : List Effect}
  {history later : List (Scene × Motion)} {step : Step} {nodeSteps : List NodeStep} {round : Round}
  {c : Chapter} {d : Drive} {i : Nat}

/-- All minutes, the oldest first. -/
def minutes (p : Proceedings) : List Minute := p.chapters.flatMap Chapter.minutes

/-- The record of the step tells how nodes ended as the minutes do. -/
structure Recorded (state : StepState) (p : Proceedings) : Prop where
  inRange : p.turn.drive.InRange
  endings : p.turn.drive.state.endings = (Minute.enter state p.minutes).endings

theorem minutes_of_current (here : p.current? = some c) :
    p.minutes = p.concluded.flatMap Chapter.minutes ++ c.minutes := by
  rw [minutes, chapters, here, Option.toList_some, List.flatMap_append, List.flatMap_singleton]

theorem minutes_conclude (scene : Scene) (u : Turn) (c : Chapter) :
    (p.conclude scene u c).minutes = p.concluded.flatMap Chapter.minutes ++ c.minutes := by
  have fresh : (u.chapter? scene).toList.flatMap Chapter.minutes = [] := by
    rw [Turn.chapter?]
    split <;> rfl
  rw [minutes, chapters, conclude, List.flatMap_append, List.flatMap_append, List.flatMap_singleton, fresh,
    List.append_nil]

/-- **Every minute is entered in the record**, in the order of the minutes. -/
theorem Next.recorded {state : StepState} (kept : p.Kept d step nodeSteps)
    (next : Next s p scene motion sent q) (recorded : p.Recorded state) : q.Recorded state := by
  obtain ⟨inRange, endings⟩ := recorded
  by_cases underWay : p.turn.verdict = .underWay
  · obtain ⟨round, c, here⟩ := kept.underWay underWay
    rw [minutes_of_current here.here] at endings
    -- More minutes are entered after those of the chapter.
    have more {e : Drive} {ms : List Minute} (after : e.state = Minute.enter p.turn.drive.state ms) :
        e.state.endings = (Minute.enter state
          (p.concluded.flatMap Chapter.minutes ++ (c.add ms).minutes)).endings := by
      rw [after, Chapter.add, ← List.append_assoc, Minute.enter_append state]
      exact Minute.endings_enter endings ms
    have noted {lane : Lane} {outcome : Outcome} {noted : Drive}
        (note : noted = p.turn.drive.note scene lane.nodeStep outcome) : noted.InRange ∧
          noted.state = Minute.enter p.turn.drive.state [.first round lane outcome] := by
      rw [note]
      exact ⟨Drive.inRange_note inRange _ _, Drive.state_note scene inRange _ _⟩
    cases next.stage here with
    | idle desk later none => exact ⟨inRange, minutes_of_current here.here ▸ endings⟩
    | settles desk later took note patient busy saved =>
      obtain ⟨inRange', state'⟩ := noted note
      refine ⟨inRange', ?_⟩
      rw [minutes_of_current rfl]
      exact more state'
    | @ends lane outcome taken noted' sent desk later took note patient atEnd saved =>
      obtain ⟨inRange', state'⟩ := noted note
      obtain ⟨still, same⟩ := Drive.endings_concludeRound s scene (noted'.save desk) inRange'
      exact ⟨still, same.trans (minutes_conclude scene _ _ ▸ more state')⟩
    | @finalizes lane outcome taken noted' swept sent desk later took note gaveUp sweep saved =>
      obtain ⟨inRange', state'⟩ := noted note
      have inRange'' : swept.InRange := by
        rw [sweep]
        exact Drive.inRange_modifyState inRange' _
      have state'' : swept.state = Minute.enter p.turn.drive.state ([.first round lane outcome] ++
          Minute.swept Round.givenUp 0 (taken.count outcome).lanes) := by
        rw [Minute.enter_append, ← state', Minute.enter_swept, sweep, Drive.state_modifyState inRange']
      obtain ⟨still, same⟩ := Drive.endings_concludeRound s scene (swept.save (noted'.save desk)) inRange''
      refine ⟨still, same.trans ?_⟩
      rw [minutes_conclude, Chapter.add_add]
      exact more state''
    | works desk i later speaks => exact ⟨inRange, minutes_of_current here.here ▸ endings⟩
    | asks => exact ⟨inRange, minutes_of_current here.here ▸ endings⟩
    | abandons desk later requested saved =>
      let ending : Slot → Disposition := fun _ => .failed "cancelled"
      have swept : (p.turn.drive.modifyState (round.sweep ending)).state =
          Minute.enter p.turn.drive.state (Minute.swept ending 0 round.lanes) := by
        rw [Minute.enter_swept, Drive.state_modifyState inRange]
      have inRange' : (p.turn.drive.modifyState (round.sweep ending)).InRange :=
        Drive.inRange_modifyState inRange _
      have marked : (Drive.abandon scene desk p.turn.drive round).drive.state.endings =
          (p.turn.drive.modifyState (round.sweep ending)).state.endings :=
        Drive.endings_setStatus inRange' .error
      refine ⟨Drive.inRange_modifyState inRange' _, marked.trans ?_⟩
      rw [minutes_of_current rfl]
      exact more swept
  · obtain ⟨-, rfl⟩ := next.asked_of_decided underWay
    exact ⟨inRange, endings⟩

theorem Run.recorded {state : StepState} (run : Run s p history sent q) (kept : p.Kept d step nodeSteps)
    (recorded : p.Recorded state) : q.Recorded state := by
  induction run with
  | refl => exact recorded
  | snoc run next ih => exact next.recorded (run.kept kept) ih

theorem recorded_opening (s : Settings) (scene : Scene) (desk : Desk) (step : Step)
    (nodeSteps : List NodeStep) (inRange : d.InRange) :
    (opening s scene desk d step nodeSteps).Recorded d.state := by
  have begun := Drive.inRange_dispatch s scene desk step nodeSteps nodeSteps inRange
  have endings := congrArg StepState.endings (Drive.state_dispatch s scene desk step nodeSteps nodeSteps inRange)
  by_cases empty : nodeSteps = []
  · subst empty
    obtain ⟨still, same⟩ := Drive.endings_concludeRound s scene
      (Drive.dispatch s scene desk d step [] []).desk begun
    let before : Proceedings := ⟨Drive.dispatch s scene desk d step [] [], [], none⟩
    have none : (opening s scene desk d step []).minutes = [] :=
      minutes_conclude (p := before) scene _ ⟨[], scene.unreachable, []⟩
    refine ⟨still, ?_⟩
    rw [none]
    exact same.trans endings
  · rw [opening, Drive.firstRound_of_ne_nil s scene desk d step nodeSteps empty, if_neg empty]
    exact ⟨begun, endings⟩

/-! ### Whoever is passed over -/

end Proceedings

/-- A node step is classified as failed, since it was not dispatched. -/
def Chapter.Undispatched (c : Chapter) (i : Nat) : Prop :=
  ∃ closing, c.closing? i = some closing ∧ closing.disposition = .failed "not dispatched"

theorem Chapter.Undispatched.add {c : Chapter} {i : Nat} (undispatched : c.Undispatched i)
    (minutes : List Minute) : (c.add minutes).Undispatched i := by
  obtain ⟨closing, here, failed⟩ := undispatched
  exact ⟨closing, closing?_add_of_some here minutes, failed⟩

namespace Round

variable {r t : Round} {c : Chapter} {i : Nat} {lane : Lane} {outcome : Outcome}

/-- The dispatch has been stopped, and the node step at a position has not begun. -/
structure Dismisses (c : Chapter) (i : Nat) (r : Round) : Prop where
  halted : r.halted = true
  never : ∃ slot, r.slot? i = some slot ∧
    (slot.Waiting ∨ slot = .ended .notDispatched ∨ (slot.isSettled = true ∧ c.Undispatched i))

theorem Dismisses.not_begun (dismisses : r.Dismisses c i) {slot : Slot} (here : r.slot? i = some slot) :
    slot.begun = false := by
  obtain ⟨slot', here', waits | rfl | ⟨settled, -⟩⟩ := dismisses.never
  · cases here.symm.trans here'
    exact Bool.eq_false_iff.2 fun begun => Slot.not_waiting_of_begun begun waits
  · cases here.symm.trans here'
    rfl
  · cases here.symm.trans here'
    cases slot with
    | settled data => rfl
    | _ => cases settled

/-- Whoever is passed over stays so as the round goes on. -/
theorem Dismisses.shifts (dismisses : r.Dismisses c i) (shifts : Shifts true r t)
    (called : t.called = r.called) (halted : t.halted = true) : t.Dismisses c i := by
  obtain ⟨slot, here, never⟩ := dismisses.never
  have inside : i < t.called.length := by
    rw [called, ← slot?_isSome, here]
    rfl
  obtain ⟨slot', here'⟩ := Option.isSome_iff_exists.1 ((slot?_isSome t i).2 inside)
  refine ⟨halted, slot', here', ?_⟩
  simp only [slot?, Option.map_eq_some_iff] at here'
  obtain ⟨lane', there', rfl⟩ := here'
  obtain ⟨lane, there, -, -, goes⟩ := shifts i lane' there'
  rw [slot?_of_lane there] at here
  cases here
  rcases never with waits | ended | ⟨settled, undispatched⟩
  · rcases Slot.waiting_or_left goes waits with waits' | left
    · exact .inl waits'
    · exact .inr (.inl left)
  · rw [ended] at goes
    exact .inr (.inl (Slot.eq_of_ended goes))
  · rw [Slot.eq_of_settled goes settled]
    exact .inr (.inr ⟨settled, undispatched⟩)

/-- Whoever is passed over stays so when an outcome is settled. -/
theorem Dismisses.take (dismisses : r.Dismisses c i) (tells : c.Tells r)
    (took : r.take? = some (lane, outcome, t)) :
    (t.count outcome).Dismisses (c.add [.first r lane outcome]) i := by
  obtain ⟨slot, here, never⟩ := dismisses.never
  refine ⟨(halted_of_take? took).trans dismisses.halted, ?_⟩
  by_cases first : r.outcomes.headD 0 = i
  · refine ⟨.settled outcome.data?, by rw [slot?_of_take? took, if_pos first], .inr (.inr ⟨rfl, ?_⟩)⟩
    have ended := slot?_headD took
    rw [first, here] at ended
    cases ended
    have none : c.closing? i = none := by
      have closed := (tells.closings i _ here).1
      cases found : c.closing? i with
      | none => rfl
      | some closing =>
        rw [found] at closed
        cases closed
    rcases never with waits | ended | ⟨settled, -⟩
    · exact waits.elim
    · cases ended
      refine ⟨.settled .notDispatched, ?_, rfl⟩
      rw [Chapter.closing?_add, none, Minute.closing?_singleton]
      exact if_pos first
    · cases settled
  · refine ⟨slot, by rw [slot?_of_take? took, if_neg first, here], ?_⟩
    rcases never with waits | ended | ⟨settled, undispatched⟩
    · exact .inl waits
    · exact .inr (.inl ended)
    · exact .inr (.inr ⟨settled, undispatched.add _⟩)

/-- When waiting is given up whoever is passed over is classified as not dispatched. -/
theorem Dismisses.swept (dismisses : r.Dismisses c i) (tells : c.Tells r) :
    (c.add (Minute.swept givenUp 0 r.lanes)).Undispatched i := by
  obtain ⟨slot, here, never⟩ := dismisses.never
  have idle := dismisses.not_begun here
  have lane := here
  simp only [slot?, Option.map_eq_some_iff] at lane
  obtain ⟨lane, there, rfl⟩ := lane
  have closing := tells.closing?_swept givenUp there
  have failed : givenUp lane.slot = .failed "not dispatched" := by
    rw [givenUp, idle, if_neg Bool.false_ne_true]
  rcases never with waits | ended | ⟨-, undispatched⟩
  · rw [waits.isSettled, if_neg Bool.false_ne_true] at closing
    exact ⟨_, closing, failed⟩
  · rw [ended, if_neg (by simp [Slot.isSettled])] at closing
    exact ⟨_, closing, ended ▸ failed⟩
  · exact undispatched.add _

theorem Dismisses.onward (dismisses : r.Dismisses c i) (tells : c.Tells r) (sound : r.Sound) (d : Drive)
    (step : Step) (took : r.take? = some (lane, outcome, t)) :
    (d.onward step lane outcome t).Dismisses (c.add [.first r lane outcome]) i := by
  have taken := dismisses.take tells took
  have halted := halted_onward d step lane outcome t
  rw [show t.halted = true from taken.halted, Bool.true_or] at halted
  exact taken.shifts (shifts_onward d step sound true took) (continues_passOn ..).called halted

/-- Once every outcome is settled whoever was passed over is classified. -/
theorem Dismisses.undispatched (dismisses : r.Dismisses c i) (atEnd : r.isOver = true) : c.Undispatched i := by
  obtain ⟨slot, here, never⟩ := dismisses.never
  simp only [slot?, Option.map_eq_some_iff] at here
  obtain ⟨lane, there, rfl⟩ := here
  have settled := isOver_iff.1 atEnd lane (List.mem_of_getElem? there)
  rcases never with waits | ended | ⟨-, undispatched⟩
  · rw [waits.isSettled] at settled
    cases settled
  · rw [ended] at settled
    cases settled
  · exact undispatched

end Round

namespace Proceedings

variable {s : Settings} {p q r : Proceedings} {scene : Scene} {motion : Motion} {sent more : List Effect}
  {history later : List (Scene × Motion)} {step : Step} {nodeSteps : List NodeStep} {round : Round}
  {c : Chapter} {d : Drive} {i k : Nat}

/-- After so many rounds there was one in which the node step at a position has been passed over. -/
inductive Dismissed (k i : Nat) (p : Proceedings) : Prop where
  /-- The round has come to its end. -/
  | past (c : Chapter) (there : p.concluded[k]? = some c) (undispatched : c.Undispatched i)
  /-- The round is under way, or was cancelled. -/
  | still (count : p.concluded.length = k) (c : Chapter) (here : p.current? = some c)
      (dismisses : ∀ step nodeSteps round, p.turn.InRound step nodeSteps round → round.Dismisses c i)

theorem Dismissed.not_begun (dismissed : p.Dismissed k i) (within : p.concluded.length = k)
    (inRound : p.turn.InRound step nodeSteps round) {slot : Slot} (here : round.slot? i = some slot) :
    slot.begun = false := by
  cases dismissed with
  | past c there undispatched =>
    have inside := (List.getElem?_eq_some_iff.1 there).1
    omega
  | still count c current dismisses => exact (dismisses step nodeSteps round inRound).not_begun here

theorem Dismissed.undispatched (dismissed : p.Dismissed k i) (there : p.concluded[k]? = some c) :
    c.Undispatched i := by
  cases dismissed with
  | past c' there' undispatched =>
    obtain rfl := Option.some.inj (there.symm.trans there')
    exact undispatched
  | still count c' current dismisses =>
    have inside := (List.getElem?_eq_some_iff.1 there).1
    omega

theorem dismissed_of_inRound (count : p.concluded.length = k) (here : p.current? = some c)
    (inRound : p.turn.InRound step nodeSteps round) (dismisses : round.Dismisses c i) : p.Dismissed k i := by
  refine .still count c here fun step' nodeSteps' round' inRound' => ?_
  obtain ⟨-, -, rfl⟩ := inRound.unique inRound'
  exact dismisses

theorem dismissed_conclude {u : Turn} (count : p.concluded.length = k) (undispatched : c.Undispatched i) :
    (p.conclude scene u c).Dismissed k i := by
  refine .past c ?_ undispatched
  rw [conclude, ← count, List.getElem?_append_right (Nat.le_refl _), Nat.sub_self]
  rfl

/-- **Whoever has been passed over** is not begun, and is classified as not dispatched at last. -/
theorem Next.dismissed (kept : p.Kept d step nodeSteps) (next : Next s p scene motion sent q)
    (dismissed : p.Dismissed k i) : q.Dismissed k i := by
  cases dismissed with
  | past c there undispatched =>
    have inside : k < p.concluded.length := (List.getElem?_eq_some_iff.1 there).1
    have kept' (concluded : p.concluded <+: q.concluded) : q.Dismissed k i := by
      obtain ⟨rest, same⟩ := concluded
      refine .past c ?_ undispatched
      rw [← same, List.getElem?_append_left inside]
      exact there
    exact kept' next.concluded_prefix
  | still count c here dismisses =>
    by_cases underWay : p.turn.verdict = .underWay
    · obtain ⟨round, c', here'⟩ := kept.underWay underWay
      obtain rfl : c = c' := Option.some.inj (here.symm.trans here'.here)
      have order := kept.sound step nodeSteps round here'.inRound
      have passed := dismisses step nodeSteps round here'.inRound
      cases next.stage here' with
      | idle desk later none => exact dismissed_of_inRound count here ⟨rfl, here'.inRound.2⟩ passed
      | @settles lane outcome taken noted sent desk later took note patient busy saved =>
        exact dismissed_of_inRound count rfl ⟨rfl, rfl⟩ (passed.onward here'.tells order noted step took)
      | @ends lane outcome taken noted sent desk later took note patient atEnd saved =>
        apply dismissed_conclude count
        exact (passed.onward here'.tells order noted step took).undispatched atEnd
      | finalizes desk later took note gaveUp sweep saved =>
        apply dismissed_conclude count
        exact (passed.take here'.tells took).swept (here'.tells.take took)
      | works desk i later speaks =>
        have shifts := Round.shifts_work s scene desk order i
        have halted := (Round.halted_work s scene desk round i).trans passed.halted
        obtain ⟨_, sends⟩ := Round.sends_work s scene desk round i
        rw [passed.halted] at shifts
        exact dismissed_of_inRound count here ⟨rfl, rfl⟩ (passed.shifts shifts sends.continues.called halted)
      | asks => exact dismissed_of_inRound count here here'.inRound passed
      | abandons desk later requested saved =>
        exact .still count _ rfl fun _ _ _ inRound => nomatch inRound.1
    · obtain ⟨-, rfl⟩ := next.asked_of_decided underWay
      exact .still count c here fun _ _ _ inRound => absurd inRound.1 underWay

theorem Run.dismissed (run : Run s p history sent q) (kept : p.Kept d step nodeSteps)
    (dismissed : p.Dismissed k i) : q.Dismissed k i := by
  induction run with
  | refl => exact dismissed
  | snoc run next ih => exact next.dismissed (run.kept kept) ih

end Proceedings

end Muster.Engine
