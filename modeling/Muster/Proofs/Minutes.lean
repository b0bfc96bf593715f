import Muster.Proofs.Lane

/-!
# The minutes of a round

A `Chapter` is an account of one round from outside: who was called up, which agents were stored as
unreachable when it was set up, and in which order and how the node steps were done with. `Chapter.closing?`
asks it for one position, whatever the order. While a round is under way its chapter tells the same about
every node step as its lane does (`Chapter.Tells`), so what the round returns at last can be read
off the chapter (`Chapter.returned_eq`).
-/

set_option autoImplicit false

namespace Muster.Engine

open Relation (ReflTransGen)

/-- How a node step of a round was done with. -/
inductive Closing where
  /-- Its outcome was settled. -/
  | settled (outcome : Outcome)
  /-- Its outcome was not waited for any more. -/
  | givenUp (disposition : Disposition)
  deriving DecidableEq

namespace Closing

/-- What is recorded for the node. -/
def disposition : Closing → Disposition
  | .settled outcome => outcome.disposition
  | .givenUp disposition => disposition

/-- The outcome that was settled. -/
def outcome? : Closing → Option Outcome
  | .settled outcome => some outcome
  | .givenUp _ => none

/-- The data that the node step returned; there is none unless it succeeded. -/
def data? (closing : Closing) : Option ReturnData := closing.outcome?.bind Outcome.data?

theorem succeeded_of_data? {closing : Closing} {data : ReturnData} (here : closing.data? = some data) :
    closing.disposition = .succeeded := by
  cases closing with
  | settled outcome =>
    cases outcome with
    | succeeded data => rfl
    | _ => cases here
  | givenUp disposition => cases here

end Closing

/-- A node step of a round is done with. -/
structure Minute where
  position : Nat
  nodeStep : NodeStep
  closing : Closing

namespace Minute

/-- How the node step at a position was done with, according to some minutes. -/
def closing? (minutes : List Minute) (i : Nat) : Option Closing :=
  (minutes.find? fun m => m.position = i).map Minute.closing

/-- The outcome that was handed in first is settled. -/
def first (r : Round) (lane : Lane) (outcome : Outcome) : Minute :=
  ⟨r.outcomes.headD 0, lane.nodeStep, .settled outcome⟩

/-- A round is given up for all who are not settled. -/
def swept (ending : Slot → Disposition) (start : Nat) : List Lane → List Minute
  | [] => []
  | lane :: rest =>
    if lane.slot.isSettled then swept ending (start + 1) rest
    else ⟨start, lane.nodeStep, .givenUp (ending lane.slot)⟩ :: swept ending (start + 1) rest

variable {minutes more : List Minute} {i start : Nat} {lanes : List Lane} {ending : Slot → Disposition}

theorem closing?_append (minutes more : List Minute) (i : Nat) :
    closing? (minutes ++ more) i = (closing? minutes i).or (closing? more i) := by
  rw [closing?, List.find?_append, closing?, closing?]
  cases minutes.find? fun m => m.position = i <;> rfl

theorem closing?_singleton (m : Minute) (i : Nat) :
    closing? [m] i = if m.position = i then some m.closing else none := by
  by_cases here : m.position = i <;> simp [closing?, here]

/-- Those are given up who are not settled. -/
theorem closing?_swept (ending : Slot → Disposition) (start : Nat) (lanes : List Lane) (i : Nat) :
    closing? (swept ending start lanes) (start + i) = (lanes[i]?).bind fun lane =>
      if lane.slot.isSettled then none else some (.givenUp (ending lane.slot)) := by
  have elsewhere (start : Nat) (lanes : List Lane) (j : Nat) (before : j < start) :
      closing? (swept ending start lanes) j = none := by
    induction lanes generalizing start with
    | nil => rfl
    | cons lane rest ih =>
      have differ : start ≠ j := by omega
      rw [swept]
      split
      · exact ih (start + 1) (by omega)
      · rw [closing?, List.find?_cons_of_neg (by simpa using differ)]
        exact ih (start + 1) (by omega)
  induction lanes generalizing start i with
  | nil => rfl
  | cons lane rest ih =>
    rw [swept]
    cases i with
    | zero =>
      split
      · next settled =>
        rw [elsewhere (start + 1) rest (start + 0) (by omega)]
        simp [settled]
      · next unsettled => simp [closing?, unsettled]
    | succ i =>
      have next := ih (start + 1) i
      rw [Nat.add_assoc, Nat.add_comm 1] at next
      split
      · exact next
      · rw [closing?, List.find?_cons_of_neg (by simp)]
        exact next

theorem mem_swept {m : Minute} (member : m ∈ swept ending start lanes) :
    ∃ i lane, lanes[i]? = some lane ∧ lane.slot.isSettled = false ∧
      m = ⟨start + i, lane.nodeStep, .givenUp (ending lane.slot)⟩ := by
  induction lanes generalizing start with
  | nil => cases member
  | cons lane rest ih =>
    have later (member : m ∈ swept ending (start + 1) rest) : ∃ i lane', (lane :: rest)[i]? = some lane' ∧
        lane'.slot.isSettled = false ∧ m = ⟨start + i, lane'.nodeStep, .givenUp (ending lane'.slot)⟩ := by
      obtain ⟨i, lane', here, unsettled, rfl⟩ := ih member
      exact ⟨i + 1, lane', here, unsettled, by rw [Nat.add_assoc, Nat.add_comm 1]⟩
    rw [swept] at member
    split at member
    · exact later member
    · next unsettled =>
      rcases List.mem_cons.1 member with rfl | member
      · exact ⟨0, lane, rfl, Bool.eq_false_iff.2 unsettled, rfl⟩
      · exact later member

/-- What minutes mean for the record of a step. -/
def enter (state : StepState) (minutes : List Minute) : StepState :=
  minutes.foldl (fun state m => state.classify m.nodeStep.nodeId m.closing.disposition) state

theorem enter_append (state : StepState) (minutes more : List Minute) :
    enter state (minutes ++ more) = enter (enter state minutes) more :=
  List.foldl_append ..

/-- Giving up a round enters its minutes. -/
theorem enter_swept (ending : Slot → Disposition) (r : Round) (state : StepState) :
    enter state (swept ending 0 r.lanes) = r.sweep ending state := by
  have all (start : Nat) : enter state (swept ending start r.lanes) = r.sweep ending state := by
    rw [Round.sweep]
    induction r.lanes generalizing start state with
    | nil => rfl
    | cons lane rest ih =>
      rw [swept, List.foldl_cons]
      split
      · exact ih state (start + 1)
      · exact ih (state.classify lane.nodeStep.nodeId (ending lane.slot)) (start + 1)
  exact all 0

/-- What is entered depends on how nodes have ended before, and on nothing else. -/
theorem endings_enter {state state' : StepState} (same : state.endings = state'.endings)
    (minutes : List Minute) : (enter state minutes).endings = (enter state' minutes).endings := by
  induction minutes generalizing state state' with
  | nil => exact same
  | cons m rest ih => exact ih (StepState.endings_classify same m.nodeStep.nodeId m.closing.disposition)

end Minute

/-! ### Chapters -/

/-- An account of a round. -/
structure Chapter where
  /-- Who takes part, under their identifiers. -/
  called : List (String × NodeStep)
  /-- Which nodes had an agent stored as unreachable when the round was set up. -/
  unreachable : String → Bool
  /-- Who is done with, the oldest first. -/
  minutes : List Minute

namespace Chapter

/-- The chapter with more minutes. -/
def add (c : Chapter) (minutes : List Minute) : Chapter := { c with minutes := c.minutes ++ minutes }

/-- How the node step at a position was done with. -/
def closing? (c : Chapter) (i : Nat) : Option Closing := Minute.closing? c.minutes i

/-- The outcomes that were settled, the oldest first. -/
def outcomes (c : Chapter) : List Outcome := c.minutes.filterMap fun m => m.closing.outcome?

/-- The data of the node steps that succeeded, in the order in which they were called up. -/
def returned (c : Chapter) : List ReturnData :=
  (List.range c.called.length).filterMap fun i => (c.closing? i).bind Closing.data?

/-- The timeouts that some outcomes end with. -/
def streak (outcomes : List Outcome) : Nat :=
  (outcomes.reverse.takeWhile fun outcome => outcome = .timedOut).length

/-- Nobody is done with twice. -/
def Proper (c : Chapter) : Prop :=
  ∀ m ∈ c.minutes, c.closing? m.position = some m.closing ∧
    (c.called[m.position]?).map Prod.snd = some m.nodeStep

/-- Everybody is done with, once. -/
structure Complete (c : Chapter) : Prop where
  proper : c.Proper
  everybody : ∀ i < c.called.length, (c.closing? i).isSome = true

variable {c : Chapter} {r t : Round} {minutes : List Minute} {i : Nat} {m : Minute}

theorem closing?_add (c : Chapter) (minutes : List Minute) (i : Nat) :
    (c.add minutes).closing? i = (c.closing? i).or (Minute.closing? minutes i) :=
  Minute.closing?_append ..

theorem closing?_add_of_some {closing : Closing} (here : c.closing? i = some closing) (minutes : List Minute) :
    (c.add minutes).closing? i = some closing := by
  rw [closing?_add, here]
  rfl

theorem add_nil (c : Chapter) : c.add [] = c := by
  rw [add, List.append_nil]

theorem add_add (c : Chapter) (minutes more : List Minute) :
    (c.add minutes).add more = c.add (minutes ++ more) := by
  simp only [add, List.append_assoc]

theorem streak_concat (outcomes : List Outcome) (outcome : Outcome) :
    streak (outcomes ++ [outcome]) = if outcome = .timedOut then streak outcomes + 1 else 0 := by
  rw [streak, List.reverse_append, List.reverse_singleton, List.singleton_append, List.takeWhile_cons]
  by_cases timedOut : outcome = .timedOut <;> simp [timedOut, streak]

theorem outcomes_add_first (c : Chapter) (r : Round) (lane : Lane) (outcome : Outcome) :
    (c.add [.first r lane outcome]).outcomes = c.outcomes ++ [outcome] := by
  simp [outcomes, add, Minute.first, List.filterMap_append, Closing.outcome?]

theorem Proper.add (proper : c.Proper) (once : ∀ m ∈ minutes,
    c.closing? m.position = none ∧ Minute.closing? minutes m.position = some m.closing ∧
      (c.called[m.position]?).map Prod.snd = some m.nodeStep) : (c.add minutes).Proper := by
  intro m member
  rcases List.mem_append.1 member with old | new
  · obtain ⟨closed, called⟩ := proper m old
    exact ⟨closing?_add_of_some closed minutes, called⟩
  · obtain ⟨none, closed, called⟩ := once m new
    refine ⟨?_, called⟩
    rw [closing?_add, none, closed]
    rfl

/-! ### A chapter tells of its round -/

/-- The chapter of a round that is under way tells the same as the lanes of the round. -/
structure Tells (c : Chapter) (r : Round) : Prop where
  called : r.called = c.called
  closings : ∀ i slot, r.slot? i = some slot →
    (c.closing? i).isSome = slot.isSettled ∧ (c.closing? i).bind Closing.data? = slot.data?
  proper : c.Proper
  timeouts : r.timeouts = streak c.outcomes

/-- A chapter is opened together with its round. -/
theorem tells_begin (s : Settings) (scene : Scene) (skip : Bool) (context : RoundContext)
    (named : List (String × NodeStep)) (unreachable : String → Bool) :
    Tells ⟨(Round.begin s scene skip context named).called, unreachable, []⟩
      (Round.begin s scene skip context named) where
  called := rfl
  closings i slot here := by
    simp only [Round.slot?, Option.map_eq_some_iff] at here
    obtain ⟨lane, there, rfl⟩ := here
    have unsettled := Round.unsettled_begin s scene skip context named (List.mem_of_getElem? there)
    cases found : lane.slot with
    | settled data =>
      rw [found] at unsettled
      cases unsettled
    | _ => exact ⟨rfl, rfl⟩
  proper _ member := nomatch member
  timeouts := rfl

/-- A round that goes on without settling anybody has the same chapter. -/
theorem Tells.shifts {halted : Bool} (tells : c.Tells r) (shifts : Round.Shifts halted r t)
    (called : t.called = r.called) (timeouts : t.timeouts = r.timeouts) : c.Tells t where
  called := called.trans tells.called
  closings i slot here := by
    simp only [Round.slot?, Option.map_eq_some_iff] at here
    obtain ⟨lane', there', rfl⟩ := here
    obtain ⟨lane, there, -, -, goes⟩ := shifts i lane' there'
    rw [Slot.isSettled_goes goes, Slot.data?_goes goes]
    exact tells.closings i lane.slot (Round.slot?_of_lane there)
  proper := tells.proper
  timeouts := timeouts.trans tells.timeouts

theorem Tells.none_of_unsettled {lane : Lane} (tells : c.Tells r) (there : r.lanes[i]? = some lane)
    (unsettled : lane.slot.isSettled = false) : c.closing? i = none := by
  obtain ⟨closed, -⟩ := tells.closings i lane.slot (Round.slot?_of_lane there)
  rw [unsettled] at closed
  exact Option.isSome_eq_false_iff.1 closed |> Option.isNone_iff_eq_none.1

/-- An outcome that is settled is minuted. -/
theorem Tells.take {lane : Lane} {outcome : Outcome} (tells : c.Tells r)
    (took : r.take? = some (lane, outcome, t)) :
    (c.add [.first r lane outcome]).Tells (t.count outcome) := by
  obtain ⟨i, later, found, there, ended, rfl⟩ := Round.take?_eq_some took
  have first : Minute.first r lane outcome = ⟨i, lane.nodeStep, .settled outcome⟩ := by
    rw [Minute.first, found, List.headD_cons]
  have none : c.closing? i = none := tells.none_of_unsettled there (by rw [ended]; rfl)
  rw [first]
  refine ⟨(Round.called_setSlot r i _).trans tells.called, fun j slot here => ?_, ?_, ?_⟩
  · have moved : (r.setSlot i (.settled outcome.data?)).slot? j = some slot := here
    rw [Round.slot?_setSlot] at moved
    rw [closing?_add, Minute.closing?_singleton]
    split at moved
    · next same =>
      subst same
      rw [Round.slot?_of_lane there] at moved
      cases moved
      rw [none, if_pos rfl]
      exact ⟨rfl, rfl⟩
    · next differ =>
      rw [if_neg differ, Option.or_none]
      exact tells.closings j slot moved
  · refine tells.proper.add fun m member => ?_
    rw [List.mem_singleton.1 member]
    refine ⟨none, ?_, ?_⟩
    · rw [Minute.closing?_singleton, if_pos rfl]
    · rw [← tells.called, Round.called_getElem? there]
      rfl
  · have added : (c.add [⟨i, lane.nodeStep, .settled outcome⟩]).outcomes = c.outcomes ++ [outcome] := by
      rw [← first]
      exact outcomes_add_first ..
    have counted : (Round.count { r.setSlot i (.settled outcome.data?) with outcomes := later } outcome).timeouts
        = if outcome = .timedOut then r.timeouts + 1 else 0 := rfl
    rw [added, streak_concat, counted, tells.timeouts]

/-- The round that is left has the chapter with that minute. -/
theorem Tells.onward {lane : Lane} {outcome : Outcome} (tells : c.Tells r) (sound : r.Sound) (d : Drive)
    (step : Step) (took : r.take? = some (lane, outcome, t)) :
    (c.add [.first r lane outcome]).Tells (d.onward step lane outcome t) := by
  have shifts := Round.shifts_onward d step sound t.halted took
  exact (tells.take took).shifts shifts (Round.continues_passOn ..).called (Round.timeouts_passOn ..)

/-! ### The end of a round -/

/-- Once every outcome is settled everybody is done with. -/
theorem Tells.complete (tells : c.Tells r) (atEnd : r.isOver = true) : c.Complete where
  proper := tells.proper
  everybody i inside := by
    rw [← tells.called, ← Round.slot?_isSome, Option.isSome_iff_exists] at inside
    obtain ⟨slot, here⟩ := inside
    rw [(tells.closings i slot here).1]
    simp only [Round.slot?, Option.map_eq_some_iff] at here
    obtain ⟨lane, there, rfl⟩ := here
    exact Round.isOver_iff.1 atEnd lane (List.mem_of_getElem? there)

/-- When a round is given up, whoever is not settled ends the way that the lane says. -/
theorem Tells.closing?_swept {lane : Lane} (tells : c.Tells r) (ending : Slot → Disposition)
    (there : r.lanes[i]? = some lane) : (c.add (Minute.swept ending 0 r.lanes)).closing? i =
      if lane.slot.isSettled then c.closing? i else some (.givenUp (ending lane.slot)) := by
  have swept := Minute.closing?_swept ending 0 r.lanes i
  rw [Nat.zero_add, there, Option.bind_some] at swept
  rw [closing?_add, swept]
  split
  · exact Option.or_none
  · next unsettled =>
    rw [tells.none_of_unsettled there (Bool.eq_false_iff.2 unsettled)]
    rfl

theorem Tells.swept (tells : c.Tells r) (ending : Slot → Disposition) :
    (c.add (Minute.swept ending 0 r.lanes)).Complete where
  proper := by
    refine tells.proper.add fun m member => ?_
    obtain ⟨i, lane, there, unsettled, rfl⟩ := Minute.mem_swept member
    rw [Nat.zero_add]
    refine ⟨tells.none_of_unsettled there unsettled, ?_, ?_⟩
    · have swept := Minute.closing?_swept ending 0 r.lanes i
      rw [Nat.zero_add, there] at swept
      simpa [unsettled] using swept
    · rw [← tells.called, Round.called_getElem? there]
      rfl
  everybody i inside := by
    have listed : i < r.called.length := by
      rw [tells.called]
      exact inside
    rw [← Round.slot?_isSome, Option.isSome_iff_exists] at listed
    obtain ⟨slot, here⟩ := listed
    have closed := (tells.closings i slot here).1
    simp only [Round.slot?, Option.map_eq_some_iff] at here
    obtain ⟨lane, there, rfl⟩ := here
    rw [tells.closing?_swept ending there]
    split
    · next settled => rw [closed, settled]
    · rfl

/-! ### What a round returns -/

theorem filterMap_range {α β : Type} (l : List α) (f : α → Option β) (g : Nat → Option β)
    (same : ∀ i a, l[i]? = some a → g i = f a) : (List.range l.length).filterMap g = l.filterMap f := by
  induction l generalizing g with
  | nil => rfl
  | cons a rest ih =>
    have first := same 0 a rfl
    have others := ih (fun i => g (i + 1)) fun i b here => same (i + 1) b here
    rw [List.length_cons, List.range_succ_eq_map, List.filterMap_cons, List.filterMap_map, first,
      List.filterMap_cons]
    cases f a with
    | none => exact others
    | some b => exact congrArg (List.cons b) others

/-- **What a round returns** can be read off a chapter that tells the same about every node step. -/
theorem returned_eq (called : r.called = c.called)
    (closings : ∀ i slot, r.slot? i = some slot → (c.closing? i).bind Closing.data? = slot.data?) :
    c.returned = r.returned := by
  have length : c.called.length = r.lanes.length := by
    rw [← called, Round.called, List.length_map]
  rw [returned, length]
  exact filterMap_range r.lanes _ _ fun i lane there => closings i lane.slot (Round.slot?_of_lane there)

theorem Tells.returned (tells : c.Tells r) : c.returned = r.returned :=
  returned_eq tells.called fun i slot here => (tells.closings i slot here).2

/-- Whoever is given up returns nothing. -/
theorem Tells.returned_swept (tells : c.Tells r) (ending : Slot → Disposition) :
    (c.add (Minute.swept ending 0 r.lanes)).returned = r.returned := by
  refine returned_eq tells.called fun i slot here => ?_
  have closed := (tells.closings i slot here).2
  simp only [Round.slot?, Option.map_eq_some_iff] at here
  obtain ⟨lane, there, rfl⟩ := here
  rw [tells.closing?_swept ending there]
  cases found : lane.slot with
  | settled data =>
    rw [found] at closed
    exact closed
  | _ => rfl

end Chapter

end Muster.Engine
