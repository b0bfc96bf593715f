import Muster.Proofs.Round

/-!
# What a round sends

Every envelope of a round carries a task of one of its lanes, to the node of that lane and under its
identifier. A node step that waits remembers which tasks are left; `Exchange.Faithful` says that it
remembers them well, and `Round.Continues` is what every change of a round keeps of this.
-/

set_option autoImplicit false

namespace Muster.Engine

/-- The effect sends a task of a node step. -/
def Effect.Carries (s : Settings) (c : RoundContext) (id : String) (n : NodeStep) (effect : Effect) :
    Prop :=
  ∃ k task, n.tasks[k]? = some task ∧ effect = .send n.nodeId (Exchange.envelope s c id k task)

/-! ### One node step -/

section

variable {s : Settings} {c : RoundContext} {id : String} {n : NodeStep} {e : Exchange}

/-- A node step that waits speaks for a lane, and the tasks after the outstanding one are left. -/
structure Exchange.Faithful (id : String) (n : NodeStep) (e : Exchange) : Prop where
  nodeStepId : e.nodeStepId = id
  nodeId : e.nodeId = n.nodeId
  rest : e.rest = n.tasks.drop (e.index + 1)

/-- A move sends tasks of a node step only, and leaves it faithful. -/
structure Move.Speaks (s : Settings) (c : RoundContext) (id : String) (n : NodeStep) (move : Move) :
    Prop where
  faithful : ∀ e, move.standing = .waiting e → e.Faithful id n
  carries : ∀ effect ∈ move.effects, effect.Carries s c id n

theorem Exchange.speaks_conclude (router : ReplyRouter) (handle : Nat) (outcome : Outcome) :
    (Exchange.conclude router handle outcome).Speaks s c id n where
  faithful _ waits := nomatch waits
  carries _ member := nomatch member

theorem Exchange.speaks_dispatch {tasks : List Task} {index : Nat} (scene : Scene) (router : ReplyRouter)
    (nodeStepId : e.nodeStepId = id) (nodeId : e.nodeId = n.nodeId)
    (left : tasks = n.tasks.drop index) :
    (Exchange.dispatch s c scene router e index tasks).Speaks s c id n := by
  cases tasks with
  | nil => exact speaks_conclude ..
  | cons task rest =>
    rw [Exchange.dispatch]
    split
    · have here : n.tasks[index]? = some task := by
        rw [← List.head?_drop, ← left]
        rfl
      have after : rest = n.tasks.drop (index + 1) := by
        rw [← List.tail_drop, ← left]
        rfl
      refine ⟨fun e' waits => ?_, fun effect member => ?_⟩
      · cases waits
        exact ⟨nodeStepId, nodeId, after⟩
      · rw [List.mem_singleton.1 member, nodeId, nodeStepId]
        exact ⟨index, task, here, rfl⟩
    · exact speaks_conclude ..

theorem Exchange.speaks_begin (scene : Scene) (router : ReplyRouter) :
    (Exchange.begin s c scene router id n).Speaks s c id n :=
  speaks_dispatch scene _ rfl rfl (List.drop_zero).symm

theorem Exchange.Faithful.speaks_resume (faithful : e.Faithful id n) (scene : Scene)
    (router : ReplyRouter) : (e.resume s c scene router).Speaks s c id n := by
  simp only [Exchange.resume]
  split
  · split
    · exact speaks_conclude ..
    · split
      · exact speaks_conclude ..
      · refine ⟨fun e' waits => ?_, fun _ member => nomatch member⟩
        cases waits
        exact faithful
  · split
    · exact speaks_dispatch scene router faithful.nodeStepId faithful.nodeId faithful.rest
    · exact speaks_conclude ..

end

/-! ### A whole round -/

namespace Round

variable {r t u : Round} {i : Nat} {slot : Slot}

/-- Those who wait speak for their lanes. -/
def Faithful (r : Round) : Prop :=
  ∀ lane ∈ r.lanes, ∀ e, lane.slot = .running e → e.Faithful lane.id lane.nodeStep

/-- A round goes on as another one: the same node steps take part, in the same context. -/
structure Continues (r t : Round) : Prop where
  called : t.called = r.called
  context : t.context = r.context
  faithful : r.Faithful → t.Faithful

theorem Continues.refl (r : Round) : r.Continues r := ⟨rfl, rfl, id⟩

theorem Continues.trans (first : r.Continues t) (second : t.Continues u) : r.Continues u where
  called := second.called.trans first.called
  context := second.context.trans first.context
  faithful h := second.faithful (first.faithful h)

/-- A round whose lanes are the same goes on. -/
theorem continues_of_lanes (lanes : t.lanes = r.lanes) (context : t.context = r.context) :
    r.Continues t where
  called := by rw [called, called, lanes]
  context := context
  faithful h := by rw [Faithful, lanes]; exact h

theorem Faithful.setSlot (h : r.Faithful) (speaks : ∀ lane, r.lanes[i]? = some lane → ∀ e,
    slot = .running e → e.Faithful lane.id lane.nodeStep) : (r.setSlot i slot).Faithful := by
  intro lane member e running
  obtain ⟨j, found⟩ := List.mem_iff_getElem?.1 member
  simp only [Round.setSlot, List.getElem?_modify] at found
  by_cases same : i = j
  · subst same
    simp only [if_true, Option.map_eq_map, Option.map_eq_some_iff] at found
    obtain ⟨old, there, rfl⟩ := found
    exact speaks old there e running
  · simp only [same, if_false, Option.map_eq_map, Option.map_id_fun', id] at found
    exact h lane (List.mem_of_getElem? found) e running

theorem continues_setSlot (idle : ∀ e, slot ≠ .running e) : r.Continues (r.setSlot i slot) where
  called := called_setSlot r i slot
  context := rfl
  faithful h := h.setSlot fun _ _ e running => absurd running (idle e)

theorem continues_report (r : Round) (i : Nat) (outcome : Outcome) :
    r.Continues (r.report i outcome) := by
  have ended : r.Continues (r.setSlot i (.ended outcome)) := continues_setSlot (by simp)
  exact ended.trans (continues_of_lanes rfl rfl)

theorem continues_release (r : Round) : r.Continues r.release := by
  rw [release]
  split
  · exact continues_of_lanes rfl rfl
  · next next line found =>
    have granted : r.Continues (r.setSlot next .granted) := continues_setSlot (by simp)
    exact granted.trans (continues_of_lanes rfl rfl)

theorem continues_count (r : Round) (outcome : Outcome) : r.Continues (r.count outcome) :=
  continues_of_lanes rfl rfl

theorem continues_passOn (r : Round) (halts : Bool) (outcome : Outcome) :
    r.Continues (r.passOn halts outcome) := by
  have halted : r.Continues { r with halted := r.halted || halts } := continues_of_lanes rfl rfl
  rw [passOn]
  split
  · exact halted.trans (continues_release _)
  · exact halted

theorem continues_of_take? {lane : Lane} {outcome : Outcome} (took : r.take? = some (lane, outcome, t)) :
    r.Continues t := by
  have taken := took_of_take? took
  refine ⟨taken.called, taken.context, fun h l member e running => ?_⟩
  rcases taken.others l member with old | rfl
  · exact h l old e running
  · cases running

theorem continues_follow {lane : Lane} (s : Settings) (here : r.lanes[i]? = some lane) (move : Move)
    (speaks : r.Faithful → move.Speaks s r.context lane.id lane.nodeStep) :
    r.Continues (r.follow i move) := by
  rw [follow]
  split
  · next e waits =>
    refine ⟨called_setSlot .., rfl, fun h => h.setSlot fun lane' there e' running => ?_⟩
    rw [here] at there
    cases there
    cases running
    exact (speaks h).faithful e waits
  · exact continues_report ..

/-- What a round sends when it goes on. -/
structure Sends (s : Settings) (r : Round) (desk : Desk) (after : Round × Desk) (sent : List Effect) :
    Prop where
  continues : r.Continues after.1
  effects : after.2.effects = desk.effects ++ sent
  carries : r.Faithful → ∀ effect ∈ sent, ∃ lane ∈ r.lanes,
    effect.Carries s r.context lane.id lane.nodeStep

theorem sends_nothing {s : Settings} {desk : Desk} (continues : r.Continues t) :
    r.Sends s desk (t, desk) [] :=
  ⟨continues, (List.append_nil _).symm, fun _ _ member => nomatch member⟩

theorem sends_follow {s : Settings} {desk : Desk} {lane : Lane} {move : Move}
    (here : r.lanes[i]? = some lane)
    (speaks : r.Faithful → move.Speaks s r.context lane.id lane.nodeStep) :
    r.Sends s desk (r.follow i move, desk.follow move) move.effects where
  continues := continues_follow s here move speaks
  effects := rfl
  carries h effect member := ⟨lane, List.mem_of_getElem? here, (speaks h).carries effect member⟩

theorem sends_start (s : Settings) (scene : Scene) (desk : Desk) (r : Round) (i : Nat) :
    ∃ sent, r.Sends s desk (start s scene desk r i) sent := by
  rw [start]
  split
  · exact ⟨[], sends_nothing (.refl r)⟩
  · next lane here => exact ⟨_, sends_follow here fun _ => Exchange.speaks_begin scene desk.router⟩

/-- **A node step that goes on** sends tasks of its own lane. -/
theorem sends_work (s : Settings) (scene : Scene) (desk : Desk) (r : Round) (i : Nat) :
    ∃ sent, r.Sends s desk (r.work s scene desk i) sent := by
  rw [work]
  split
  · split
    · exact ⟨[], sends_nothing (continues_report ..)⟩
    · split
      · have queued : r.Continues (r.setSlot i .queued) := continues_setSlot (by simp)
        exact ⟨[], sends_nothing (queued.trans (continues_of_lanes rfl rfl))⟩
      · -- Taking a permit changes no lane.
        obtain ⟨sent, began⟩ := sends_start s scene desk { r with free := r.free - 1 } i
        have taken : r.Continues { r with free := r.free - 1 } := continues_of_lanes rfl rfl
        exact ⟨sent, taken.trans began.continues, began.effects, began.carries⟩
  · split
    · have left : r.Continues { r with line := r.line.filter fun j => j ≠ i } :=
        continues_of_lanes rfl rfl
      exact ⟨[], sends_nothing (left.trans (continues_report ..))⟩
    · exact ⟨[], sends_nothing (.refl r)⟩
  · split
    · exact ⟨[], sends_nothing ((continues_release r).trans (continues_report ..))⟩
    · exact sends_start s scene desk r i
  · next e here =>
    simp only [slot?, Option.map_eq_some_iff] at here
    obtain ⟨lane, there, running⟩ := here
    refine ⟨_, sends_follow there fun h => ?_⟩
    exact (h lane (List.mem_of_getElem? there) e running).speaks_resume scene desk.router
  · exact ⟨[], sends_nothing (.refl r)⟩

theorem faithful_begin (s : Settings) (scene : Scene) (skip : Bool) (c : RoundContext)
    (named : List (String × NodeStep)) : (begin s scene skip c named).Faithful := by
  intro lane member e running
  simp only [begin, List.mem_map] at member
  obtain ⟨entry, -, rfl⟩ := member
  simp only [firstSlot] at running
  split at running <;> cases running

end Round

end Muster.Engine
