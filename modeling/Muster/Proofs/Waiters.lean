import Muster.Proofs.Trace

/-!
# Who waits at the router

Whoever waits at the router is a node step that is running in a round. `Tracks` says how the waiters of a
router and the running node steps of a drive change together; it composes along the functions that make
up a move. From it follows that every waiter belongs to a drive of the engine (`Accounted`), and since
drives never share identifiers (`Apart`), nobody waits any more under those of an operation that has
ended.
-/

set_option autoImplicit false

namespace Muster

namespace ReplyRouter

variable {r : ReplyRouter} {key : String} {handle other : Nat}

/-- Closing a mailbox leaves no waiter there, and brings no other one. -/
theorem Sound.waiting_release (h : r.Sound) (found : (r.release handle).waiting.get? key = some other) :
    r.waiting.get? key = some other ∧ other ≠ handle := by
  simp only [ReplyRouter.release] at found
  split at found
  · next m present =>
    rw [Dict.get?_erase] at found
    split at found
    · cases found
    · next differ =>
      refine ⟨found, ?_⟩
      rintro rfl
      obtain ⟨m', present', owner⟩ := h.waiting key other found
      rw [present] at present'
      cases present'
      exact differ owner.symm
  · next none =>
    refine ⟨found, ?_⟩
    rintro rfl
    obtain ⟨m, present, -⟩ := h.waiting key other found
    rw [none] at present
    cases present

theorem Sound.waiting_foldl_release (h : r.Sound) (handles : List Nat)
    (found : (handles.foldl ReplyRouter.release r).waiting.get? key = some other) :
    r.waiting.get? key = some other ∧ other ∉ handles := by
  induction handles generalizing r with
  | nil => exact ⟨found, List.not_mem_nil⟩
  | cons handle rest ih =>
    obtain ⟨found', away⟩ := ih (h.release handle) found
    obtain ⟨old, differ⟩ := h.waiting_release found'
    refine ⟨old, fun member => ?_⟩
    rcases List.mem_cons.1 member with same | later
    · exact differ same
    · exact away later

theorem waiting_route (r : ReplyRouter) (reply : Reply) : (r.route reply).2.waiting = r.waiting := by
  rw [route]
  split <;> rfl

end ReplyRouter

namespace Engine

/-! ### Waiters come and go -/

/-- Node steps that wait, by identifier and mailbox. -/
abbrev Waiters := String → Nat → Prop

/-- A change of a router and of the node steps that wait: whoever comes to wait at the router is one of
them, and whoever of them waits no longer is gone from the router. -/
structure Tracks (before : Waiters) (r : ReplyRouter) (after : Waiters) (t : ReplyRouter) : Prop where
  came : ∀ key handle, t.waiting.get? key = some handle →
    r.waiting.get? key = some handle ∨ after key handle
  went : ∀ key handle, before key handle → after key handle ∨ t.waiting.get? key ≠ some handle

namespace Tracks

variable {first second third : Waiters} {r t u : ReplyRouter}

theorem trans (h : Tracks first r second t) (h' : Tracks second t third u) : Tracks first r third u where
  came key handle found := by
    rcases h'.came key handle found with between | waits
    · rcases h.came key handle between with old | waits
      · exact .inl old
      · exact .inr ((h'.went key handle waits).resolve_right fun gone => gone found)
    · exact .inr waits
  went key handle waits := by
    by_contra neither
    obtain ⟨idle, present⟩ := not_or.1 neither
    have found := not_not.1 present
    rcases h.went key handle waits with between | gone
    · exact (h'.went key handle between).elim idle fun gone => gone found
    · exact (h'.came key handle found).elim gone idle

/-- Nobody who waits is lost, and the router is the same. -/
theorem of_waiting (same : t.waiting = r.waiting) (kept : ∀ {key handle}, first key handle → second key handle) :
    Tracks first r second t where
  came _ _ found := .inl (same ▸ found)
  went _ _ waits := .inl (kept waits)

end Tracks

/-! ### Waiters of a node step -/

/-- A move of a node step that has a mailbox brings nobody to the router, and if it does not wait any longer
then nobody waits at its mailbox. -/
def Move.Hands (router : ReplyRouter) (mailbox : Nat) (move : Move) : Prop :=
  ∀ key handle, move.router.waiting.get? key = some handle → router.waiting.get? key = some handle ∧
    ((∃ e, move.standing = .waiting e ∧ e.handle = mailbox) ∨ handle ≠ mailbox)

namespace Exchange

variable {s : Settings} {c : RoundContext} {scene : Scene} {router : ReplyRouter} {e : Exchange}

theorem hands_conclude (sound : router.Sound) (mailbox : Nat) (outcome : Outcome) :
    (conclude router mailbox outcome).Hands router mailbox := by
  intro key handle found
  obtain ⟨old, differ⟩ := sound.waiting_release found
  exact ⟨old, .inr differ⟩

theorem hands_dispatch (sound : router.Sound) (index : Nat) (tasks : List Task) :
    (dispatch s c scene router e index tasks).Hands router e.handle := by
  cases tasks with
  | nil => exact hands_conclude sound e.handle _
  | cons task rest =>
    rw [dispatch]
    split
    · intro key handle found
      exact ⟨found, .inl ⟨_, rfl, rfl⟩⟩
    · exact hands_conclude sound e.handle _

theorem hands_resume (sound : router.Sound) : (e.resume s c scene router).Hands router e.handle := by
  have emptied : (router.discard e.handle).Sound := sound.setReplies e.handle []
  simp only [resume]
  split
  · split
    · exact hands_conclude emptied e.handle _
    · split
      · exact hands_conclude emptied e.handle _
      · intro key handle found
        exact ⟨found, .inl ⟨e, rfl, rfl⟩⟩
  · split
    · apply hands_dispatch sound
    · exact hands_conclude sound e.handle _

/-- Whoever waits after a node step has begun did so before, or is the node step itself. -/
theorem waiting_begin {id key : String} {handle : Nat} (sound : router.Sound) (n : NodeStep)
    (found : (begin s c scene router id n).router.waiting.get? key = some handle) :
    router.waiting.get? key = some handle ∨
      ∃ e, (begin s c scene router id n).standing = .waiting e ∧ e.handle = handle ∧ key = id := by
  obtain ⟨old, mine⟩ := hands_dispatch (sound.register id) 0 n.tasks key handle found
  by_cases same : key = id
  · subst same
    have opened : handle = router.opened := by
      simp only [ReplyRouter.register, Dict.get?_insert_self, Option.some.injEq] at old
      exact old.symm
    obtain ⟨e, waits, here⟩ := mine.resolve_right fun other => other opened
    exact .inr ⟨e, waits, here.trans opened.symm, rfl⟩
  · refine .inl ?_
    simpa only [ReplyRouter.register, Dict.get?_insert_of_ne same] using old

end Exchange

/-! ### Waiters of a round -/

namespace Round

variable {r : Round} {i j : Nat} {slot old : Slot} {key : String} {handle : Nat}

/-- A node step of the round waits at a mailbox. -/
def Waits (r : Round) : Waiters := fun key handle =>
  ∃ (i : Nat) (lane : Lane) (e : Exchange), r.lanes[i]? = some lane ∧ lane.slot = .running e ∧
    lane.id = key ∧ e.handle = handle

theorem Waits.mem_called (waits : r.Waits key handle) : key ∈ r.called.map Prod.fst := by
  obtain ⟨i, lane, e, here, -, rfl, -⟩ := waits
  rw [called, List.map_map]
  exact List.mem_map_of_mem (List.mem_of_getElem? here)

theorem Waits.mem_handles (waits : r.Waits key handle) : handle ∈ r.handles := by
  obtain ⟨i, lane, e, here, running, -, rfl⟩ := waits
  refine List.mem_filterMap.2 ⟨lane, List.mem_of_getElem? here, ?_⟩
  rw [running]

theorem waits_of_lanes {t : Round} (lanes : t.lanes = r.lanes) (waits : r.Waits key handle) :
    t.Waits key handle := by
  rw [Waits, lanes]
  exact waits

/-- A lane that is put elsewhere takes at most its own waiter away. -/
theorem Waits.setSlot (waits : r.Waits key handle) (j : Nat) (slot : Slot) :
    (r.setSlot j slot).Waits key handle ∨
      ∃ lane e, r.lanes[j]? = some lane ∧ lane.slot = .running e ∧ lane.id = key ∧ e.handle = handle := by
  obtain ⟨i, lane, e, here, running, rfl, rfl⟩ := waits
  by_cases same : j = i
  · subst same
    exact .inr ⟨lane, e, here, running, rfl, rfl⟩
  · refine .inl ⟨i, lane, e, ?_, running, rfl, rfl⟩
    rw [Round.setSlot, List.getElem?_modify_ne _ _ same]
    exact here

theorem Waits.setSlot_of_idle (waits : r.Waits key handle) (here : r.slot? j = some old)
    (idle : ∀ e, old ≠ .running e) : (r.setSlot j slot).Waits key handle := by
  refine (waits.setSlot j slot).resolve_right ?_
  rintro ⟨lane, e, there, running, -, -⟩
  rw [slot?, there, Option.map_some, running] at here
  exact idle e (Option.some.inj here).symm

/-- A node step that is set to wait does. -/
theorem waits_setSlot {lane : Lane} (here : r.lanes[j]? = some lane) (e : Exchange) :
    (r.setSlot j (.running e)).Waits lane.id e.handle := by
  refine ⟨j, { lane with slot := .running e }, e, ?_, rfl, rfl, rfl⟩
  rw [Round.setSlot, List.getElem?_modify_eq, here]
  rfl

theorem Waits.release (waits : r.Waits key handle) (sound : r.Sound) : r.release.Waits key handle := by
  rw [Round.release]
  split
  · exact waits_of_lanes rfl waits
  · next next rest found =>
    have queued := sound.queued next (by rw [found]; exact List.mem_cons_self)
    exact waits_of_lanes rfl (waits.setSlot_of_idle queued (by simp))

theorem Waits.passOn (waits : r.Waits key handle) (sound : r.Sound) (halts : Bool) (outcome : Outcome) :
    (r.passOn halts outcome).Waits key handle := by
  have noted : ({ r with halted := r.halted || halts } : Round).Waits key handle := waits_of_lanes rfl waits
  rw [Round.passOn]
  split
  · exact noted.release ⟨sound.queued, sound.once⟩
  · exact noted

/-- An outcome that is taken was not waited for any more. -/
theorem Waits.of_take? {lane : Lane} {outcome : Outcome} {t : Round} (waits : r.Waits key handle)
    (took : r.take? = some (lane, outcome, t)) : t.Waits key handle := by
  rw [take?] at took
  split at took
  · cases took
  · next i later found =>
    split at took
    · next here at_i =>
      split at took
      · next result ended =>
        simp only [Option.some.injEq, Prod.mk.injEq] at took
        obtain ⟨rfl, rfl, rfl⟩ := took
        have slot : r.slot? i = some (.ended result) := by simp [slot?, at_i, ended]
        exact waits_of_lanes rfl (waits.setSlot_of_idle slot (by simp))
      · cases took
    · cases took

/-! ### A round goes on -/

variable {s : Settings} {scene : Scene} {desk : Desk} {move : Move} {lane : Lane}

theorem follow_waiting {e : Exchange} (standing : move.standing = .waiting e) :
    r.follow i move = r.setSlot i (.running e) := by
  rw [follow, standing]

theorem Waits.follow (waits : r.Waits key handle) (here : r.slot? i = some old)
    (idle : ∀ e, old ≠ .running e) (move : Move) : (r.follow i move).Waits key handle := by
  rw [Round.follow]
  split
  · exact waits.setSlot_of_idle here idle
  · exact waits_of_lanes rfl (waits.setSlot_of_idle here idle)

theorem tracks_resumed {e : Exchange} {router : ReplyRouter} (here : r.lanes[i]? = some lane)
    (running : lane.slot = .running e) (hands : move.Hands router e.handle) :
    Tracks r.Waits router (r.follow i move).Waits move.router where
  came key handle found := .inl (hands key handle found).1
  went key handle waits := by
    by_contra neither
    obtain ⟨idle, present⟩ := not_or.1 neither
    obtain ⟨-, mine⟩ := hands key handle (not_not.1 present)
    rw [follow] at idle
    cases standing : move.standing with
    | ended outcome =>
      rw [standing] at idle mine
      rcases waits.setSlot i (.ended outcome) with kept | ⟨lane', e', there, running', -, rfl⟩
      · exact idle (waits_of_lanes rfl kept)
      · rw [here] at there
        obtain rfl := Option.some.inj there
        rw [running] at running'
        obtain rfl := Slot.running.inj running'
        rcases mine with ⟨e', waiting, -⟩ | differ
        · cases waiting
        · exact differ rfl
    | waiting e₁ =>
      rw [standing] at idle mine
      rcases waits.setSlot i (.running e₁) with kept | ⟨lane', e', there, running', rfl, rfl⟩
      · exact idle kept
      · rw [here] at there
        obtain rfl := Option.some.inj there
        rw [running] at running'
        obtain rfl := Slot.running.inj running'
        rcases mine with ⟨e₂, waiting, same⟩ | differ
        · cases waiting
          rw [← same] at idle
          exact idle (waits_setSlot here e₁)
        · exact differ rfl

theorem tracks_begun {router : ReplyRouter} (sound : router.Sound) (here : r.lanes[i]? = some lane)
    (idle : ∀ e, lane.slot ≠ .running e) :
    let move := Exchange.begin s r.context scene router lane.id lane.nodeStep
    Tracks r.Waits router (r.follow i move).Waits move.router := by
  intro move
  have slot : r.slot? i = some lane.slot := by rw [slot?, here]; rfl
  refine ⟨fun key handle found => ?_, fun key handle waits => .inl (waits.follow slot idle move)⟩
  rcases Exchange.waiting_begin sound lane.nodeStep found with old | ⟨e, standing, rfl, rfl⟩
  · exact .inl old
  · refine .inr ?_
    rw [follow_waiting standing]
    exact waits_setSlot here e

theorem tracks_start (sound : desk.router.Sound) (here : r.slot? i = some old)
    (idle : ∀ e, old ≠ .running e) :
    Tracks r.Waits desk.router (start s scene desk r i).1.Waits (start s scene desk r i).2.router := by
  rw [start]
  split
  · exact .of_waiting rfl id
  · next lane there =>
    rw [slot?, there, Option.map_some, Option.some.injEq] at here
    exact tracks_begun sound there (here ▸ idle)

/-- **A node step that goes on** comes to wait, or waits no longer. -/
theorem tracks_work (sound : r.Sound) (router : desk.router.Sound) (i : Nat) :
    Tracks r.Waits desk.router (r.work s scene desk i).1.Waits (r.work s scene desk i).2.router := by
  have put {t : Round} {slot old : Slot} {key : String} {handle : Nat} (waits : t.Waits key handle)
      (here : t.slot? i = some old) (idle : ∀ e, old ≠ .running e) : (t.setSlot i slot).Waits key handle :=
    waits.setSlot_of_idle here idle
  rw [work]
  split
  · next here =>
    split
    · exact .of_waiting rfl fun waits => waits_of_lanes rfl (put waits here (by simp))
    · split
      · exact .of_waiting rfl fun waits => waits_of_lanes rfl (put waits here (by simp))
      · -- Taking a permit changes no lane.
        exact tracks_start (r := { r with free := r.free - 1 }) router here (by simp)
  · next here =>
    split
    · exact .of_waiting rfl fun waits => waits_of_lanes rfl (put waits here (by simp))
    · exact .of_waiting rfl id
  · next here =>
    split
    · have still := sound.slot?_release here (by simp)
      exact .of_waiting rfl fun waits => waits_of_lanes rfl (put (waits.release sound) still (by simp))
    · exact tracks_start router here (by simp)
  · next e here =>
    simp only [slot?, Option.map_eq_some_iff] at here
    obtain ⟨lane, there, running⟩ := here
    exact tracks_resumed there running (Exchange.hands_resume router)
  · exact .of_waiting rfl id

/-- Closing a round leaves nobody of it at the router. -/
theorem tracks_close (sound : desk.router.Sound) :
    Tracks r.Waits desk.router (fun _ _ => False) (r.close desk).router where
  came key handle found := .inl (sound.waiting_foldl_release r.handles found).1
  went key handle waits := by
    refine .inr fun found => ?_
    exact (sound.waiting_foldl_release r.handles found).2 waits.mem_handles

end Round

/-! ### Waiters of a drive -/

namespace Drive

/-- A node step of the round that is under way waits at a mailbox. -/
def Waits (d : Drive) : Waiters := fun key handle =>
  ∃ step nodeSteps round, d.phase = .dispatching step nodeSteps round ∧ round.Waits key handle

/-- The identifiers of the node steps of the round that is under way. -/
def Calls (d : Drive) (key : String) : Prop :=
  ∃ step nodeSteps round, d.phase = .dispatching step nodeSteps round ∧ key ∈ round.called.map Prod.fst

variable {s : Settings} {scene : Scene} {desk : Desk} {d d' : Drive} {step : Step}
  {nodeSteps : List NodeStep} {round : Round} {key : String} {handle : Nat}

theorem Waits.calls (waits : d.Waits key handle) : d.Calls key := by
  obtain ⟨step, nodeSteps, round, phase, waits⟩ := waits
  exact ⟨step, nodeSteps, round, phase, waits.mem_called⟩

theorem waits_congr (phase : d'.phase = d.phase) (waits : d.Waits key handle) : d'.Waits key handle := by
  rw [Waits, phase]
  exact waits

theorem waits_dispatching (phase : d.phase = .dispatching step nodeSteps round) :
    d.Waits key handle ↔ round.Waits key handle := by
  constructor
  · rintro ⟨step', nodeSteps', round', phase', waits⟩
    rw [phase] at phase'
    cases phase'
    exact waits
  · exact fun waits => ⟨step, nodeSteps, round, phase, waits⟩

end Drive

/-- Who waits after a turn: nobody, once the verdict is in. -/
def Turn.Waits (t : Turn) : Waiters := fun key handle => t.verdict = .underWay ∧ t.drive.Waits key handle

namespace Drive

section

variable (s : Settings) (scene : Scene) (desk : Desk) (d : Drive) (step : Step) (nodeSteps : List NodeStep)
  (round : Round)

/-- Nobody waits when a round begins, and the router stays as it is. -/
theorem tracks_dispatch (called : List NodeStep) :
    let turn := dispatch s scene desk d step nodeSteps called
    Tracks (fun _ _ => False) desk.router turn.Waits turn.desk.router :=
  .of_waiting rfl False.elim

theorem tracks_concludeRound (sound : desk.router.Sound) :
    let turn := concludeRound s scene desk d step nodeSteps round
    Tracks round.Waits desk.router turn.Waits turn.desk.router := by
  intro turn
  refine (Round.tracks_close sound).trans ?_
  have cases := concludeRound_cases s scene desk d step nodeSteps round
  change Conclusion _ _ _ _ _ _ _ turn at cases
  generalize turn = u at cases ⊢
  cases cases with
  | proceeds decided => exact .of_waiting rfl False.elim
  | aborts reason decided => exact .of_waiting rfl False.elim
  | nothingLeft decided none => exact .of_waiting rfl False.elim
  | retries decided some => exact tracks_dispatch ..

theorem tracks_firstRound (sound : desk.router.Sound) :
    let turn := firstRound s scene desk d step nodeSteps
    Tracks (fun _ _ => False) desk.router turn.Waits turn.desk.router := by
  intro turn
  by_cases none : nodeSteps = []
  · subst none
    have opened : Tracks (fun _ _ => False) desk.router
        (Round.begin s scene step.skipUnreachable ⟨d.op.id, d.cluster, d.op.returnData⟩ []).Waits
        (dispatch s scene desk d step [] []).desk.router := .of_waiting rfl False.elim
    exact opened.trans (tracks_concludeRound s scene _ _ step [] _ sound)
  · have same : turn = dispatch s scene desk d step nodeSteps nodeSteps :=
      firstRound_of_ne_nil s scene desk d step nodeSteps none
    rw [same]
    exact tracks_dispatch ..

theorem tracks_launch (sound : desk.router.Sound) :
    let turn := launch s scene desk d step
    Tracks (fun _ _ => False) desk.router turn.Waits turn.desk.router := by
  intro turn
  have equal : turn = _ := launch_eq s scene desk d step
  split at equal
  · rw [equal]
    exact tracks_firstRound s scene desk d step _ sound
  · split at equal <;> rw [equal] <;> exact .of_waiting rfl False.elim

variable {desk d step nodeSteps round} in
theorem tracks_settle (sound : desk.router.Sound) (phase : d.phase = .dispatching step nodeSteps round)
    (inOrder : round.Sound) :
    let turn := settle s scene desk d step nodeSteps round
    Tracks round.Waits desk.router turn.Waits turn.desk.router := by
  intro turn
  have cases := settle_cases s scene desk d step nodeSteps round
  change Settlement _ _ _ _ _ _ _ turn at cases
  generalize turn = u at cases ⊢
  -- Settling an outcome leaves those who wait alone.
  have onward {lane : Lane} {outcome : Outcome} {taken : Round} (noted : Drive)
      (took : round.take? = some (lane, outcome, taken)) {key : String} {handle : Nat}
      (waits : round.Waits key handle) : (onward noted step lane outcome taken).Waits key handle := by
    have kept : taken.Waits key handle := waits.of_take? took
    have counted : (taken.count outcome).Waits key handle := Round.waits_of_lanes rfl kept
    have sound := (Round.took_of_take? took).sound inOrder
    exact counted.passOn ⟨sound.queued, sound.once⟩ _ outcome
  cases cases with
  | idle none => exact .of_waiting rfl fun waits => ⟨rfl, (waits_dispatching phase).2 waits⟩
  | finalizes lane outcome taken noted swept took note gaveUp sweep =>
    have kept : Tracks round.Waits desk.router taken.Waits desk.router :=
      .of_waiting rfl fun waits => waits.of_take? took
    have counted : Tracks taken.Waits desk.router (taken.count outcome).Waits desk.router :=
      .of_waiting rfl fun waits => Round.waits_of_lanes rfl waits
    exact (kept.trans counted).trans
      (tracks_concludeRound s scene (swept.save (noted.save desk)) swept step nodeSteps _ sound)
  | ends lane outcome taken noted took note patient atEnd =>
    have kept : Tracks round.Waits desk.router (Drive.onward noted step lane outcome taken).Waits
        desk.router := .of_waiting rfl fun waits => onward noted took waits
    exact kept.trans (tracks_concludeRound s scene (noted.save desk) noted step nodeSteps _ sound)
  | goesOn lane outcome taken noted took note patient busy =>
    exact .of_waiting rfl fun waits => ⟨rfl, (waits_dispatching rfl).2 (onward noted took waits)⟩

/-! ### The moves of a drive -/

variable {s scene desk d step nodeSteps round}

/-- A turn that leaves the router sound, with those who wait after it. -/
theorem tracks_resolve {before : Waiters} {router : ReplyRouter} {turn : Turn}
    (tracks : Tracks before router turn.Waits turn.desk.router)
    (enters : turn.verdict = .stepOver → Tracks (fun _ _ => False) turn.desk.router
      (enter s scene turn.desk turn.drive.leave turn.drive.later).1.Waits
      (enter s scene turn.desk turn.drive.leave turn.drive.later).2.router) :
    Tracks before router (resolve s scene turn).1.Waits (resolve s scene turn).2.router := by
  obtain ⟨verdict, drive, desk'⟩ := turn
  cases verdict with
  | underWay => exact tracks.trans (.of_waiting rfl fun waits => waits.2)
  | stopped e => exact tracks.trans (.of_waiting rfl fun waits => nomatch waits.1)
  | stepOver =>
    have idle : Tracks (Turn.Waits ⟨.stepOver, drive, desk'⟩) desk'.router (fun _ _ => False) desk'.router :=
      .of_waiting rfl fun waits => nomatch waits.1
    exact (tracks.trans idle).trans (enters rfl)

theorem tracks_enter (desk : Desk) (sound : desk.router.Sound) (later : List Step) :
    Tracks (fun _ _ => False) desk.router (enter s scene desk d later).1.Waits
      (enter s scene desk d later).2.router := by
  induction later generalizing desk d with
  | nil => exact .of_waiting rfl False.elim
  | cons step later ih =>
    rw [enter_cons]
    split
    · exact .of_waiting rfl False.elim
    · split
      · exact .of_waiting rfl False.elim
      · obtain ⟨-, rest⟩ :=
          place_launch s scene ((d.takeUp scene later).save desk) (d.takeUp scene later) step
        have launched := tracks_launch s scene ((d.takeUp scene later).save desk) (d.takeUp scene later) step
          sound
        refine tracks_resolve launched fun _ => ?_
        rw [rest]
        exact ih _ ((tends_launch ..).recedes.sound sound)

theorem tracks_step (sound : desk.router.Sound)
    (inOrder : ∀ step nodeSteps round, d.phase = .dispatching step nodeSteps round → round.Sound) :
    Tracks d.Waits desk.router (d.step s scene desk).1.Waits (d.step s scene desk).2.router := by
  have idle (away : ∀ step nodeSteps round, d.phase ≠ .dispatching step nodeSteps round) :
      Tracks d.Waits desk.router (fun _ _ => False) desk.router := by
    refine .of_waiting rfl ?_
    rintro key handle ⟨step, nodeSteps, round, phase, -⟩
    exact away step nodeSteps round phase
  rw [Drive.step]
  split
  · next phase =>
    exact (idle (by simp [phase])).trans (tracks_enter ((d.setOff scene).save desk) sound d.later)
  · next step due phase =>
    split
    · refine (idle (by simp [phase])).trans (tracks_resolve (tracks_launch s scene desk d step sound) ?_)
      intro _
      exact tracks_enter _ ((tends_launch ..).recedes.sound sound) _
    · exact .of_waiting rfl id
  · next step nodeSteps round phase =>
    have waits : Tracks d.Waits desk.router round.Waits desk.router :=
      .of_waiting rfl (waits_dispatching phase).1
    refine waits.trans (tracks_resolve
      (tracks_settle s scene sound phase (inOrder step nodeSteps round phase)) fun _ => ?_)
    exact tracks_enter _ ((tends_settle ..).recedes.sound sound) _
  · exact .of_waiting rfl id

theorem tracks_heed (sound : desk.router.Sound) :
    Tracks d.Waits desk.router (d.heed scene desk).1.Waits (d.heed scene desk).2.router := by
  rw [heed]
  split
  · split
    · next step due phase =>
      refine .of_waiting rfl ?_
      rintro key handle ⟨step', nodeSteps, round, phase', -⟩
      rw [phase] at phase'
      cases phase'
    · next step nodeSteps round phase =>
      have waits : Tracks d.Waits desk.router round.Waits desk.router :=
        .of_waiting rfl (waits_dispatching phase).1
      exact (waits.trans (Round.tracks_close sound)).trans (.of_waiting rfl False.elim)
    · exact .of_waiting rfl id
    · exact .of_waiting rfl id
  · exact .of_waiting rfl id

theorem tracks_work (sound : desk.router.Sound)
    (inOrder : ∀ step nodeSteps round, d.phase = .dispatching step nodeSteps round → round.Sound)
    (round i : Nat) :
    Tracks d.Waits desk.router (d.work s scene desk round i).1.Waits (d.work s scene desk round i).2.router := by
  rw [work]
  split
  · next step nodeSteps r phase =>
    split
    · have waits : Tracks d.Waits desk.router r.Waits desk.router :=
        .of_waiting rfl (waits_dispatching phase).1
      have worked : Tracks r.Waits desk.router (r.work s scene desk i).1.Waits
          (r.work s scene desk i).2.router := Round.tracks_work (inOrder step nodeSteps r phase) sound i
      exact (waits.trans worked).trans (.of_waiting rfl (waits_dispatching rfl).2)
    · exact .of_waiting rfl id
  · exact .of_waiting rfl id

end

/-- **A move of a drive** and the router agree on who waits. -/
theorem Moves.tracks {s : Settings} {desk : Desk} {d : Drive} {moved : Drive × Desk}
    (moves : d.Moves s desk moved) (sound : desk.router.Sound)
    (inOrder : ∀ step nodeSteps round, d.phase = .dispatching step nodeSteps round → round.Sound) :
    Tracks d.Waits desk.router moved.1.Waits moved.2.router := by
  cases moves with
  | step scene => exact tracks_step sound inOrder
  | heed scene => exact tracks_heed sound
  | work scene round i => exact tracks_work sound inOrder round i

end Drive

/-! ### Identifiers that a drive calls upon -/

section

variable {s : Settings} {a b : Station} {effects : List Effect} {key : String} {d d' : Drive}

/-- The identifiers of the node steps of a round that is under way. -/
def Station.Calls (a : Station) (key : String) : Prop :=
  ∃ step nodeSteps round, a.point = .calling step nodeSteps round ∧ key ∈ round.called.map Prod.fst

theorem calls_opening {scene : Scene} {desk : Desk} {step : Step} {nodeSteps called : List NodeStep}
    {n : Nat} (calls : Station.Calls ⟨.calling step nodeSteps (d.opening s scene desk step called), d', n⟩ key) :
    Identifiers.Between desk.identifiers.used (desk.identifiers.used + called.length) key := by
  obtain ⟨step', nodeSteps', round, point, member⟩ := calls
  cases point
  obtain ⟨entry, among, rfl⟩ := List.mem_map.1 member
  exact (d.called_opening s scene desk step called entry among).2

/-- An act calls upon those that were called upon before, or upon new ones. -/
theorem Act.calls_of_calls (act : Act s a effects b) (calls : b.Calls key) :
    a.Calls key ∨ Identifiers.Between a.used b.used key := by
  cases act with
  | calls scene desk yields => exact .inr (calls_opening calls)
  | retries scene desk => exact .inr (calls_opening calls)
  | works sends =>
    obtain ⟨step, nodeSteps, round, point, member⟩ := calls
    cases point
    rw [sends.continues.called] at member
    exact .inl ⟨_, _, _, rfl, member⟩
  | records edits continues =>
    obtain ⟨step, nodeSteps, round, point, member⟩ := calls
    cases point
    rw [continues.called] at member
    exact .inl ⟨_, _, _, rfl, member⟩
  | rests same more => exact .inl calls
  | _ =>
    obtain ⟨step, nodeSteps, round, point, -⟩ := calls
    cases point

theorem Acts.calls (acts : Acts s a effects b) (calls : b.Calls key) :
    a.Calls key ∨ Identifiers.Between a.used b.used key := by
  induction acts with
  | refl => exact .inl calls
  | snoc acts act ih =>
    rcases act.calls_of_calls calls with before | new
    · rcases ih before with old | between
      · exact .inl old
      · exact .inr (between.mono (Nat.le_refl _) (Acts.used_le (Acts.refl.snoc act)))
    · exact .inr (new.mono acts.used_le (Nat.le_refl _))

theorem calls_station (n : Nat) : Station.Calls ⟨d.phase.point, d, n⟩ key ↔ d.Calls key := by
  simp only [Station.Calls, Drive.Calls]
  cases d.phase <;> simp [Phase.point]

theorem Drive.calls_congr (phase : d'.phase = d.phase) : d'.Calls key ↔ d.Calls key := by
  rw [Drive.Calls, Drive.Calls, phase]

end

/-! ### Waiters of an engine -/

/-- Whoever waits at the router is a node step of a running operation. -/
def Accounted (e : Engine) : Prop :=
  ∀ key handle, e.router.waiting.get? key = some handle →
    ∃ id d, e.drives.get? id = some d ∧ d.Waits key handle

/-- An identifier has been handed out, and only some operations may have a node step of this name. -/
structure KeptFor (e : Engine) (mine : String → Prop) (key : String) : Prop where
  used : Identifiers.Between 0 e.identifiers.used key
  others : ∀ id d, ¬ mine id → e.drives.get? id = some d → ¬ d.Calls key

/-- Operations never share the identifier of a node step. -/
def Apart (e : Engine) : Prop :=
  ∀ id d key, e.drives.get? id = some d → d.Calls key → e.KeptFor (· = id) key

section

variable {e e' : Engine} {scene : Scene} {event : Event} {moved : Engine × List Effect} {id key : String}
  {handle : Nat} {d : Drive} {mine : String → Prop} {brought : Drive × Desk}

/-- The line of every round is in order. -/
theorem Healthy.inOrder (healthy : e.Healthy) (here : e.drives.get? id = some d) {step : Step}
    {nodeSteps : List NodeStep} {round : Round} (phase : d.phase = .dispatching step nodeSteps round) :
    round.Sound := by
  obtain ⟨scene, desk, first, t, -, -, course, underWay, rfl, -⟩ :=
    (healthy.onCourse id d here).2 step nodeSteps round phase
  have inOrder := course.inOrder (by apply Turn.inOrder_firstRound)
  exact inOrder step nodeSteps round ⟨underWay, phase⟩

theorem Accounted.moves (accounted : e.Accounted) (healthy : e.Healthy) (here : e.drives.get? id = some d)
    (moves : d.Moves e.settings e.desk brought) : (e.putBack id brought).1.Accounted := by
  intro key handle found
  have tracks := moves.tracks healthy.router fun _ _ _ phase => healthy.inOrder here phase
  by_cases waits : brought.1.Waits key handle
  · rcases get?_putBack_self e id brought with ⟨kept, -⟩ | ⟨-, atEnd⟩
    · exact ⟨id, brought.1, kept, waits⟩
    · obtain ⟨step, nodeSteps, round, phase, -⟩ := waits
      rw [phase] at atEnd
      cases atEnd
  · have old := (tracks.came key handle found).resolve_right waits
    obtain ⟨other, d', there, waits'⟩ := accounted key handle old
    by_cases same : other = id
    · subst same
      rw [here] at there
      obtain rfl := Option.some.inj there
      exact absurd found ((tracks.went key handle waits').resolve_left waits)
    · exact ⟨other, d', (get?_putBack_of_ne e brought same).trans there, waits'⟩

/-- What makes no move leaves those who wait as they are. -/
theorem Accounted.same (accounted : e.Accounted) (waiting : e'.router.waiting = e.router.waiting)
    (drives : ∀ id d, e.drives.get? id = some d →
      ∃ d', e'.drives.get? id = some d' ∧ d'.phase = d.phase) : e'.Accounted := by
  intro key handle found
  rw [waiting] at found
  obtain ⟨id, d, here, waits⟩ := accounted key handle found
  obtain ⟨d', there, phase⟩ := drives id d here
  exact ⟨id, d', there, Drive.waits_congr phase waits⟩

theorem Accounted.next (accounted : e.Accounted) (healthy : e.Healthy) (scene : Scene) (event : Event) :
    (e.next scene event).1.Accounted := by
  cases event with
  | submit op cluster steps =>
    simp only [Engine.next]
    split
    · next moved accepted =>
      obtain ⟨-, -, free, rfl⟩ := submit_eq_ok.1 accepted
      refine accounted.same rfl fun id d here => ⟨d, ?_, rfl⟩
      have differ : id ≠ op.id := by
        rintro rfl
        rw [free] at here
        cases here
      exact (Dict.get?_insert_of_ne differ).trans here
    · exact accounted
  | cancel other =>
    refine accounted.same rfl fun id d here => ?_
    have found := Dict.get?_modify e.drives other id fun d => { d with cancelRequested := true }
    rw [here] at found
    by_cases same : id = other
    · exact ⟨_, found.trans (if_pos same), rfl⟩
    · exact ⟨d, found.trans (if_neg same), rfl⟩
  | shutdown =>
    refine accounted.same rfl fun id d here => ?_
    have found := Dict.get?_map (fun d : Drive => { d with cancelRequested := true }) e.drives id
    rw [here] at found
    exact ⟨_, found, rfl⟩
  | receive payload =>
    simp only [Engine.next, receive]
    split
    · refine accounted.same ?_ fun id d here => ⟨d, here, rfl⟩
      simp only [ReplyRouter.receive]
      split
      · exact ReplyRouter.waiting_route ..
      · rfl
    · exact accounted
  | step id =>
    simp only [Engine.next, Engine.step]
    split
    · next d here => exact accounted.moves healthy here (.step scene)
    · exact accounted
  | heed id =>
    simp only [Engine.next, Engine.heed]
    split
    · next d here => exact accounted.moves healthy here (.heed scene)
    · exact accounted
  | work id round index =>
    simp only [Engine.next, Engine.work]
    split
    · next d here => exact accounted.moves healthy here (.work scene round index)
    · exact accounted

/-- A drive that moves calls upon those that it called upon before, or upon new ones. -/
theorem Drive.Moves.calls (moves : d.Moves e.settings e.desk brought) (calls : brought.1.Calls key) :
    d.Calls key ∨ Identifiers.Between e.identifiers.used brought.2.identifiers.used key := by
  obtain ⟨effects, -, acts⟩ := moves.brings
  rcases acts.calls ((calls_station _).2 calls) with old | new
  · exact .inl ((calls_station _).1 old)
  · exact .inr new

/-- An identifier that is kept for some is kept for them. -/
theorem KeptFor.change (kept : e.KeptFor mine key) (change : Change e event moved) :
    moved.1.KeptFor mine key := by
  obtain ⟨used, others⟩ := kept
  cases change with
  | @moves event mover d brought here moves =>
    obtain ⟨effects, -, acts⟩ := moves.brings
    refine ⟨used.mono (Nat.le_refl _) acts.used_le, fun id d' away found calls => ?_⟩
    by_cases same : id = mover
    · subst same
      rcases get?_putBack_self e id brought with ⟨still, -⟩ | ⟨gone, -⟩
      · rw [still] at found
        obtain rfl := Option.some.inj found
        rcases moves.calls calls with old | new
        · exact others id d away here old
        · exact used.ne new (Nat.le_refl _) rfl
      · rw [gone] at found
        cases found
    · rw [get?_putBack_of_ne e brought same] at found
      exact others id d' away found calls
  | rests f settings identifiers drives same =>
    refine ⟨identifiers ▸ used, fun id d' away found calls => ?_⟩
    rw [drives, Option.map_eq_some_iff] at found
    obtain ⟨d, here, rfl⟩ := found
    exact others id d away here ((Drive.calls_congr (Drive.rests_asked (same id d)).2).1 calls)
  | submits accepted =>
    obtain ⟨-, -, -, rfl⟩ := submit_eq_ok.1 accepted
    refine ⟨used, fun id d' away found calls => ?_⟩
    simp only [Dict.get?_insert] at found
    split at found
    · cases found
      obtain ⟨step, nodeSteps, round, phase, -⟩ := calls
      cases phase
    · exact others id d' away found calls

theorem Apart.change (apart : e.Apart) (change : Change e event moved) : moved.1.Apart := by
  intro id d' key found calls
  -- Whoever was called upon before is kept for the same operation.
  have old {d : Drive} (here : e.drives.get? id = some d) (calls : d.Calls key) :
      moved.1.KeptFor (· = id) key := (apart id d key here calls).change change
  cases change with
  | @moves event mover d brought here moves =>
    by_cases same : id = mover
    · subst same
      rcases get?_putBack_self e id brought with ⟨still, -⟩ | ⟨gone, -⟩
      · rw [still] at found
        obtain rfl := Option.some.inj found
        rcases moves.calls calls with before | new
        · exact old here before
        · refine ⟨new.mono (Nat.zero_le _) (Nat.le_refl _), fun other d' away found' calls' => ?_⟩
          rw [get?_putBack_of_ne e brought away] at found'
          exact (apart other d' key found' calls').used.ne new (Nat.le_refl _) rfl
      · rw [gone] at found
        cases found
    · rw [get?_putBack_of_ne e brought same] at found
      exact old found calls
  | rests f settings identifiers drives same =>
    rw [drives, Option.map_eq_some_iff] at found
    obtain ⟨d, here, rfl⟩ := found
    exact old here ((Drive.calls_congr (Drive.rests_asked (same id d)).2).1 calls)
  | submits accepted =>
    obtain ⟨-, -, -, rfl⟩ := submit_eq_ok.1 accepted
    simp only [Dict.get?_insert] at found
    split at found
    · cases found
      obtain ⟨step, nodeSteps, round, phase, -⟩ := calls
      cases phase
    · exact old found calls

/-- An engine as it may have come to be, with its waiters in order. -/
structure Tidy (e : Engine) : Prop where
  healthy : e.Healthy
  accounted : e.Accounted
  apart : e.Apart

theorem tidy_started (settings : Settings) : (started settings).Tidy where
  healthy := healthy_started settings
  accounted key handle found := by simp [started, ReplyRouter.idle] at found
  apart id d key found := by simp [started] at found

theorem Tidy.run (tidy : e.Tidy) (history : List (Scene × Event)) : (e.run history).1.Tidy := by
  induction history generalizing e with
  | nil => exact tidy
  | cons first rest ih =>
    obtain ⟨healthy, accounted, apart⟩ := tidy
    exact ih ⟨healthy.next first.1 first.2, accounted.next healthy first.1 first.2,
      apart.change (next_change e first.1 first.2)⟩

theorem KeptFor.run (kept : e.KeptFor mine key) (history : List (Scene × Event)) :
    (e.run history).1.KeptFor mine key := by
  induction history generalizing e with
  | nil => exact kept
  | cons first rest ih => exact ih (kept.change (next_change e first.1 first.2))

/-- Nobody waits under an identifier that is kept for nobody. -/
theorem Tidy.waiting_eq_none (tidy : e.Tidy) (kept : e.KeptFor (fun _ => False) key) :
    e.router.waiting.get? key = none := by
  by_contra present
  obtain ⟨handle, found⟩ := Option.ne_none_iff_exists'.1 present
  obtain ⟨id, d, here, waits⟩ := tidy.accounted key handle found
  exact kept.others id d not_false here waits.calls

/-- What was kept for an operation that has ended is kept for nobody. -/
theorem KeptFor.of_absent (kept : e.KeptFor (· = id) key) (absent : e.drives.get? id = none) :
    e.KeptFor (fun _ => False) key where
  used := kept.used
  others other d _ found := by
    refine kept.others other d ?_ found
    rintro rfl
    rw [absent] at found
    cases found

end

end Engine

end Muster
