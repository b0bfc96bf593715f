import Muster.Proofs.ReplyRouter
import Muster.Proofs.Sending

/-!
# What has been answered

The log of an engine holds the replies that it routes next to what it does to the world. A task is
`Confirmed` when a reply that answers it with success stands in the log after its envelope. A node step
that waits knows only of confirmed tasks and of replies that came after the outstanding envelope went out
(`Exchange.Vouched`), since a mailbox is emptied whenever an envelope is sent and is filled by routing
alone. So a node step that has succeeded had all its tasks confirmed.
-/

set_option autoImplicit false

namespace Muster

/-! ### Mailboxes that hold nothing new -/

namespace ReplyRouter

/-- Mailboxes are opened, emptied and closed, and those that were open hold nothing new. -/
structure Recedes (r t : ReplyRouter) : Prop where
  sound : r.Sound → t.Sound
  opened : r.opened ≤ t.opened
  mailbox : ∀ handle m, handle < r.opened → t.mailbox? handle = some m →
    ∃ old, r.mailbox? handle = some old ∧ m.nodeStepId = old.nodeStepId ∧
      ∀ reply ∈ m.replies, reply ∈ old.replies

variable {r t u : ReplyRouter}

theorem Recedes.refl (r : ReplyRouter) : r.Recedes r :=
  ⟨id, Nat.le_refl _, fun _ m _ found => ⟨m, found, rfl, fun _ => id⟩⟩

theorem Recedes.trans (first : r.Recedes t) (second : t.Recedes u) : r.Recedes u where
  sound h := second.sound (first.sound h)
  opened := Nat.le_trans first.opened second.opened
  mailbox handle m below found := by
    have below' := Nat.lt_of_lt_of_le below first.opened
    obtain ⟨between, found, same, among⟩ := second.mailbox handle m below' found
    obtain ⟨old, found, same', among'⟩ := first.mailbox handle between below found
    exact ⟨old, found, same.trans same', fun reply member => among' reply (among reply member)⟩

theorem recedes_register (r : ReplyRouter) (id : String) : r.Recedes (r.register id).1 where
  sound h := h.register id
  opened := Nat.le_succ _
  mailbox handle m below found := by
    rw [mailbox?_register_of_ne (Nat.ne_of_lt below)] at found
    exact ⟨m, found, rfl, fun _ member => member⟩

theorem recedes_discard (r : ReplyRouter) (handle : Nat) : r.Recedes (r.discard handle) where
  sound h := h.setReplies handle []
  opened := Nat.le_refl _
  mailbox other m _ found := by
    rw [discard, mailbox?_setReplies] at found
    split at found
    · obtain ⟨old, present, rfl⟩ := Option.map_eq_some_iff.1 found
      exact ⟨old, present, rfl, fun _ member => absurd member List.not_mem_nil⟩
    · exact ⟨m, found, rfl, fun _ => id⟩

theorem recedes_release (r : ReplyRouter) (handle : Nat) : r.Recedes (r.release handle) where
  sound h := h.release handle
  opened := Nat.le_refl _
  mailbox other m _ found := by
    rw [mailbox?_release] at found
    split at found
    · cases found
    · exact ⟨m, found, rfl, fun _ => id⟩

theorem recedes_foldl_release (r : ReplyRouter) (handles : List Nat) :
    r.Recedes (handles.foldl release r) := by
  induction handles generalizing r with
  | nil => exact .refl r
  | cons handle rest ih => exact (recedes_release r handle).trans (ih (r.release handle))

end ReplyRouter

namespace Engine

/-! ### Confirmed tasks -/

/-- What an engine shows of itself, the replies that it routes included. -/
inductive Entry where
  | heard (reply : Reply)
  | did (effect : Effect)
  deriving DecidableEq

/-- The envelope was sent to the node, and a reply that answers it with success came after that. A reply
answers for the node step and the position that it names. -/
def Confirmed (log : List Entry) (nodeId : String) (envelope : Envelope) : Prop :=
  ∃ before after reply, log = before ++ .did (.send nodeId envelope) :: after ∧ .heard reply ∈ after ∧
    reply.nodeStepId = envelope.nodeStepId ∧ reply.taskIndex = envelope.taskIndex ∧ reply.isSuccess = true

/-- The first tasks of a node step are confirmed, so many of them. -/
def Through (s : Settings) (c : RoundContext) (id : String) (n : NodeStep) (log : List Entry)
    (count : Nat) : Prop :=
  ∀ k task, k < count → n.tasks[k]? = some task →
    Confirmed log n.nodeId (Exchange.envelope s c id k task)

section

variable {s : Settings} {c : RoundContext} {id : String} {n : NodeStep} {log : List Entry} {count : Nat}

/-- What is confirmed stays so. -/
theorem Confirmed.append {nodeId : String} {envelope : Envelope} (h : Confirmed log nodeId envelope)
    (more : List Entry) : Confirmed (log ++ more) nodeId envelope := by
  obtain ⟨before, after, reply, rfl, heard, answers⟩ := h
  exact ⟨before, after ++ more, reply, by simp, List.mem_append_left _ heard, answers⟩

theorem Through.append (h : Through s c id n log count) (more : List Entry) :
    Through s c id n (log ++ more) count :=
  fun k task below found => (h k task below found).append more

theorem through_zero : Through s c id n log 0 := fun _ _ below => absurd below (Nat.not_lt_zero _)

end

/-! ### One node step -/

/-- A node step that waits: the tasks before the outstanding one are confirmed, and whatever is in its
mailbox carries its identifier and came after the outstanding envelope went out. -/
structure Exchange.Vouched (s : Settings) (c : RoundContext) (id : String) (n : NodeStep)
    (log : List Entry) (router : ReplyRouter) (e : Exchange) : Prop where
  faithful : e.Faithful id n
  through : Through s c id n log e.index
  opened : e.handle < router.opened
  asked : ∃ task before after, n.tasks[e.index]? = some task ∧
    log = before ++ .did (.send n.nodeId (Exchange.envelope s c id e.index task)) :: after ∧
    ∀ m, router.mailbox? e.handle = some m →
      m.nodeStepId = id ∧ ∀ reply ∈ m.replies, reply.nodeStepId = id ∧ .heard reply ∈ after

/-- A move leaves a node step that waits as it should, and ends it with success only when all its tasks
are confirmed. -/
structure Move.Vouched (s : Settings) (c : RoundContext) (id : String) (n : NodeStep) (log : List Entry)
    (move : Move) : Prop where
  waiting : ∀ e, move.standing = .waiting e →
    e.Vouched s c id n (log ++ move.effects.map .did) move.router
  ended : ∀ data, move.standing = .ended (.succeeded data) →
    Through s c id n (log ++ move.effects.map .did) n.tasks.length

section

variable {s : Settings} {c : RoundContext} {id : String} {n : NodeStep} {log : List Entry}
  {router : ReplyRouter} {e : Exchange}

theorem Exchange.Vouched.append (h : e.Vouched s c id n log router) (more : List Entry) :
    e.Vouched s c id n (log ++ more) router := by
  obtain ⟨task, before, after, here, rfl, mailbox⟩ := h.asked
  refine ⟨h.faithful, h.through.append more, h.opened, task, before, after ++ more, here, by simp, ?_⟩
  intro m found
  obtain ⟨owner, replies⟩ := mailbox m found
  exact ⟨owner, fun reply member =>
    ⟨(replies reply member).1, List.mem_append_left _ (replies reply member).2⟩⟩

theorem Exchange.Vouched.recedes {router' : ReplyRouter} (h : e.Vouched s c id n log router)
    (recedes : router.Recedes router') : e.Vouched s c id n log router' := by
  obtain ⟨task, before, after, here, same, mailbox⟩ := h.asked
  refine ⟨h.faithful, h.through, Nat.lt_of_lt_of_le h.opened recedes.opened, task, before, after,
    here, same, ?_⟩
  intro m found
  obtain ⟨old, found, owner, among⟩ := recedes.mailbox e.handle m h.opened found
  obtain ⟨owner', replies⟩ := mailbox old found
  exact ⟨owner.trans owner', fun reply member => replies reply (among reply member)⟩

/-- A reply that is routed is in the log before anybody finds it. -/
theorem Exchange.Vouched.routes (h : e.Vouched s c id n log router) (sound : router.Sound) (reply : Reply) :
    e.Vouched s c id n (log ++ [.heard reply]) (router.route reply).2 := by
  obtain ⟨task, before, after, here, rfl, mailbox⟩ := h.asked
  have opened : e.handle < (router.route reply).2.opened := by
    rw [ReplyRouter.route]
    split <;> exact h.opened
  refine ⟨h.faithful, h.through.append _, opened, task, before, after ++ [.heard reply], here, by simp, ?_⟩
  intro m found
  cases present : router.mailbox? e.handle with
  | none =>
    have gone : (router.route reply).2.mailbox? e.handle = none := by
      rw [ReplyRouter.route]
      split
      · simp [ReplyRouter.mailbox?_setReplies, present]
      · exact present
    rw [gone] at found
    cases found
  | some old =>
    have spares : (ReplyRouter.Traffic.reply reply).Spares e.handle := trivial
    obtain ⟨there, carries⟩ := sound.mailbox?_bear present spares
    have same := found.symm.trans there
    obtain rfl := Option.some.inj same
    obtain ⟨owner, replies⟩ := mailbox old present
    refine ⟨owner, fun other member => ?_⟩
    rcases List.mem_append.1 member with unread | new
    · exact ⟨(replies other unread).1, List.mem_append_left _ (replies other unread).2⟩
    · refine ⟨(carries other new).trans owner, List.mem_append_right _ ?_⟩
      simp only [ReplyRouter.delivered] at new
      split at new
      · rw [List.mem_singleton.1 new]
        exact List.mem_singleton_self _
      · cases new

/-- A reply in the mailbox that answers the outstanding task with success confirms it. -/
theorem Exchange.Vouched.confirms (h : e.Vouched s c id n log router) {reply : Reply}
    (member : reply ∈ router.replies e.handle) (index : reply.taskIndex.toNat = e.index)
    (success : reply.isSuccess = true) : Through s c id n log (e.index + 1) := by
  obtain ⟨task, before, after, here, split, mailbox⟩ := h.asked
  intro k other below found
  rcases Nat.lt_succ_iff_lt_or_eq.1 below with earlier | rfl
  · exact h.through k other earlier found
  · rw [here] at found
    obtain rfl := Option.some.inj found
    cases present : router.mailbox? e.handle with
    | none => simp [ReplyRouter.replies, present] at member
    | some m =>
      rw [ReplyRouter.replies_of_mailbox? present] at member
      obtain ⟨carries, heard⟩ := (mailbox m present).2 reply member
      have position : reply.taskIndex = e.index.toUInt64 := by
        rw [← index]
        exact UInt64.ofNat_toNat.symm
      exact ⟨before, after, reply, split, heard, carries, position, success⟩

/-! ### Moves of a node step -/

theorem Exchange.vouched_conclude (handle : Nat) {outcome : Outcome}
    (through : ∀ data, outcome = .succeeded data → Through s c id n log n.tasks.length) :
    (Exchange.conclude router handle outcome).Vouched s c id n log where
  waiting _ waits := nomatch waits
  ended data same := by
    cases same
    simpa [Exchange.conclude] using through data rfl

theorem Exchange.vouched_failed (handle : Nat) {outcome : Outcome}
    (failed : ∀ data, outcome ≠ .succeeded data) :
    (Exchange.conclude router handle outcome).Vouched s c id n log :=
  vouched_conclude handle fun data same => absurd same (failed data)

theorem Exchange.recedes_dispatch (scene : Scene) (tasks : List Task) (index : Nat) :
    router.Recedes (Exchange.dispatch s c scene router e index tasks).router := by
  cases tasks with
  | nil => exact ReplyRouter.recedes_release ..
  | cons task rest =>
    rw [Exchange.dispatch]
    split
    · exact ReplyRouter.recedes_discard ..
    · exact ReplyRouter.recedes_release ..

theorem Exchange.recedes_begin (scene : Scene) :
    router.Recedes (Exchange.begin s c scene router id n).router :=
  (ReplyRouter.recedes_register router id).trans (recedes_dispatch ..)

theorem Exchange.recedes_resume (scene : Scene) : router.Recedes (e.resume s c scene router).router := by
  have emptied := ReplyRouter.recedes_discard router e.handle
  simp only [Exchange.resume]
  split
  · split
    · exact emptied.trans (ReplyRouter.recedes_release ..)
    · split
      · exact emptied.trans (ReplyRouter.recedes_release ..)
      · exact emptied
  · split
    · exact recedes_dispatch ..
    · exact ReplyRouter.recedes_release ..

/-- The next task goes out once those before it are confirmed. -/
theorem Exchange.vouched_dispatch {tasks : List Task} {index : Nat} (scene : Scene)
    (nodeStepId : e.nodeStepId = id) (nodeId : e.nodeId = n.nodeId) (left : tasks = n.tasks.drop index)
    (through : Through s c id n log index) (opened : e.handle < router.opened)
    (owner : ∀ m, router.mailbox? e.handle = some m → m.nodeStepId = id) :
    (Exchange.dispatch s c scene router e index tasks).Vouched s c id n log := by
  have speaks := Exchange.speaks_dispatch (s := s) (c := c) scene router nodeStepId nodeId left
  cases tasks with
  | nil =>
    refine vouched_conclude _ fun data _ k task below found => through k task ?_ found
    exact Nat.lt_of_lt_of_le below (List.drop_eq_nil_iff.1 left.symm)
  | cons task rest =>
    have here : n.tasks[index]? = some task := by
      rw [← List.head?_drop, ← left]
      rfl
    rw [Exchange.dispatch] at speaks ⊢
    split at speaks
    · next accepts =>
      rw [if_pos accepts, nodeStepId, nodeId] at *
      refine ⟨fun e' waits => ?_, fun data same => by cases same⟩
      have faithful := speaks.faithful e' waits
      cases waits
      refine ⟨faithful, through.append _, opened, task, log, [], here, rfl, fun m found => ?_⟩
      -- Whatever was in the mailbox has been thrown away.
      rw [ReplyRouter.discard, ReplyRouter.mailbox?_setReplies, if_pos rfl] at found
      obtain ⟨old, present, rfl⟩ := Option.map_eq_some_iff.1 found
      exact ⟨owner old present, fun _ member => absurd member List.not_mem_nil⟩
    · next refuses =>
      rw [if_neg refuses]
      exact vouched_failed _ (by simp)

theorem Exchange.vouched_begin (scene : Scene) (sound : router.Sound) :
    (Exchange.begin s c scene router id n).Vouched s c id n log := by
  refine vouched_dispatch scene rfl rfl (List.drop_zero).symm through_zero (Nat.lt_succ_self _) ?_
  intro m found
  obtain rfl := Option.some.inj ((sound.mailbox?_register id).symm.trans found)
  rfl

theorem Exchange.Vouched.resume (h : e.Vouched s c id n log router) (scene : Scene) :
    (e.resume s c scene router).Vouched s c id n log := by
  have owner : ∀ m, router.mailbox? e.handle = some m → m.nodeStepId = id := by
    obtain ⟨task, before, after, -, -, mailbox⟩ := h.asked
    exact fun m found => (mailbox m found).1
  simp only [Exchange.resume]
  split
  · split
    · exact vouched_failed _ (by simp)
    · split
      · exact vouched_failed _ (by simp)
      · refine ⟨fun e' waits => ?_, fun data same => by cases same⟩
        cases waits
        exact (h.recedes (ReplyRouter.recedes_discard router e.handle)).append _
  · next reply later found =>
    have member : reply ∈ router.replies e.handle :=
      (List.dropWhile_sublist _).subset (found ▸ List.mem_cons_self)
    have index : reply.taskIndex.toNat = e.index := by
      have first := List.head?_dropWhile_not (fun r : Reply => decide (r.taskIndex.toNat ≠ e.index))
        (router.replies e.handle)
      rw [found, List.head?_cons] at first
      simpa using first
    split
    · next success =>
      exact vouched_dispatch scene h.faithful.nodeStepId h.faithful.nodeId h.faithful.rest
        (h.confirms member index success) h.opened owner
    · exact vouched_failed _ (by simp)

end

/-! ### A whole round -/

/-- Nobody waits here, and no success has been handed in. -/
structure Slot.Mute (slot : Slot) : Prop where
  waiting : ∀ e, slot ≠ .running e
  ended : ∀ data, slot ≠ .ended (.succeeded data)

/-- A lane whose node step waits as it should, or has handed in a success with all its tasks confirmed. -/
structure Lane.Vouched (s : Settings) (c : RoundContext) (log : List Entry) (router : ReplyRouter)
    (lane : Lane) : Prop where
  waiting : ∀ e, lane.slot = .running e → e.Vouched s c lane.id lane.nodeStep log router
  ended : ∀ data, lane.slot = .ended (.succeeded data) →
    Through s c lane.id lane.nodeStep log lane.nodeStep.tasks.length

namespace Round

/-- What is said at the lanes of a round is vouched for by the log. -/
def Vouched (s : Settings) (log : List Entry) (router : ReplyRouter) (r : Round) : Prop :=
  ∀ lane ∈ r.lanes, lane.Vouched s r.context log router

/-- A round goes on as another one, at whose lanes nothing more is said. -/
structure Abates (r t : Round) : Prop where
  context : t.context = r.context
  lanes : ∀ lane ∈ t.lanes, ∃ old ∈ r.lanes, lane.id = old.id ∧ lane.nodeStep = old.nodeStep ∧
    (lane.slot = old.slot ∨ lane.slot.Mute)

section

variable {s : Settings} {c : RoundContext} {log : List Entry} {router router' : ReplyRouter}
  {r t u : Round} {i : Nat} {slot : Slot} {lane : Lane} {outcome : Outcome}

theorem mem_lanes_setSlot (member : lane ∈ (r.setSlot i slot).lanes) :
    lane ∈ r.lanes ∨ ∃ old, r.lanes[i]? = some old ∧ lane = { old with slot } := by
  obtain ⟨j, found⟩ := List.mem_iff_getElem?.1 member
  simp only [setSlot, List.getElem?_modify] at found
  by_cases here : i = j
  · subst here
    simp only [if_true, Option.map_eq_map, Option.map_eq_some_iff] at found
    obtain ⟨old, there, rfl⟩ := found
    exact .inr ⟨old, there, rfl⟩
  · simp only [here, if_false, Option.map_eq_map, Option.map_id_fun', id] at found
    exact .inl (List.mem_of_getElem? found)

theorem Abates.trans (first : r.Abates t) (second : t.Abates u) : r.Abates u where
  context := second.context.trans first.context
  lanes lane member := by
    obtain ⟨between, member, id, nodeStep, slot⟩ := second.lanes lane member
    obtain ⟨old, member, id', nodeStep', slot'⟩ := first.lanes between member
    refine ⟨old, member, id.trans id', nodeStep.trans nodeStep', ?_⟩
    rcases slot with same | mute
    · rw [same]
      exact slot'
    · exact .inr mute

theorem abates_of_lanes (lanes : t.lanes = r.lanes) (context : t.context = r.context) : r.Abates t :=
  ⟨context, fun lane member => ⟨lane, lanes ▸ member, rfl, rfl, .inl rfl⟩⟩

theorem abates_setSlot (mute : slot.Mute) : r.Abates (r.setSlot i slot) := by
  refine ⟨rfl, fun lane member => ?_⟩
  rcases mem_lanes_setSlot member with old | ⟨old, here, rfl⟩
  · exact ⟨lane, old, rfl, rfl, .inl rfl⟩
  · exact ⟨old, List.mem_of_getElem? here, rfl, rfl, .inr mute⟩

theorem abates_report (r : Round) (i : Nat) (fails : ∀ data, outcome ≠ .succeeded data) :
    r.Abates (r.report i outcome) := by
  have ended : r.Abates (r.setSlot i (.ended outcome)) :=
    abates_setSlot ⟨by simp, fun data same => fails data (Slot.ended.inj same)⟩
  exact ended.trans (abates_of_lanes rfl rfl)

theorem abates_release (r : Round) : r.Abates r.release := by
  rw [release]
  split
  · exact abates_of_lanes rfl rfl
  · next next line found =>
    have granted : r.Abates (r.setSlot next .granted) := abates_setSlot ⟨by simp, by simp⟩
    exact granted.trans (abates_of_lanes rfl rfl)

theorem abates_passOn (r : Round) (halts : Bool) (outcome : Outcome) :
    r.Abates (r.passOn halts outcome) := by
  have halted : r.Abates { r with halted := r.halted || halts } := abates_of_lanes rfl rfl
  rw [passOn]
  split
  · exact halted.trans (abates_release _)
  · exact halted

theorem abates_of_took (took : r.Took lane outcome t) : r.Abates t := by
  refine ⟨took.context, fun l member => ?_⟩
  rcases took.others l member with old | rfl
  · exact ⟨l, old, rfl, rfl, .inl rfl⟩
  · exact ⟨lane, took.mem, rfl, rfl, .inr ⟨by simp, by simp⟩⟩

/-! ### What is vouched for stays so -/

theorem Vouched.append (h : r.Vouched s log router) (more : List Entry) :
    r.Vouched s (log ++ more) router := fun lane member =>
  ⟨fun e waits => ((h lane member).waiting e waits).append more,
    fun data ended => ((h lane member).ended data ended).append more⟩

theorem Vouched.recedes (h : r.Vouched s log router) (recedes : router.Recedes router') :
    r.Vouched s log router' := fun lane member =>
  ⟨fun e waits => ((h lane member).waiting e waits).recedes recedes, (h lane member).ended⟩

theorem Vouched.routes (h : r.Vouched s log router) (sound : router.Sound) (reply : Reply) :
    r.Vouched s (log ++ [.heard reply]) (router.route reply).2 := fun lane member =>
  ⟨fun e waits => ((h lane member).waiting e waits).routes sound reply,
    fun data ended => ((h lane member).ended data ended).append _⟩

theorem Vouched.abates (h : r.Vouched s log router) (abates : r.Abates t) : t.Vouched s log router := by
  intro lane member
  obtain ⟨old, present, id, nodeStep, slot⟩ := abates.lanes lane member
  have before := h old present
  rw [abates.context]
  rcases slot with same | mute
  · refine ⟨fun e waits => ?_, fun data ended => ?_⟩
    · rw [id, nodeStep]
      exact before.waiting e (same.symm.trans waits)
    · rw [id, nodeStep]
      exact before.ended data (same.symm.trans ended)
  · exact ⟨fun e waits => absurd waits (mute.waiting e), fun data ended => absurd ended (mute.ended data)⟩

theorem vouched_begin (s : Settings) (scene : Scene) (skip : Bool) (c : RoundContext)
    (named : List (String × NodeStep)) : (begin s scene skip c named).Vouched s log router := by
  intro lane member
  simp only [begin, List.mem_map] at member
  obtain ⟨entry, -, rfl⟩ := member
  refine ⟨fun e waits => ?_, fun data ended => ?_⟩
  · simp only [firstSlot] at waits
    split at waits <;> cases waits
  · simp only [firstSlot] at ended
    split at ended <;> cases ended

/-! ### A node step goes on -/

theorem recedes_start (s : Settings) (scene : Scene) (desk : Desk) (r : Round) (i : Nat) :
    desk.router.Recedes (start s scene desk r i).2.router := by
  rw [start]
  split
  · exact .refl _
  · exact Exchange.recedes_begin scene

/-- A node step that goes on puts nothing into a mailbox. -/
theorem recedes_work (s : Settings) (scene : Scene) (desk : Desk) (r : Round) (i : Nat) :
    desk.router.Recedes (r.work s scene desk i).2.router := by
  rw [work]
  split
  · split
    · exact .refl _
    · split
      · exact .refl _
      · exact recedes_start ..
  · split <;> exact .refl _
  · split
    · exact .refl _
    · exact recedes_start ..
  · exact Exchange.recedes_resume scene
  · exact .refl _

/-- What a node step that goes on leaves: everything that is said is vouched for by the longer log. -/
structure Vouches (s : Settings) (log : List Entry) (desk : Desk) (after : Round × Desk)
    (sent : List Effect) : Prop where
  effects : after.2.effects = desk.effects ++ sent
  vouched : after.1.Vouched s (log ++ sent.map .did) after.2.router

variable {desk : Desk}

theorem vouches_nothing (vouched : t.Vouched s log desk.router) : Vouches s log desk (t, desk) [] where
  effects := (List.append_nil _).symm
  vouched := by
    rw [List.map_nil, List.append_nil]
    exact vouched

theorem Vouched.follow {move : Move} (h : r.Vouched s log desk.router) (here : r.lanes[i]? = some lane)
    (recedes : desk.router.Recedes move.router)
    (moved : move.Vouched s r.context lane.id lane.nodeStep log) :
    Vouches s log desk (r.follow i move, desk.follow move) move.effects := by
  refine ⟨rfl, ?_⟩
  have others := (h.append (move.effects.map .did)).recedes recedes
  have placed (slot : Slot) (vouched : ({ lane with slot } : Lane).Vouched s r.context
      (log ++ move.effects.map .did) move.router) :
      (r.setSlot i slot).Vouched s (log ++ move.effects.map .did) move.router := by
    intro l member
    rcases mem_lanes_setSlot member with old | ⟨old, there, rfl⟩
    · exact others l old
    · rw [here] at there
      obtain rfl := Option.some.inj there
      exact vouched
  rw [Round.follow]
  split
  · next e waits =>
    refine placed _ ⟨fun e' running => ?_, fun data ended => by cases ended⟩
    cases running
    exact moved.waiting e waits
  · next outcome atEnd =>
    refine (placed (.ended outcome) ⟨fun e running => (by cases running), fun data ended => ?_⟩).abates
      (abates_of_lanes rfl rfl)
    cases ended
    exact moved.ended data atEnd

theorem Vouched.start (h : r.Vouched s log desk.router) (sound : desk.router.Sound) (scene : Scene)
    (i : Nat) : ∃ sent, Vouches s log desk (start s scene desk r i) sent := by
  rw [Round.start]
  split
  · exact ⟨[], vouches_nothing h⟩
  · next lane here =>
    exact ⟨_, h.follow here (Exchange.recedes_begin scene) (Exchange.vouched_begin scene sound)⟩

/-- **A node step that goes on** says no more than the log vouches for. -/
theorem Vouched.work (h : r.Vouched s log desk.router) (sound : desk.router.Sound) (scene : Scene)
    (i : Nat) : ∃ sent, Vouches s log desk (r.work s scene desk i) sent := by
  rw [Round.work]
  split
  · split
    · exact ⟨[], vouches_nothing (h.abates (abates_report _ _ (by simp)))⟩
    · split
      · have queued : r.Abates (r.setSlot i .queued) := abates_setSlot ⟨by simp, by simp⟩
        exact ⟨[], vouches_nothing (h.abates (queued.trans (abates_of_lanes rfl rfl)))⟩
      · have taken : r.Abates { r with free := r.free - 1 } := abates_of_lanes rfl rfl
        exact (h.abates taken).start sound scene i
  · split
    · have left : r.Abates { r with line := r.line.filter fun j => j ≠ i } := abates_of_lanes rfl rfl
      exact ⟨[], vouches_nothing (h.abates (left.trans (abates_report _ _ (by simp))))⟩
    · exact ⟨[], vouches_nothing h⟩
  · split
    · exact ⟨[], vouches_nothing (h.abates ((abates_release r).trans (abates_report _ _ (by simp))))⟩
    · exact h.start sound scene i
  · next e here =>
    simp only [slot?, Option.map_eq_some_iff] at here
    obtain ⟨lane, there, running⟩ := here
    have waits := (h lane (List.mem_of_getElem? there)).waiting e running
    exact ⟨_, h.follow there (Exchange.recedes_resume scene) (waits.resume scene)⟩
  · exact ⟨[], vouches_nothing h⟩

end

end Round

end Engine

end Muster
