import Muster.Proofs.Cancellation
import Muster.Proofs.Envelope
import Muster.Proofs.Exchange
import Muster.Proofs.Proceedings

/-!
# Replies that nobody asked for

Two sessions of one node step are compared. They hear the same replies to the tasks that they wait for,
and apart from that anything may come to one of them and not to the other: replies to other node steps,
to other tasks, to a task that has been answered, and whatever others do with their own mailboxes. As
long as nobody else opens a mailbox under the identifier of the node step, what matters of a router is
the first reply in the mailbox to the outstanding task (`Twin`), so the two send the same envelopes at
the same moments and end alike.
-/

set_option autoImplicit false

namespace Muster

namespace ReplyRouter

/-- What does not concern whoever waits under an identifier. -/
def Traffic.Foreign (id : String) : Traffic → Prop
  | .reply r => r.nodeStepId ≠ id
  | .opens other => other ≠ id
  | _ => True

instance (id : String) : (t : Traffic) → Decidable (t.Foreign id)
  | .reply r => inferInstanceAs (Decidable (r.nodeStepId ≠ id))
  | .opens other => inferInstanceAs (Decidable (other ≠ id))
  | .empties _ => inferInstanceAs (Decidable True)
  | .closes _ => inferInstanceAs (Decidable True)

/-- The first reply in a mailbox to the task at an index. -/
def answer? (r : ReplyRouter) (handle index : Nat) : Option Reply :=
  (r.replies handle).find? fun reply => decide (reply.taskIndex.toNat = index)

/-- Nobody has a mailbox under an identifier. -/
def Vacant (r : ReplyRouter) (id : String) : Prop := ∀ m ∈ r.mailboxes, m.nodeStepId ≠ id

/-- There is one mailbox under an identifier, and the replies find their way into it. -/
structure Owned (r : ReplyRouter) (id : String) (handle : Nat) : Prop where
  sound : r.Sound
  mailbox : ∃ m, r.mailbox? handle = some m ∧ m.nodeStepId = id
  waiting : r.waiting.get? id = some handle
  alone : ∀ m ∈ r.mailboxes, m.nodeStepId = id → m.handle = handle

section

variable {r : ReplyRouter} {id : String} {handle : Nat} {t : Traffic} {reply : Reply}

/-- A mailbox is an old one or has just been opened. -/
theorem mem_mailboxes_bear {m : Mailbox} (member : m ∈ (r.bear t).mailboxes) :
    (∃ old ∈ r.mailboxes, old.handle = m.handle ∧ old.nodeStepId = m.nodeStepId) ∨
      t = .opens m.nodeStepId := by
  have emptied (handle : Nat) (replies : List Reply) (member : m ∈ (r.setReplies handle replies).mailboxes) :
      ∃ old ∈ r.mailboxes, old.handle = m.handle ∧ old.nodeStepId = m.nodeStepId := by
    simp only [setReplies, List.mem_map] at member
    obtain ⟨old, present, rfl⟩ := member
    refine ⟨old, present, ?_⟩
    split <;> exact ⟨rfl, rfl⟩
  cases t with
  | reply reply =>
    simp only [bear, route] at member
    split at member
    · exact .inl (emptied _ _ member)
    · exact .inl ⟨m, member, rfl, rfl⟩
  | opens other =>
    simp only [bear, register, List.mem_append, List.mem_singleton] at member
    rcases member with old | rfl
    · exact .inl ⟨m, old, rfl, rfl⟩
    · exact .inr rfl
  | empties other => exact .inl (emptied _ _ member)
  | closes other =>
    simp only [bear, release, List.mem_filter] at member
    exact .inl ⟨m, member.1, rfl, rfl⟩

theorem Vacant.bear (vacant : r.Vacant id) (fresh : t ≠ .opens id) : (r.bear t).Vacant id := by
  intro m member same
  rcases mem_mailboxes_bear member with ⟨old, present, -, owner⟩ | opened
  · exact vacant old present (owner.trans same)
  · exact fresh (same ▸ opened)

/-- Where nobody has opened a mailbox under an identifier there is none. -/
theorem vacant_foldl_bear {before : List Traffic} (fresh : ∀ t ∈ before, t ≠ .opens id) :
    (before.foldl ReplyRouter.bear .idle).Vacant id := by
  have lasting {r : ReplyRouter} (vacant : r.Vacant id) : (before.foldl ReplyRouter.bear r).Vacant id := by
    induction before generalizing r with
    | nil => exact vacant
    | cons first rest ih =>
      exact ih (fun t member => fresh t (List.mem_cons_of_mem _ member))
        (vacant.bear (fresh first List.mem_cons_self))
  exact lasting (by simp [Vacant, idle])

theorem Owned.reaches (owned : r.Owned id handle) : r.reaches handle = true := by
  obtain ⟨m, found, rfl⟩ := owned.mailbox
  simp [ReplyRouter.reaches, found, owned.waiting]

/-- A mailbox that is opened under a new identifier is the only one, and it is empty. -/
theorem Sound.owned_register (sound : r.Sound) (vacant : r.Vacant id) :
    (r.register id).1.Owned id r.opened ∧ (r.register id).1.replies r.opened = [] := by
  have mine := sound.mailbox?_register id
  refine ⟨⟨sound.register id, ⟨_, mine, rfl⟩, Dict.get?_insert_self .., fun m member same => ?_⟩,
    replies_of_mailbox? mine⟩
  simp only [ReplyRouter.register, List.mem_append, List.mem_singleton] at member
  rcases member with old | rfl
  · exact absurd same (vacant m old)
  · rfl

/-- The mailbox stays the only one whatever others do with theirs. -/
theorem Owned.bear (owned : r.Owned id handle) (spares : t.Spares handle) (fresh : t ≠ .opens id) :
    (r.bear t).Owned id handle where
  sound := owned.sound.bear t
  mailbox := by
    obtain ⟨m, found, owner⟩ := owned.mailbox
    exact ⟨_, (owned.sound.mailbox?_bear found spares).1, owner⟩
  waiting := by
    cases t with
    | reply reply => exact (congrArg (fun waiting => waiting.get? id) (waiting_route r reply)).trans owned.waiting
    | opens other =>
      have differ : id ≠ other := fun same => fresh (same ▸ rfl)
      exact (Dict.get?_insert_of_ne differ).trans owned.waiting
    | empties other => exact owned.waiting
    | closes other =>
      simp only [ReplyRouter.bear, release]
      split
      · next m found =>
        -- Whoever closes another mailbox gives up another identifier.
        have differ : id ≠ m.nodeStepId := fun same =>
          spares ((handle_of_mailbox? found).symm.trans
            (owned.alone m (List.mem_of_find?_eq_some found) same.symm))
        rw [Dict.get?_erase, if_neg differ]
        exact owned.waiting
      · exact owned.waiting
  alone m member same := by
    rcases mem_mailboxes_bear member with ⟨old, present, handles, owner⟩ | opened
    · exact handles.symm.trans (owned.alone old present (owner.trans same))
    · exact absurd (same ▸ opened) fresh

theorem Owned.bear_reply (owned : r.Owned id handle) (reply : Reply) : (r.bear (.reply reply)).Owned id handle :=
  owned.bear (t := .reply reply) trivial (by simp)

theorem Owned.replies_bear (owned : r.Owned id handle) (spares : t.Spares handle) :
    (r.bear t).replies handle = r.replies handle ++ r.delivered handle t := by
  obtain ⟨m, found, -⟩ := owned.mailbox
  rw [replies_of_mailbox? (owned.sound.mailbox?_bear found spares).1, replies_of_mailbox? found]

theorem Owned.delivered_of_foreign (owned : r.Owned id handle) (foreign : t.Foreign id) :
    r.delivered handle t = [] := by
  cases t with
  | reply reply =>
    refine if_neg fun found => foreign ?_
    obtain ⟨m, mine, owner⟩ := owned.mailbox
    obtain ⟨m', mine', owner'⟩ := owned.sound.waiting _ _ found
    rw [mine] at mine'
    obtain rfl := Option.some.inj mine'
    exact owner'.symm.trans owner
  | _ => rfl

theorem Owned.delivered_reply (owned : r.Owned id handle) (mine : reply.nodeStepId = id) :
    r.delivered handle (.reply reply) = [reply] :=
  if_pos (mine ▸ owned.waiting)

theorem Owned.discard (owned : r.Owned id handle) :
    (r.discard handle).Owned id handle ∧ (r.discard handle).replies handle = [] := by
  obtain ⟨m, found, owner⟩ := owned.mailbox
  have emptied : (r.discard handle).mailbox? handle = some { m with replies := [] } := by
    rw [ReplyRouter.discard, mailbox?_setReplies, if_pos rfl, found]
    rfl
  refine ⟨⟨owned.sound.setReplies handle [], ⟨_, emptied, owner⟩, owned.waiting, fun m' member same => ?_⟩,
    replies_of_mailbox? emptied⟩
  rcases mem_mailboxes_bear (t := .empties handle) member with ⟨old, present, handles, owner⟩ | opened
  · exact handles.symm.trans (owned.alone old present (owner.trans same))
  · cases opened

theorem Owned.answer?_discard (owned : r.Owned id handle) (index : Nat) :
    (r.discard handle).answer? handle index = none := by
  rw [answer?, owned.discard.2]
  rfl

theorem Owned.answer?_foreign (owned : r.Owned id handle) (spares : t.Spares handle) (foreign : t.Foreign id)
    (index : Nat) : (r.bear t).answer? handle index = r.answer? handle index := by
  rw [answer?, answer?, owned.replies_bear spares, owned.delivered_of_foreign foreign, List.append_nil]

/-- A reply under the identifier is the answer, unless there is one or the reply is to another task. -/
theorem Owned.answer?_reply (owned : r.Owned id handle) (mine : reply.nodeStepId = id) (index : Nat) :
    (r.bear (.reply reply)).answer? handle index
      = (r.answer? handle index).or (if reply.taskIndex.toNat = index then some reply else none) := by
  rw [answer?, answer?, owned.replies_bear (t := .reply reply) trivial, owned.delivered_reply mine, List.find?_append]
  by_cases here : reply.taskIndex.toNat = index <;> simp [here]

end

end ReplyRouter

namespace Engine

open ReplyRouter (Traffic)

/-- How a node step has ended, if it has. -/
def Standing.outcome? : Standing → Option Outcome
  | .waiting _ => none
  | .ended outcome => some outcome

/-- Whether it is something that the node step itself did. -/
def Note.isOwn : Note → Bool
  | .heard _ _ => false
  | _ => true

/-- The envelopes of a node step and its end, each with the moment. -/
def shown (log : List Note) : List Note := log.filter Note.isOwn

/-- The index of the task that has been sent and not been answered. -/
def outstanding? (log : List Note) : Option Nat :=
  match (talks log).getLast? with
  | some last =>
    let index := (talks log).length - 1
    if log.any Note.isEnd || (last.answer index).isSome then none else some index
  | none => none

/-! ### The same node step, twice -/

/-- Two sessions of a node step that have got equally far, each at its own router, and have shown the
same. -/
inductive Twin (id : String) : Session → Session → Prop
  | waiting {e : Exchange} {handle : Nat} {r t : ReplyRouter} {log log' : List Note} (mine : e.nodeStepId = id)
      (owned : r.Owned id e.handle) (owned' : t.Owned id handle)
      (answers : r.answer? e.handle e.index = t.answer? handle e.index) (same : shown log = shown log') :
      Twin id ⟨.waiting e, r, log⟩ ⟨.waiting { e with handle }, t, log'⟩
  | ended {outcome : Outcome} {r t : ReplyRouter} {log log' : List Note} (same : shown log = shown log') :
      Twin id ⟨.ended outcome, r, log⟩ ⟨.ended outcome, t, log'⟩

section

variable {s : Settings} {c : RoundContext} {scene : Scene} {id : String} {n : NodeStep} {deadline : Nat}
  {x y : Session} {e : Exchange} {r t : ReplyRouter} {handle handle' : Nat} {log log' : List Note}
  {reply : Reply} {traffic : Traffic}

theorem Twin.symm (twin : Twin id x y) : Twin id y x := by
  cases twin with
  | @waiting e handle _ _ _ _ mine owned owned' answers same =>
    exact .waiting (e := { e with handle }) mine owned' owned answers.symm same.symm
  | ended same => exact .ended same.symm

theorem Twin.outcome? (twin : Twin id x y) : y.standing.outcome? = x.standing.outcome? := by
  cases twin <;> rfl

theorem Twin.shown (twin : Twin id x y) : shown y.log = shown x.log := by
  cases twin with
  | waiting _ _ _ _ same => exact same.symm
  | ended same => exact same.symm

theorem shown_append (log later : List Note) : shown (log ++ later) = shown log ++ shown later :=
  List.filter_append ..

theorem shown_heard (log : List Note) (now : Nat) (replies : List Reply) :
    shown (log ++ replies.map fun reply => .heard now reply) = shown log := by
  have none : shown (replies.map fun reply => .heard now reply) = [] := by
    simp [shown, Note.isOwn]
  rw [shown_append, none, List.append_nil]

theorem shown_snoc (same : shown log = shown log') (note : Note) :
    shown (log ++ [note]) = shown (log' ++ [note]) := by
  rw [shown_append, shown_append, same]

/-! ### Moves of the node step -/

/-- Both end. -/
theorem twin_conclude (same : shown log = shown log') (now : Nat) (outcome : Outcome) :
    Twin id (Session.after now (Exchange.conclude r handle outcome) log)
      (Session.after now (Exchange.conclude t handle' outcome) log') := by
  rw [Session.after_conclude, Session.after_conclude]
  exact .ended (shown_snoc same _)

/-- The next task goes out on both sides, or both end. -/
theorem twin_dispatch (mine : e.nodeStepId = id) (owned : r.Owned id e.handle) (owned' : t.Owned id handle)
    (same : shown log = shown log') (index : Nat) (tasks : List Task) :
    Twin id (Session.after scene.now (Exchange.dispatch s c scene r e index tasks) log)
      (Session.after scene.now (Exchange.dispatch s c scene t { e with handle } index tasks) log') := by
  cases tasks with
  | nil => exact twin_conclude same scene.now _
  | cons task rest =>
    rw [Exchange.dispatch, Exchange.dispatch]
    by_cases accepts : scene.accepts (Subject.node e.nodeId)
    · rw [if_pos accepts, if_pos accepts, Session.after_send, Session.after_send]
      refine .waiting (e := { e with index, rest }) mine owned.discard.1 owned'.discard.1 ?_ (shown_snoc same _)
      rw [owned.answer?_discard, owned'.answer?_discard]
    · rw [if_neg accepts, if_neg accepts]
      exact twin_conclude same scene.now _

theorem twin_start (sound : r.Sound) (vacant : r.Vacant id) (sound' : t.Sound) (vacant' : t.Vacant id) :
    Twin id (Session.start s c scene r id n) (Session.start s c scene t id n) :=
  twin_dispatch (e := ⟨id, n.nodeId, r.opened, scene.now + n.timeout.getD s.nodeStepTimeout, 0, [], .empty⟩)
    rfl (sound.owned_register vacant).1 (sound'.owned_register vacant').1 rfl 0 n.tasks

/-- What a look does depends on the answer to the outstanding task. -/
theorem resume_eq (owned : r.Owned id e.handle) :
    e.resume s c scene r = match r.answer? e.handle e.index with
      | none =>
        if e.deadline ≤ scene.now then Exchange.conclude (r.discard e.handle) e.handle .timedOut
        else ⟨.waiting e, r.discard e.handle, []⟩
      | some reply =>
        if reply.isSuccess then
          Exchange.dispatch s c scene r { e with data := e.data.merge reply.returnData } (e.index + 1) e.rest
        else Exchange.conclude r e.handle (.failed reply.message) := by
  have first := head?_dropWhile_ne (fun reply : Reply => reply.taskIndex.toNat) e.index (r.replies e.handle)
  rw [ReplyRouter.answer?, ← first, Exchange.resume]
  split
  · next none =>
    simp only [none, List.head?_nil, owned.discard.1.reaches, reduceCtorEq, if_false]
  · next reply later found =>
    simp only [found, List.head?_cons]

/-- Both look. -/
theorem twin_resume (mine : e.nodeStepId = id) (owned : r.Owned id e.handle) (owned' : t.Owned id handle)
    (answers : r.answer? e.handle e.index = t.answer? handle e.index) (same : shown log = shown log') :
    Twin id (Session.after scene.now (e.resume s c scene r) log)
      (Session.after scene.now (({ e with handle } : Exchange).resume s c scene t) log') := by
  rw [resume_eq owned, resume_eq (e := { e with handle }) owned', answers]
  cases t.answer? handle e.index with
  | none =>
    by_cases late : e.deadline ≤ scene.now
    · simp only [late, if_true]
      exact twin_conclude same scene.now _
    · simp only [late, if_false]
      rw [Session.after_wait, Session.after_wait]
      refine .waiting mine owned.discard.1 owned'.discard.1 ?_ same
      rw [owned.answer?_discard, owned'.answer?_discard]
  | some reply =>
    by_cases success : reply.isSuccess
    · simp only [success, if_true]
      exact twin_dispatch (e := { e with data := e.data.merge reply.returnData }) mine owned owned' same _ _
    · simp only [success, Bool.false_eq_true, if_false]
      exact twin_conclude same scene.now _

/-- A node step that goes on waiting has not found an answer, and its time has not come. -/
theorem waits_on (owned : r.Owned id e.handle) (waits : (e.resume s c scene r).standing = .waiting e) :
    r.answer? e.handle e.index = none ∧ ¬ e.deadline ≤ scene.now := by
  rw [resume_eq owned] at waits
  split at waits
  · next none =>
    refine ⟨none, fun late => ?_⟩
    rw [if_pos late] at waits
    cases waits
  · next reply found =>
    exfalso
    split at waits
    · -- The next task has another index.
      cases rest : e.rest with
      | nil =>
        rw [rest] at waits
        cases waits
      | cons task rest =>
        rw [rest, Exchange.dispatch] at waits
        split at waits
        · have index := congrArg Exchange.index (Standing.waiting.inj waits)
          simp at index
        · cases waits
    · cases waits

/-! ### One happening -/

/-- What is foreign to one of the two makes no difference. -/
theorem Twin.foreign (twin : Twin id x y) (foreign : traffic.Foreign id) :
    Twin id (x.next s c scene (.traffic traffic)) y := by
  cases twin with
  | ended same => exact .ended same
  | @waiting e handle r t log log' mine owned owned' answers same =>
    simp only [Session.next]
    split
    · next spares =>
      have fresh : traffic ≠ .opens id := by
        rintro rfl
        exact foreign rfl
      rw [owned.delivered_of_foreign foreign]
      refine .waiting mine (owned.bear spares fresh) owned' ?_ ((shown_heard log scene.now []).trans same)
      rw [owned.answer?_foreign spares foreign]
      exact answers
    · exact .waiting mine owned owned' answers same

/-- Who waits hears a reply under its identifier. -/
theorem next_reply (owned : r.Owned id e.handle) (mine : reply.nodeStepId = id) :
    Session.next s c ⟨.waiting e, r, log⟩ scene (.traffic (.reply reply))
      = ⟨.waiting e, r.bear (.reply reply), log ++ [.heard scene.now reply]⟩ := by
  simp only [Session.next]
  rw [if_pos (show (Traffic.reply reply).Spares e.handle from trivial), owned.delivered_reply mine]
  rfl

/-- A reply that both hear. -/
theorem Twin.hears (twin : Twin id x y) (mine : reply.nodeStepId = id) :
    Twin id (x.next s c scene (.traffic (.reply reply))) (y.next s c scene (.traffic (.reply reply))) := by
  cases twin with
  | ended same => exact .ended same
  | @waiting e handle r t log log' owner owned owned' answers same =>
    rw [next_reply owned mine, next_reply (e := { e with handle }) owned' mine]
    refine .waiting owner (owned.bear_reply reply) (owned'.bear_reply reply) ?_ (shown_snoc same _)
    rw [owned.answer?_reply mine, owned'.answer?_reply mine, answers]

/-- A reply that one of the two hears while its task is not outstanding. -/
theorem Twin.stray (twin : Twin id x y) (mine : reply.nodeStepId = id)
    (stray : ∀ e, x.standing = .waiting e → reply.taskIndex.toNat = e.index →
      (x.router.answer? e.handle e.index).isSome) :
    Twin id x (y.next s c scene (.traffic (.reply reply))) := by
  cases twin with
  | ended same => exact .ended same
  | @waiting e handle r t log log' owner owned owned' answers same =>
    rw [next_reply (e := { e with handle }) owned' mine]
    refine .waiting owner owned (owned'.bear_reply reply) ?_
      (same.trans (shown_heard log' scene.now [reply]).symm)
    rw [owned'.answer?_reply mine, ← answers]
    split
    · next here =>
      obtain ⟨answer, found⟩ := Option.isSome_iff_exists.1 (stray e rfl here)
      rw [show r.answer? e.handle e.index = some answer from found]
      rfl
    · rw [Option.or_none]

/-- Both look. -/
theorem Twin.look (twin : Twin id x y) : Twin id (x.next s c scene .look) (y.next s c scene .look) := by
  cases twin with
  | ended same => exact .ended same
  | waiting mine owned owned' answers same => exact twin_resume mine owned owned' answers same

/-- One of the two looks where there is nothing to do for the other. -/
theorem Twin.idleLook (twin : Twin id x y) (idle : (x.next s c scene .look).standing = x.standing) :
    Twin id x (y.next s c scene .look) := by
  cases twin with
  | ended same => exact .ended same
  | @waiting e handle r t log log' mine owned owned' answers same =>
    obtain ⟨none, early⟩ := waits_on owned (show (e.resume s c scene r).standing = .waiting e from idle)
    simp only [Session.next]
    rw [resume_eq (e := { e with handle }) owned', ← answers, none]
    simp only [early, if_false]
    rw [Session.after_wait]
    refine .waiting mine owned owned'.discard.1 ?_ same
    rw [owned'.answer?_discard]
    exact none

/-! ### What is outstanding -/

/-- The task that the log tells to be outstanding is that which the node step waits for, unless the answer
lies in the mailbox. -/
theorem Orderly.outstanding (orderly : Orderly s c id n deadline x) (standing : x.standing = .waiting e) :
    outstanding? x.log = if (x.router.answer? e.handle e.index).isSome then none else some e.index := by
  rcases orderly with ⟨e', done, last, answers, m, h⟩ | ⟨outcome, done, rest, answers, h⟩
  · obtain rfl : e = e' := Standing.waiting.inj (standing.symm.trans h.standing)
    have first := h.answer_eq
    rw [head?_dropWhile_ne (fun reply : Reply => reply.taskIndex.toNat)] at first
    have found : (last.answer done.length).isSome = (x.router.answer? e.handle e.index).isSome := by
      rw [ReplyRouter.answer?, ← first, Option.isSome_map]
    have open_ : x.log.any Note.isEnd = false := List.any_eq_false.2 fun note member => by simp [h.noEnd note member]
    rw [outstanding?, h.spoken.talks, List.getLast?_concat]
    simp only [List.length_append, List.length_singleton, Nat.add_sub_cancel, open_, Bool.false_or, found, h.index]
  · cases standing.symm.trans h.standing

end

/-! ### Many happenings -/

/-- What happens to one session and what happens to another one that hears more. The two share what
matters to them; apart from that, either may hear what is foreign to the node step, and the second one
replies under its identifier that no outstanding task waits for. The second one may look more often, as
long as the first one would only go on waiting. -/
inductive Padding (s : Settings) (c : RoundContext) (id : String) :
    Session → List (Scene × Happening) → List (Scene × Happening) → Prop
  | nil (x : Session) : Padding s c id x [] []
  | both {x : Session} {base padded : List (Scene × Happening)} (scene : Scene) (happening : Happening)
      (fresh : happening ≠ .traffic (.opens id)) (rest : Padding s c id (x.next s c scene happening) base padded) :
      Padding s c id x ((scene, happening) :: base) ((scene, happening) :: padded)
  | foreignFirst {x : Session} {base padded : List (Scene × Happening)} (scene : Scene) (t : Traffic)
      (foreign : t.Foreign id) (rest : Padding s c id (x.next s c scene (.traffic t)) base padded) :
      Padding s c id x ((scene, .traffic t) :: base) padded
  | foreign {x : Session} {base padded : List (Scene × Happening)} (scene : Scene) (t : Traffic)
      (foreign : t.Foreign id) (rest : Padding s c id x base padded) :
      Padding s c id x base ((scene, .traffic t) :: padded)
  | stray {x : Session} {base padded : List (Scene × Happening)} (scene : Scene) (reply : Reply)
      (stray : outstanding? x.log ≠ some reply.taskIndex.toNat) (rest : Padding s c id x base padded) :
      Padding s c id x base ((scene, .traffic (.reply reply)) :: padded)
  | look {x : Session} {base padded : List (Scene × Happening)} (scene : Scene)
      (idle : (x.next s c scene .look).standing = x.standing) (rest : Padding s c id x base padded) :
      Padding s c id x base ((scene, .look) :: padded)

section

variable {s : Settings} {c : RoundContext} {id : String} {n : NodeStep} {deadline : Nat} {x y : Session}

/-- One happening on both sides. -/
theorem Twin.both (twin : Twin id x y) {scene : Scene} {happening : Happening}
    (fresh : happening ≠ .traffic (.opens id)) :
    Twin id (x.next s c scene happening) (y.next s c scene happening) := by
  have foreign (t : Traffic) (foreign : t.Foreign id) :
      Twin id (x.next s c scene (.traffic t)) (y.next s c scene (.traffic t)) :=
    ((twin.foreign foreign).symm.foreign foreign).symm
  cases happening with
  | look => exact twin.look
  | traffic t =>
    cases t with
    | reply reply =>
      by_cases mine : reply.nodeStepId = id
      · exact twin.hears mine
      · exact foreign _ mine
    | opens other => exact foreign _ fun same => fresh (same ▸ rfl)
    | empties handle => exact foreign _ trivial
    | closes handle => exact foreign _ trivial

/-- **Twins stay twins**, however one of the two histories is padded. -/
theorem Padding.twin {base padded : List (Scene × Happening)} (padding : Padding s c id x base padded)
    (orderly : Orderly s c id n deadline x) (twin : Twin id x y) :
    Twin id (x.run s c base) (y.run s c padded) := by
  induction padding generalizing y with
  | nil x => exact twin
  | both scene happening fresh rest ih => exact ih (orderly.next scene happening) (twin.both fresh)
  | foreignFirst scene t foreign rest ih => exact ih (orderly.next scene (.traffic t)) (twin.foreign foreign)
  | foreign scene t foreign rest ih => exact ih orderly (twin.symm.foreign foreign).symm
  | stray scene reply stray rest ih =>
    refine ih orderly ?_
    by_cases mine : reply.nodeStepId = id
    · refine twin.stray mine fun e standing here => ?_
      rw [orderly.outstanding standing, here] at stray
      by_contra none
      exact stray (if_neg none)
    · exact (twin.symm.foreign (show (Traffic.reply reply).Foreign id from mine)).symm
  | look scene idle rest ih => exact ih orderly (twin.idleLook idle)

end

/-! ### Replies at an engine -/

section

variable {e : Engine} {mine : String → Prop} {settings : Settings} {history : List (Scene × Event)}
  {id key : String}

/-- A reply that nobody waits for is dropped. -/
theorem next_receive_of_waiting_eq_none (scene : Scene) {payload : ByteArray} {reply : Reply}
    (read : Reply.decode payload = .ok reply) (nobody : e.router.waiting.get? reply.nodeStepId = none) :
    e.next scene (.receive payload) = (e, []) := by
  have routed : e.router.receive payload = e.router := by
    simp only [ReplyRouter.receive, read, ReplyRouter.route, nobody]
  rw [Engine.next, Engine.receive, routed]
  split <;> rfl

/-- The node steps of a round have different identifiers. -/
theorem Healthy.distinct (healthy : e.Healthy) {d : Drive} (here : e.drives.get? id = some d) {step : Step}
    {nodeSteps : List NodeStep} {round : Round} (phase : d.phase = .dispatching step nodeSteps round) :
    (round.called.map Prod.fst).Nodup := by
  obtain ⟨scene, desk, first, t, -, -, course, underWay, rfl, -⟩ :=
    (healthy.onCourse id d here).2 step nodeSteps round phase
  obtain ⟨history, sent, q, run, rfl⟩ := Proceedings.exists_run _ scene desk first step nodeSteps course
  have kept := run.kept (Proceedings.kept_opening _ scene desk first step nodeSteps)
  obtain ⟨round', c, at_⟩ := kept.underWay underWay
  obtain ⟨-, -, rfl⟩ := at_.inRound.unique ⟨underWay, phase⟩
  rw [at_.tells.called]
  exact at_.distinct

/-- An identifier whose round is over is kept for nobody. -/
theorem HasCalled.retired (called : HasCalled settings history id key)
    (gone : ∀ d, ((started settings).run history).1.drives.get? id = some d → ¬ d.Calls key)
    (later : List (Scene × Event)) :
    ((started settings).run (history ++ later)).1.KeptFor (fun _ => False) key := by
  obtain ⟨before, after, d, rfl, here, calls⟩ := called
  have kept := (((tidy_started settings).run before).apart id d key here calls).run after
  rw [congrArg Prod.fst (run_append (started settings) before after)] at gone
  rw [congrArg Prod.fst (run_append (started settings) (before ++ after) later),
    congrArg Prod.fst (run_append (started settings) before after)]
  refine KeptFor.run ⟨kept.used, fun other d' _ found calls' => ?_⟩ later
  by_cases same : other = id
  · exact gone d' (same ▸ found) calls'
  · exact kept.others other d' same found calls'

/-- Node steps that are called at the same time have different identifiers, and those of a round that is
over are not used again: nobody is called or waits under them. -/
theorem identifiers_used_once (settings : Settings) (history : List (Scene × Event)) :
    let e := ((started settings).run history).1
    (∀ id d step nodeSteps round, e.drives.get? id = some d → d.phase = .dispatching step nodeSteps round →
      (round.called.map Prod.fst).Nodup ∧
      ∀ other d', other ≠ id → e.drives.get? other = some d' →
        ∀ key ∈ round.called.map Prod.fst, ¬ d'.Calls key) ∧
    ∀ owner key, HasCalled settings history owner key →
      (∀ d, e.drives.get? owner = some d → ¬ d.Calls key) → ∀ later,
        let e' := ((started settings).run (history ++ later)).1
        (∀ id d, e'.drives.get? id = some d → ¬ d.Calls key) ∧ e'.router.waiting.get? key = none := by
  intro e
  have tidy : e.Tidy := (tidy_started settings).run history
  refine ⟨fun id d step nodeSteps round here phase => ⟨tidy.healthy.distinct here phase, ?_⟩,
    fun owner key called gone later => ?_⟩
  · intro other d' away there key among
    exact (tidy.apart id d key here ⟨step, nodeSteps, round, phase, among⟩).others other d' away there
  · have retired := called.retired gone later
    have tidy' := (tidy_started settings).run (history ++ later)
    exact ⟨fun id d found => retired.others id d not_false found, tidy'.waiting_eq_none retired⟩

end

/-- **Replies that nobody asked for change nothing.** Two sessions of a node step begin at routers at which
anything may have happened before, under an identifier that nobody else opens a mailbox under. The second
one hears all that the first one hears, and more: replies under other identifiers, replies to another
task than the outstanding one, and replies while none is outstanding, any number of each and anywhere;
and in the meantime others do with their own mailboxes what they like. Both send the same envelopes at
the same moments and end with the same outcome and data. At an engine, a reply under an identifier that
nobody waits under changes nothing at all. Identifiers are used once there: no two node steps that run at
the same time have the same one, and once the round of a node step is over, be it retried, done or of an
operation that has ended, no other is ever called by its identifier, and replies under it change nothing. -/
theorem strays_change_nothing (s : Settings) (c : RoundContext) (scene : Scene) (id : String) (n : NodeStep)
    (before before' : List Traffic) (fresh : ∀ t ∈ before, t ≠ .opens id) (fresh' : ∀ t ∈ before', t ≠ .opens id)
    (base padded : List (Scene × Happening))
    (padding : Padding s c id (Session.start s c scene (before.foldl ReplyRouter.bear .idle) id n) base padded) :
    (let x := (Session.start s c scene (before.foldl ReplyRouter.bear .idle) id n).run s c base
     let y := (Session.start s c scene (before'.foldl ReplyRouter.bear .idle) id n).run s c padded
     y.standing.outcome? = x.standing.outcome? ∧ shown y.log = shown x.log) ∧
    (∀ (e : Engine) (now : Scene) (payload : ByteArray) (reply : Reply), Reply.decode payload = .ok reply →
      e.router.waiting.get? reply.nodeStepId = none → e.next now (.receive payload) = (e, [])) ∧
    ∀ (settings : Settings) (history : List (Scene × Event)),
      let e := ((started settings).run history).1
      (∀ id d step nodeSteps round, e.drives.get? id = some d → d.phase = .dispatching step nodeSteps round →
        (round.called.map Prod.fst).Nodup ∧
        ∀ other d', other ≠ id → e.drives.get? other = some d' →
          ∀ key ∈ round.called.map Prod.fst, ¬ d'.Calls key) ∧
      ∀ owner key, HasCalled settings history owner key →
        (∀ d, e.drives.get? owner = some d → ¬ d.Calls key) → ∀ later,
          let e' := ((started settings).run (history ++ later)).1
          (∀ id d, e'.drives.get? id = some d → ¬ d.Calls key) ∧
          ∀ (now : Scene) (payload : ByteArray) (reply : Reply), Reply.decode payload = .ok reply →
            reply.nodeStepId = key → e'.next now (.receive payload) = (e', []) := by
  refine ⟨?_, fun e now payload reply read nobody => next_receive_of_waiting_eq_none now read nobody,
    fun settings history => ?_⟩
  · intro x y
    have sound : (before.foldl ReplyRouter.bear .idle).Sound := ReplyRouter.sound_idle.foldl_bear before
    have sound' : (before'.foldl ReplyRouter.bear .idle).Sound := ReplyRouter.sound_idle.foldl_bear before'
    have twin : Twin id x y := padding.twin (orderly_start sound scene)
      (twin_start sound (ReplyRouter.vacant_foldl_bear fresh) sound' (ReplyRouter.vacant_foldl_bear fresh'))
    exact ⟨twin.outcome?, twin.shown⟩
  · intro e
    obtain ⟨together, retired⟩ := identifiers_used_once settings history
    refine ⟨together, fun owner key called gone later => ?_⟩
    intro e'
    obtain ⟨nobody, idle⟩ := retired owner key called gone later
    refine ⟨nobody, ?_⟩
    rintro now payload reply read rfl
    exact next_receive_of_waiting_eq_none now read idle

/-! ### Many replies that nobody asked for -/

namespace Redelivery

/-- Under another identifier. -/
def foreign : Reply := { reply 0 .error "late" with nodeStepId := "earlier" }

/-- The history of the node step, among replies to other tasks and node steps. -/
def padded : List (Scene × Happening) :=
  [(scene, .traffic (.opens "other")), (scene, .traffic (.reply (reply 1 .error "early"))), (scene, .look),
    (scene, .traffic (.reply foreign)), (scene, .traffic (.reply (reply 0 .successful ""))),
    (scene, .traffic (.reply (reply 0 .error "twice"))), (scene, .look),
    (scene, .traffic (.reply (reply 0 .successful ""))), (scene, .look),
    (scene, .traffic (.reply (reply 1 .error "exit 1"))),
    (scene, .traffic (.reply (reply 1 .successful ""))), (scene, .look)]

def first : Session := Session.start settings context scene .idle "id" nodeStep

theorem padding : Padding settings context "id" first history padded :=
  .foreign scene _ (by decide) <|
  .stray scene _ (by decide) <|
  .look scene rfl <|
  .foreign scene _ (by decide) <|
  .both scene _ nofun <|
  .stray scene _ (by decide) <|
  .both scene _ nofun <|
  .both scene _ nofun <|
  .both scene _ nofun <|
  .both scene _ nofun <|
  .stray scene _ (by decide) <|
  .both scene _ nofun <|
  .nil _

/-- The same node step at a router that has been in use. -/
def second : Session :=
  Session.start settings context scene ([.opens "earlier", .reply foreign].foldl ReplyRouter.bear .idle) "id" nodeStep

/-- The answer to a node step of the sample operation. -/
def answer : Reply := { reply 0 .successful "" with nodeStepId := Identifiers.text 0 }

end Redelivery

open Redelivery (context nodeStep history last foreign padded padding second) in
/-- The node step still fails with what the second task was answered, and a reply to the node step of an
operation that has been cancelled is dropped. -/
theorem sample_strays :
    (let y := second.run Redelivery.settings context padded
     y.standing.outcome? = some (.failed "exit 1") ∧ shown y.log = shown last.log) ∧
    let e := (Sample.interrupted.next Sample.scene (.heed "op")).1
    e.next Sample.scene (.receive Redelivery.answer.encode) = (e, []) := by
  obtain ⟨⟨outcome, same⟩, -, engines⟩ := strays_change_nothing Redelivery.settings context Redelivery.scene "id"
    nodeStep [] [.opens "earlier", .reply foreign] (by simp) (by simp) history padded padding
  refine ⟨⟨outcome, same⟩, ?_⟩
  obtain ⟨-, retired⟩ := engines Sample.settings (Sample.waited ++ [(Sample.scene, .heed "op")])
  have called : HasCalled Sample.settings (Sample.waited ++ [(Sample.scene, .heed "op")]) "op"
      (Identifiers.text 0) :=
    ⟨Sample.waited, [(Sample.scene, .heed "op")], Sample.interruptedDrive, rfl, rfl, _, _, Sample.interruptedRound,
      rfl, by decide⟩
  obtain ⟨-, drops⟩ := retired "op" (Identifiers.text 0) called (fun d found => nomatch found) []
  exact drops Sample.scene _ Redelivery.answer (Reply.decode_encode_self _) rfl

end Engine

end Muster
