import Mathlib.Data.List.Nodup
import Muster.Proofs.Dict
import Muster.ReplyRouter

/-!
# What reaches a mailbox

A handle is given out once, and a reply that is routed goes to the mailbox whose identifier it carries.
So between two looks of its owner a mailbox changes in one way only: replies that carry its identifier
are put behind those it holds. `Traffic` is all that others do at a router, and `Sound` is what the
router owes to having begun without waiters.
-/

set_option autoImplicit false

namespace Muster.ReplyRouter

variable {r : ReplyRouter} {handle other : Nat} {id nodeStepId : String} {replies : List Reply}
  {reply : Reply}

/-! ### Mailboxes one by one -/

/-- Handles are given out in turn, and whoever is waited for under an identifier has opened a mailbox
under it. -/
structure Sound (r : ReplyRouter) : Prop where
  opened : ∀ m ∈ r.mailboxes, m.handle < r.opened
  waiting : ∀ id handle, r.waiting.get? id = some handle →
    ∃ m, r.mailbox? handle = some m ∧ m.nodeStepId = id

theorem handle_of_mailbox? {m : Mailbox} (found : r.mailbox? handle = some m) : m.handle = handle := by
  have same := List.find?_some found
  exact of_decide_eq_true same

theorem replies_of_mailbox? {m : Mailbox} (found : r.mailbox? handle = some m) :
    r.replies handle = m.replies := by
  rw [ReplyRouter.replies, found]

theorem mailbox?_setReplies (r : ReplyRouter) (handle other : Nat) (replies : List Reply) :
    (r.setReplies handle replies).mailbox? other
      = if other = handle then (r.mailbox? other).map fun m => { m with replies } else r.mailbox? other := by
  simp only [mailbox?, setReplies, List.find?_map]
  have handles : ((fun m : Mailbox => decide (m.handle = other)) ∘
      fun m => if m.handle = handle then { m with replies } else m) = fun m => decide (m.handle = other) := by
    funext m
    simp only [Function.comp_apply]
    split <;> rfl
  rw [handles]
  cases found : r.mailboxes.find? fun m => decide (m.handle = other) with
  | none => simp
  | some m =>
    have same : m.handle = other := handle_of_mailbox? (r := r) found
    by_cases here : other = handle
    · simp [same, here]
    · simp [same, here]

/-- Whoever empties a mailbox cuts nobody off. -/
theorem reaches_discard (r : ReplyRouter) (handle other : Nat) :
    (r.discard handle).reaches other = r.reaches other := by
  rw [reaches, reaches, discard, mailbox?_setReplies]
  by_cases here : other = handle
  · rw [if_pos here]
    cases r.mailbox? other <;> rfl
  · rw [if_neg here]
    rfl

theorem mailbox?_release (r : ReplyRouter) (handle other : Nat) :
    (r.release handle).mailbox? other = if other = handle then none else r.mailbox? other := by
  simp only [mailbox?, release, List.find?_filter]
  by_cases here : other = handle
  · rw [if_pos here, List.find?_eq_none]
    intro m _
    simp [here]
  · rw [if_neg here]
    congr 1
    funext m
    by_cases same : m.handle = other
    · simp [same, here]
    · simp [same]

theorem mailbox?_register_of_ne (differ : other ≠ r.opened) (id : String) :
    (r.register id).1.mailbox? other = r.mailbox? other := by
  have other' : r.opened ≠ other := fun same => differ same.symm
  simp [mailbox?, register, List.find?_append, other']

/-- A new mailbox is empty. -/
theorem Sound.mailbox?_register (h : r.Sound) (id : String) :
    (r.register id).1.mailbox? r.opened = some ⟨r.opened, id, []⟩ := by
  have fresh : r.mailboxes.find? (fun m => decide (m.handle = r.opened)) = none := by
    rw [List.find?_eq_none]
    intro m member
    have below := h.opened m member
    simp only [decide_eq_true_eq]
    omega
  simp [mailbox?, register, List.find?_append, fresh]

theorem Sound.lt_opened (h : r.Sound) {m : Mailbox} (found : r.mailbox? handle = some m) :
    handle < r.opened := by
  rw [← handle_of_mailbox? found]
  exact h.opened m (List.mem_of_find?_eq_some found)

/-! ### A router stays sound -/

theorem sound_idle : idle.Sound := ⟨by simp [idle], by simp [idle]⟩

theorem Sound.register (h : r.Sound) (id : String) : (r.register id).1.Sound where
  opened m member := by
    simp only [ReplyRouter.register, List.mem_append, List.mem_singleton] at member ⊢
    rcases member with old | rfl
    · exact Nat.lt_succ_of_lt (h.opened m old)
    · exact Nat.lt_succ_self _
  waiting key handle found := by
    by_cases same : key = id
    · subst same
      have new : handle = r.opened := by
        simp only [ReplyRouter.register, Dict.get?_insert_self, Option.some.injEq] at found
        exact found.symm
      subst new
      exact ⟨_, h.mailbox?_register key, rfl⟩
    · have old : r.waiting.get? key = some handle := by
        simpa only [ReplyRouter.register, Dict.get?_insert_of_ne same] using found
      obtain ⟨m, present, owner⟩ := h.waiting key handle old
      have below := h.lt_opened present
      exact ⟨m, by rw [mailbox?_register_of_ne (Nat.ne_of_lt below)]; exact present, owner⟩

theorem Sound.setReplies (h : r.Sound) (handle : Nat) (replies : List Reply) :
    (r.setReplies handle replies).Sound where
  opened m member := by
    simp only [ReplyRouter.setReplies, List.mem_map] at member
    obtain ⟨old, present, rfl⟩ := member
    have below := h.opened old present
    split <;> exact below
  waiting key other found := by
    obtain ⟨m, present, owner⟩ := h.waiting key other found
    rw [mailbox?_setReplies, present]
    split
    · exact ⟨_, rfl, owner⟩
    · exact ⟨m, rfl, owner⟩

theorem Sound.release (h : r.Sound) (handle : Nat) : (r.release handle).Sound where
  opened m member := by
    simp only [ReplyRouter.release, List.mem_filter] at member
    exact h.opened m member.1
  waiting key other found := by
    have old : r.waiting.get? key = some other := by
      simp only [ReplyRouter.release] at found
      split at found
      · rw [Dict.get?_erase] at found
        split at found
        · cases found
        · exact found
      · exact found
    obtain ⟨m, present, owner⟩ := h.waiting key other old
    rw [mailbox?_release]
    split
    · next here =>
      -- The mailbox that is closed is waited at under its own identifier, which is given up.
      subst here
      subst owner
      simp [ReplyRouter.release, present] at found
    · exact ⟨m, present, owner⟩

theorem Sound.route (h : r.Sound) (reply : Reply) : (r.route reply).2.Sound := by
  rw [ReplyRouter.route]
  split
  · exact h.setReplies _ _
  · exact h

/-! ### Traffic -/

/-- What others do at a router. -/
inductive Traffic where
  | reply (r : Reply)
  | opens (nodeStepId : String)
  | empties (handle : Nat)
  | closes (handle : Nat)

/-- Takes in what others do. -/
def bear (r : ReplyRouter) : Traffic → ReplyRouter
  | .reply reply => (r.route reply).2
  | .opens id => (r.register id).1
  | .empties handle => r.discard handle
  | .closes handle => r.release handle

theorem Sound.bear (h : r.Sound) (traffic : Traffic) : (r.bear traffic).Sound := by
  cases traffic with
  | reply reply => exact h.route reply
  | opens id => exact h.register id
  | empties handle => exact h.setReplies handle []
  | closes handle => exact h.release handle

theorem Sound.foldl_bear (h : r.Sound) (traffic : List Traffic) : (traffic.foldl ReplyRouter.bear r).Sound := by
  induction traffic generalizing r with
  | nil => exact h
  | cons first rest ih => exact ih (h.bear first)

/-- What is about another mailbox than that of a handle. -/
def Traffic.Spares (handle : Nat) : Traffic → Prop
  | .empties other => other ≠ handle
  | .closes other => other ≠ handle
  | _ => True

instance (handle : Nat) (traffic : Traffic) : Decidable (traffic.Spares handle) := by
  cases traffic <;> simp only [Traffic.Spares] <;> infer_instance

/-- What traffic puts into the mailbox of a handle. -/
def delivered (r : ReplyRouter) (handle : Nat) : Traffic → List Reply
  | .reply reply => if r.waiting.get? reply.nodeStepId = some handle then [reply] else []
  | _ => []

/-- **Traffic only adds to a mailbox** of which it does not dispose: what it adds carries the identifier
of the mailbox. -/
theorem Sound.mailbox?_bear (h : r.Sound) {m : Mailbox} (found : r.mailbox? handle = some m)
    {traffic : Traffic} (spares : traffic.Spares handle) :
    (r.bear traffic).mailbox? handle
      = some { m with replies := m.replies ++ r.delivered handle traffic } ∧
    ∀ reply ∈ r.delivered handle traffic, reply.nodeStepId = m.nodeStepId := by
  cases traffic with
  | reply reply =>
    simp only [ReplyRouter.bear, delivered, ReplyRouter.route]
    cases waiter : r.waiting.get? reply.nodeStepId with
    | none => simp [found]
    | some other =>
      obtain ⟨owner, present, carries⟩ := h.waiting _ _ waiter
      by_cases here : handle = other
      · subst here
        rw [found] at present
        obtain rfl := Option.some.inj present
        simp [mailbox?_setReplies, found, replies_of_mailbox? found, carries]
      · have differ : ¬ other = handle := fun same => here same.symm
        simp [mailbox?_setReplies, here, differ, found]
  | opens id =>
    have below := h.lt_opened found
    simp [ReplyRouter.bear, delivered, mailbox?_register_of_ne (Nat.ne_of_lt below), found]
  | empties other =>
    have differ : handle ≠ other := fun same => spares same.symm
    simp [ReplyRouter.bear, delivered, discard, mailbox?_setReplies, differ, found]
  | closes other =>
    have differ : handle ≠ other := fun same => spares same.symm
    simp [ReplyRouter.bear, delivered, mailbox?_release, differ, found]

end Muster.ReplyRouter
