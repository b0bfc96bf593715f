import Muster.Envelope

/-!
# Replies and those who wait for them

A node step that waits for replies has a mailbox, opened under the identifier of the node step. The
`ReplyRouter` puts every reply into the mailbox opened last under its identifier, and drops it when
there is none. A mailbox under whose identifier another one has been opened, or closed, gets no
more replies.
-/

set_option autoImplicit false

namespace Muster

/-- The replies that one waiter has not read yet, the oldest first. -/
structure Mailbox where
  handle : Nat
  nodeStepId : String
  replies : List Reply
  deriving DecidableEq, Repr

/-- The open mailboxes, and for each identifier the one that its replies go to. -/
structure ReplyRouter where
  /-- The number of mailboxes opened so far. -/
  opened : Nat
  waiting : Dict Nat
  mailboxes : List Mailbox
  deriving DecidableEq, Repr

/-- What a waiter finds when it looks into its mailbox. -/
inductive Receipt where
  | reply (r : Reply)
  /-- Nothing has come yet. -/
  | empty
  /-- Nothing is there and nothing will come. -/
  | closed
  deriving DecidableEq, Repr

namespace ReplyRouter

/-- A router that nobody waits at. -/
def idle : ReplyRouter := ⟨0, .empty, []⟩

/-- Opens a mailbox for an identifier. -/
def register (r : ReplyRouter) (nodeStepId : String) : ReplyRouter × Nat :=
  ({ opened := r.opened + 1
     waiting := r.waiting.insert nodeStepId r.opened
     mailboxes := r.mailboxes ++ [⟨r.opened, nodeStepId, []⟩] }, r.opened)

/-- The mailbox of a handle. -/
def mailbox? (r : ReplyRouter) (handle : Nat) : Option Mailbox :=
  r.mailboxes.find? fun m => m.handle = handle

/-- The replies in the mailbox of a handle. -/
def replies (r : ReplyRouter) (handle : Nat) : List Reply :=
  match r.mailbox? handle with
  | some m => m.replies
  | none => []

/-- Replaces the replies in the mailbox of a handle. -/
def setReplies (r : ReplyRouter) (handle : Nat) (replies : List Reply) : ReplyRouter :=
  { r with mailboxes := r.mailboxes.map fun m => if m.handle = handle then { m with replies } else m }

/-- Puts a reply into the mailbox of its waiter; says whether there is one. -/
def route (r : ReplyRouter) (reply : Reply) : Bool × ReplyRouter :=
  match r.waiting.get? reply.nodeStepId with
  | some handle => (true, r.setReplies handle (r.replies handle ++ [reply]))
  | none => (false, r)

/-- Takes in what arrived on a reply subject; what cannot be read is dropped. -/
def receive (r : ReplyRouter) (payload : ByteArray) : ReplyRouter :=
  match Reply.decode payload with
  | .ok reply => (r.route reply).2
  | .error _ => r

/-- Whether replies still find their way into the mailbox of a handle. -/
def reaches (r : ReplyRouter) (handle : Nat) : Bool :=
  match r.mailbox? handle with
  | some m => r.waiting.get? m.nodeStepId = some handle
  | none => false

/-- Takes the oldest reply out of a mailbox. -/
def take (r : ReplyRouter) (handle : Nat) : Receipt × ReplyRouter :=
  match r.replies handle with
  | reply :: later => (.reply reply, r.setReplies handle later)
  | [] => (if r.reaches handle then .empty else .closed, r)

/-- Empties a mailbox. -/
def discard (r : ReplyRouter) (handle : Nat) : ReplyRouter := r.setReplies handle []

/-- Closes a mailbox. Nobody waits under its identifier any more, whoever opened a mailbox under it
since. -/
def release (r : ReplyRouter) (handle : Nat) : ReplyRouter :=
  { r with
    waiting := match r.mailbox? handle with
      | some m => r.waiting.erase m.nodeStepId
      | none => r.waiting
    mailboxes := r.mailboxes.filter fun m => m.handle ≠ handle }

/-- The number of identifiers that replies are waited for under. -/
def size (r : ReplyRouter) : Nat := r.waiting.size

end ReplyRouter

end Muster
