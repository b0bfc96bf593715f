import Muster.Bytes
import Muster.Dict
import Muster.Envelope
import Muster.Identifier
import Muster.Text.Blank
import Muster.Text.Decimal

/-!
# The bus

Messages are published on subjects, which are plain texts. Every plain subscription of a subject gets
every message on it; subscriptions of one group share the messages on their subject, so that one of
them gets each. Groups are served in the order of their names, and which member is next is told by one
counter for all groups of the bus.
-/

set_option autoImplicit false

namespace Muster

/-- A message on a subject. -/
structure Message where
  subject : String
  payload : ByteArray
  /-- The subject that an answer is expected on. -/
  replyTo : Option String
  deriving DecidableEq

/-- Why the bus failed. -/
inductive BusError where
  | closed
  /-- No answer came in so many milliseconds. -/
  | timeout (ms : Nat)
  | io (cause : String)
  deriving DecidableEq, Repr

namespace BusError

/-- The digits after the point of a number of thousandths, with the point, and without trailing
zeros. -/
def fraction (thousandths : Nat) : String :=
  let digits := [thousandths / 100, thousandths / 10 % 10, thousandths % 10].map Text.digitChar
  match Text.dropTrailing (· == '0') digits with
  | [] => ""
  | shown => String.ofList ('.' :: shown)

/-- A length of time: in seconds from one second on, in milliseconds below that, and nothing at all as
no nanoseconds. -/
def duration (ms : Nat) : String :=
  if ms = 0 then "0ns"
  else if ms < 1000 then Text.decimal ms ++ "ms"
  else Text.decimal (ms / 1000) ++ fraction (ms % 1000) ++ "s"

/-- The wording of a failure. -/
def message : BusError → String
  | .closed => "bus connection closed"
  | .timeout ms => "no reply within " ++ duration ms
  | .io cause => "bus io error: " ++ cause

end BusError

/-- A subscription and the messages that it has not read yet, the oldest first. -/
structure Subscription where
  id : Nat
  group : Option String
  queue : List Message
  deriving DecidableEq

/-- The subscriptions of a bus by subject, in the order in which they were made. -/
structure Bus where
  subjects : Dict (List Subscription)
  /-- The number of subscriptions made so far, by which the next one is known. It stands for a counter of
  64 bits and has no last value, since nobody lives to see that many subscriptions. -/
  made : Nat
  /-- The number of messages handed to groups so far. Only what is left of it in a counter of 64 bits is
  read (`Bus.counterRange`). -/
  turns : Nat
  deriving DecidableEq

namespace Bus

/-- A bus that nobody listens to. -/
def silent : Bus := ⟨.empty, 0, 0⟩

/-- The subscriptions of a subject. -/
def subscriptions (b : Bus) (subject : String) : List Subscription :=
  (b.subjects.get? subject).getD []

/-- Subscribes to a subject, as a member of a group if one is named. -/
def subscribe (b : Bus) (subject : String) (group : Option String) : Bus × Nat :=
  ({ b with
      subjects := b.subjects.insert subject (b.subscriptions subject ++ [⟨b.made, group, []⟩])
      made := b.made + 1 }, b.made)

/-- Ends a subscription; a subject without any is forgotten. -/
def unsubscribe (b : Bus) (subject : String) (id : Nat) : Bus :=
  let left := (b.subscriptions subject).filter fun s => s.id ≠ id
  { b with
    subjects := if left.isEmpty then b.subjects.erase subject else b.subjects.insert subject left }

/-- The number of subscriptions of a subject. -/
def count (b : Bus) (subject : String) : Nat := (b.subscriptions subject).length

/-- The names of the groups among subscriptions. -/
def groups (subscriptions : List Subscription) : NameSet :=
  NameSet.ofNames (subscriptions.filterMap Subscription.group)

/-- The number of values of the counter, which begins again behind the last one. -/
def counterRange : Nat := UInt64.size

/-- The subscriptions that get a message after the counter has been moved on `turns` times: all plain
ones, and one of each group. -/
def receivers (turns : Nat) (subscriptions : List Subscription) : List Nat :=
  let plain := (subscriptions.filter fun s => s.group.isNone).map Subscription.id
  let picked := (groups subscriptions).keys.zipIdx.filterMap fun (group, k) =>
    let members := subscriptions.filter fun s => s.group = some group
    (members[(turns + k) % counterRange % members.length]?).map Subscription.id
  plain ++ picked

/-- Publishes a message. -/
def publish (b : Bus) (m : Message) : Bus :=
  match b.subjects.get? m.subject with
  | none => b
  | some subscriptions =>
    let chosen := receivers b.turns subscriptions
    { b with
      subjects := b.subjects.insert m.subject (subscriptions.map fun s =>
        if chosen.contains s.id then { s with queue := s.queue ++ [m] } else s)
      turns := b.turns + (groups subscriptions).size }

/-- The messages that a subscription has not read. -/
def pending (b : Bus) (subject : String) (id : Nat) : List Message :=
  match (b.subscriptions subject).find? fun s => s.id = id with
  | some s => s.queue
  | none => []

/-- Reads the oldest message that has come. -/
def read (b : Bus) (subject : String) (id : Nat) : Option Message × Bus :=
  ((b.pending subject id).head?,
    { b with
      subjects := b.subjects.modify subject fun subscriptions =>
        subscriptions.map fun s => if s.id = id then { s with queue := s.queue.tail } else s })

/-- Reads every message that has come. -/
def drain (b : Bus) (subject : String) (id : Nat) : List Message × Bus :=
  (b.pending subject id,
    { b with
      subjects := b.subjects.modify subject fun subscriptions =>
        subscriptions.map fun s => if s.id = id then { s with queue := [] } else s })

/-- Publishes a request and waits for one answer. `answer` is what a listener of the subject says and
the milliseconds that it takes; an answer that takes as long as the requester waits is too late. -/
def request (b : Bus) (inboxId subject : String) (payload : ByteArray) (timeout : Nat)
    (answer : Option (Nat × ByteArray)) : Except BusError ByteArray × Bus :=
  let inbox := Subject.inbox inboxId
  let (b, listener) := b.subscribe subject none
  let (b, requester) := b.subscribe inbox none
  let b := b.publish ⟨subject, payload, some inbox⟩
  let b := b.unsubscribe subject listener
  match answer with
  | some (delay, said) =>
    if delay < timeout then
      let (received, b) := (b.publish ⟨inbox, said, none⟩).drain inbox requester
      let b := b.unsubscribe inbox requester
      match received with
      | m :: _ => (.ok m.payload, b)
      | [] => (.error .closed, b)
    else (.error (.timeout timeout), b.unsubscribe inbox requester)
  | none => (.error (.timeout timeout), b.unsubscribe inbox requester)

end Bus

end Muster
