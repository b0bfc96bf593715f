import Mathlib.Data.List.Nodup
import Muster.Bus
import Muster.Proofs.Dict

/-!
# Who hears what on the bus

The subscriptions that are live are told from the commands alone (`Roll`), and the bus lists just these.
`Shares` says how a message is to be shared among them, and `receivers` does so. What a subscription
has read and what still lies in its queue is together what was handed to it, in the order of publishing
(`Account`); every command keeps this, and `messages_shared_and_kept_in_order` says it of every sequence
of commands.
-/

set_option autoImplicit false

namespace Muster

namespace Bus

/-! ### Whose turn it is -/

section

variable {turns : Nat} {subscriptions : List Subscription} {s t : Subscription} {group : String} {id : Nat}

/-- The member of a group whose turn it is. -/
def onTurn (turns : Nat) (subscriptions : List Subscription) (group : String) : Option Subscription :=
  let members := subscriptions.filter fun s => s.group = some group
  members[turns % counterRange % members.length]?

theorem mem_of_onTurn (picked : onTurn turns subscriptions group = some s) :
    s ∈ subscriptions ∧ s.group = some group := by
  have member := List.mem_of_getElem? picked
  rw [List.mem_filter, decide_eq_true_eq] at member
  exact member

/-- It is always somebody's turn. -/
theorem exists_onTurn (member : s ∈ subscriptions) (mine : s.group = some group) (turns : Nat) :
    ∃ t, onTurn turns subscriptions group = some t := by
  have among : s ∈ subscriptions.filter fun s => s.group = some group := by simp [member, mine]
  have bound := Nat.mod_lt (turns % counterRange) (List.length_pos_of_mem among)
  exact ⟨_, List.getElem?_eq_getElem bound⟩

theorem mem_keys_groups : group ∈ (groups subscriptions).keys ↔ ∃ s ∈ subscriptions, s.group = some group := by
  rw [← Dict.contains_iff_mem_keys, groups, NameSet.contains_ofNames, List.mem_filterMap]

/-- Whoever gets a message is plain, or it is their turn in their group. -/
theorem mem_receivers : id ∈ receivers turns subscriptions ↔
    (∃ s ∈ subscriptions, s.group = none ∧ s.id = id) ∨
    ∃ group k s, (groups subscriptions).keys[k]? = some group ∧
      onTurn (turns + k) subscriptions group = some s ∧ s.id = id := by
  rw [receivers, List.mem_append]
  refine or_congr ?_ ?_
  · simp [and_assoc]
  · simp only [List.mem_filterMap, Prod.exists, List.mem_zipIdx_iff_getElem?, Option.map_eq_some_iff,
      exists_and_left, onTurn]

/-- A subscription is told by its number. -/
theorem eq_of_id (apart : (subscriptions.map Subscription.id).Nodup) (here : s ∈ subscriptions)
    (there : t ∈ subscriptions) (same : s.id = t.id) : s = t :=
  List.inj_on_of_nodup_map apart here there same

/-- Nobody gets a message twice. -/
theorem nodup_receivers (apart : (subscriptions.map Subscription.id).Nodup) :
    (receivers turns subscriptions).Nodup := by
  rw [receivers, List.nodup_append]
  refine ⟨apart.sublist (List.filter_sublist.map _), ?_, ?_⟩
  · -- Different groups pick different members.
    have distinct : (groups subscriptions).keys.zipIdx.Pairwise fun a b => a.1 ≠ b.1 := by
      rw [← List.pairwise_map (f := Prod.fst), List.zipIdx_map_fst]
      exact Dict.keys_nodup _
    rw [List.Nodup, List.pairwise_filterMap]
    refine distinct.imp fun {a b} differ id picked other picked' same => differ ?_
    obtain ⟨s, turn, rfl⟩ := Option.map_eq_some_iff.1 picked
    obtain ⟨t, turn', rfl⟩ := Option.map_eq_some_iff.1 picked'
    obtain ⟨here, mine⟩ := mem_of_onTurn (show onTurn (turns + a.2) subscriptions a.1 = some s from turn)
    obtain ⟨there, mine'⟩ := mem_of_onTurn (show onTurn (turns + b.2) subscriptions b.1 = some t from turn')
    rw [eq_of_id apart here there same, mine'] at mine
    exact (Option.some.inj mine).symm
  · -- Whoever is picked is in a group.
    intro id plain other picked same
    subst same
    simp only [List.mem_map, List.mem_filter, Option.isNone_iff_eq_none] at plain
    obtain ⟨s, ⟨here, alone⟩, rfl⟩ := plain
    simp only [List.mem_filterMap, Option.map_eq_some_iff] at picked
    obtain ⟨⟨group, k⟩, -, t, turn, same⟩ := picked
    obtain ⟨there, mine⟩ := mem_of_onTurn (show onTurn (turns + k) subscriptions group = some t from turn)
    rw [eq_of_id apart there here same, alone] at mine
    cases mine

/-- A member of a group gets a message if it is their turn when the group is served. -/
theorem gets_iff_onTurn (apart : (subscriptions.map Subscription.id).Nodup) (here : s ∈ subscriptions)
    (mine : s.group = some group) {k : Nat} (position : (groups subscriptions).keys[k]? = some group) :
    s.id ∈ receivers turns subscriptions ↔ onTurn (turns + k) subscriptions group = some s := by
  constructor
  · intro gets
    rcases mem_receivers.1 gets with ⟨t, listed, alone, same⟩ | ⟨group', k', t, position', turn, same⟩
    · rw [eq_of_id apart listed here same, mine] at alone
      cases alone
    · obtain ⟨listed, theirs⟩ := mem_of_onTurn turn
      obtain rfl := eq_of_id apart listed here same
      obtain rfl := Option.some.inj (mine.symm.trans theirs)
      -- A group has one place in the order of the groups.
      obtain rfl : k' = k := by
        have bound := (List.getElem?_eq_some_iff.1 position').1
        exact (List.getElem?_inj bound (Dict.keys_nodup _)).1 (position'.trans position.symm)
      exact turn
  · exact fun turn => mem_receivers.2 (.inr ⟨group, k, s, position, turn, rfl⟩)

/-- Of a group exactly one member gets a message. -/
theorem one_of_group (apart : (subscriptions.map Subscription.id).Nodup) (member : s ∈ subscriptions)
    (mine : s.group = some group) (turns : Nat) :
    ∃ t ∈ subscriptions, t.group = some group ∧ t.id ∈ receivers turns subscriptions ∧
      ∀ u ∈ subscriptions, u.group = some group → u.id ∈ receivers turns subscriptions → u = t := by
  obtain ⟨k, position⟩ := List.mem_iff_getElem?.1 (mem_keys_groups.2 ⟨s, member, mine⟩)
  obtain ⟨t, turn⟩ := exists_onTurn member mine (turns + k)
  obtain ⟨there, grouped⟩ := mem_of_onTurn turn
  refine ⟨t, there, grouped, (gets_iff_onTurn apart there grouped position).2 turn, ?_⟩
  intro u here theirs gets
  have turn' := (gets_iff_onTurn apart here theirs position).1 gets
  exact Option.some.inj (turn'.symm.trans turn)

/-- Two members take turns; who listens alone, and a group of one, get every message. -/
example : [0, 1, 2].map (fun turns => receivers turns
    [⟨0, some "g", []⟩, ⟨1, some "g", []⟩, ⟨2, none, []⟩, ⟨3, some "h", []⟩])
      = [[2, 0, 3], [2, 1, 3], [2, 0, 3]] := by
  decide

end

/-! ### Queues one by one -/

/-- What lies in the queue of a subscription, if the bus lists it. -/
def queue? (b : Bus) (subject : String) (id : Nat) : Option (List Message) :=
  ((b.subscriptions subject).find? fun s => s.id = id).map Subscription.queue

/-- A change of the queues of one subject: everything else stays as it is. -/
structure Requeues (b b' : Bus) (subject : String) (change : Nat → List Message → List Message) : Prop where
  made : b'.made = b.made
  subjects : ∀ other, b'.subjects.get? other = if other = subject
    then (b.subjects.get? other).map fun subscriptions =>
      subscriptions.map fun s => { s with queue := change s.id s.queue }
    else b.subjects.get? other

section

variable {b b' : Bus} {subject other : String} {id i : Nat} {change : Nat → List Message → List Message}

theorem pending_eq (b : Bus) (subject : String) (id : Nat) :
    b.pending subject id = (b.queue? subject id).getD [] := by
  rw [pending, queue?]
  cases (b.subscriptions subject).find? fun s => s.id = id <;> rfl

theorem queue?_eq_none_iff :
    b.queue? subject id = none ↔ id ∉ (b.subscriptions subject).map Subscription.id := by
  simp [queue?]

theorem subscriptions_subscribe (b : Bus) (subject : String) (group : Option String) (other : String) :
    (b.subscribe subject group).1.subscriptions other = if other = subject
      then b.subscriptions other ++ [⟨b.made, group, []⟩] else b.subscriptions other := by
  simp only [subscribe, subscriptions, Dict.get?_insert]
  by_cases same : other = subject <;> simp [same]

theorem get?_unsubscribe (b : Bus) (subject : String) (id : Nat) (other : String) :
    (b.unsubscribe subject id).subjects.get? other = if other = subject
      then some ((b.subscriptions subject).filter fun s => s.id ≠ id) |>.filter fun left => !left.isEmpty
      else b.subjects.get? other := by
  simp only [unsubscribe]
  split
  · next none =>
    rw [Dict.get?_erase]
    simp only [Option.filter_some, none, Bool.not_true, Bool.false_eq_true, if_false]
  · next left =>
    rw [Dict.get?_insert]
    simp only [Option.filter_some, left, Bool.not_false, if_true]

theorem subscriptions_unsubscribe (b : Bus) (subject : String) (id : Nat) (other : String) :
    (b.unsubscribe subject id).subscriptions other = if other = subject
      then (b.subscriptions other).filter fun s => s.id ≠ id else b.subscriptions other := by
  rw [subscriptions, get?_unsubscribe]
  by_cases same : other = subject
  · subst same
    rw [if_pos rfl, if_pos rfl, Option.filter_some]
    cases (b.subscriptions other).filter fun s => s.id ≠ id <;> rfl
  · rw [if_neg same, if_neg same, subscriptions]

theorem Requeues.subscriptions (h : Requeues b b' subject change) (other : String) :
    b'.subscriptions other = if other = subject
      then (b.subscriptions other).map fun s => { s with queue := change s.id s.queue }
      else b.subscriptions other := by
  rw [Bus.subscriptions, Bus.subscriptions, h.subjects]
  by_cases same : other = subject
  · rw [if_pos same, if_pos same]
    cases b.subjects.get? other <;> rfl
  · rw [if_neg same, if_neg same]

/-- The queues change as told, each for itself. -/
theorem Requeues.queue? (h : Requeues b b' subject change) (other : String) (i : Nat) :
    b'.queue? other i = if other = subject then (b.queue? other i).map (change i) else b.queue? other i := by
  rw [Bus.queue?, Bus.queue?, h.subscriptions]
  by_cases same : other = subject
  · rw [if_pos same, if_pos same, List.find?_map]
    simp only [Function.comp_def]
    cases found : (b.subscriptions other).find? fun s => s.id = i with
    | none => rfl
    | some s =>
      have numbered := List.find?_some found
      simp [of_decide_eq_true numbered]
  · rw [if_neg same, if_neg same]

/-- A new subscription has an empty queue. -/
theorem queue?_subscribe (fresh : b.queue? subject b.made = none) (group : Option String) (other : String)
    (i : Nat) : (b.subscribe subject group).1.queue? other i
      = if other = subject ∧ i = b.made then some [] else b.queue? other i := by
  rw [queue?, subscriptions_subscribe]
  by_cases same : other = subject
  · subst same
    rw [if_pos rfl, List.find?_append, Option.map_or, ← queue?]
    by_cases new : i = b.made
    · subst new
      simp [fresh]
    · have differ : b.made ≠ i := fun h => new h.symm
      simp [new, differ]
  · rw [if_neg same, if_neg (fun both => same both.1), queue?]

theorem queue?_unsubscribe (b : Bus) (subject : String) (id : Nat) (other : String) (i : Nat) :
    (b.unsubscribe subject id).queue? other i
      = if other = subject ∧ i = id then none else b.queue? other i := by
  rw [queue?, subscriptions_unsubscribe]
  by_cases same : other = subject
  · rw [if_pos same, List.find?_filter]
    by_cases gone : i = id
    · rw [if_pos ⟨same, gone⟩, Option.map_eq_none_iff, List.find?_eq_none]
      intro s _
      simp [gone]
    · rw [if_neg (fun both => gone both.2), queue?]
      congr 2
      funext s
      by_cases here : s.id = i
      · simp [here, gone]
      · simp [here]
  · rw [if_neg same, if_neg (fun both => same both.1), queue?]

/-- Those who are to get a message find it at the end of their queue. -/
theorem requeues_publish (b : Bus) (m : Message) :
    Requeues b (b.publish m) m.subject fun i queue =>
      if i ∈ receivers b.turns (b.subscriptions m.subject) then queue ++ [m] else queue := by
  cases listed : b.subjects.get? m.subject with
  | none =>
    have idle : b.publish m = b := by rw [publish, listed]
    rw [idle]
    refine ⟨rfl, fun other => ?_⟩
    by_cases same : other = m.subject
    · rw [if_pos same, same, listed]
      rfl
    · rw [if_neg same]
  | some subscriptions =>
    have here : b.subscriptions m.subject = subscriptions := by rw [Bus.subscriptions, listed]; rfl
    rw [publish, listed, here]
    refine ⟨rfl, fun other => ?_⟩
    rw [Dict.get?_insert]
    by_cases same : other = m.subject
    · rw [if_pos same, if_pos same, same, listed, Option.map_some]
      congr 1
      refine List.map_congr_left fun s _ => ?_
      by_cases gets : s.id ∈ receivers b.turns subscriptions <;> simp [gets]
    · rw [if_neg same, if_neg same]

/-- A change of the queue of one subscription. -/
theorem requeues_modify (b : Bus) (subject : String) (id : Nat) (f : List Message → List Message) :
    Requeues b { b with
        subjects := b.subjects.modify subject fun subscriptions =>
          subscriptions.map fun s => if s.id = id then { s with queue := f s.queue } else s }
      subject fun i queue => if i = id then f queue else queue := by
  refine ⟨rfl, fun other => ?_⟩
  rw [Dict.get?_modify]
  congr 3
  funext subscriptions
  refine List.map_congr_left fun s _ => ?_
  by_cases same : s.id = id <;> simp [same]

/-- Reading everything is reading one message, as long as there is one, and then everything else. -/
theorem drain_of_read {m : Message} (came : (b.read subject id).1 = some m) :
    b.drain subject id
      = (m :: ((b.read subject id).2.drain subject id).1, ((b.read subject id).2.drain subject id).2) := by
  have left : (b.read subject id).2.pending subject id = (b.pending subject id).tail := by
    have h := (requeues_modify b subject id List.tail).queue? subject id
    rw [if_pos rfl] at h
    rw [pending_eq, pending_eq, show (b.read subject id).2.queue? subject id = _ from h]
    cases b.queue? subject id <;> simp
  refine Prod.ext ?_ ?_
  · show b.pending subject id = m :: (b.read subject id).2.pending subject id
    rw [left, List.cons_head?_tail came]
  · simp only [drain, read, Dict.modify_modify, List.map_map]
    congr 2
    funext subscriptions
    refine List.map_congr_left fun s _ => ?_
    by_cases same : s.id = id <;> simp [same]

end

/-! ### What is asked of a bus -/

/-- What may be asked of a bus. -/
inductive Command where
  | subscribe (subject : String) (group : Option String)
  | unsubscribe (subject : String) (id : Nat)
  | publish (m : Message)
  /-- One message is read. -/
  | read (subject : String) (id : Nat)
  /-- All messages that have come are read. -/
  | drain (subject : String) (id : Nat)
  deriving DecidableEq

/-- What has gone through a bus. -/
inductive Note where
  /-- A message was handed to the subscriptions of its subject with these numbers. -/
  | handed (m : Message) (chosen : List Nat)
  | received (subject : String) (id : Nat) (messages : List Message)
  deriving DecidableEq

/-- What a command does. -/
def exec (b : Bus) : Command → Bus × List Note
  | .subscribe subject group => ((b.subscribe subject group).1, [])
  | .unsubscribe subject id => (b.unsubscribe subject id, [])
  | .publish m => (b.publish m, [.handed m (receivers b.turns (b.subscriptions m.subject))])
  | .read subject id => ((b.read subject id).2, [.received subject id (b.read subject id).1.toList])
  | .drain subject id => ((b.drain subject id).2, [.received subject id (b.drain subject id).1])

/-- What a sequence of commands does. -/
def run (b : Bus) : List Command → Bus × List Note
  | [] => (b, [])
  | c :: rest =>
    let (b, log) := b.exec c
    let (b, later) := b.run rest
    (b, log ++ later)

/-- The messages that were handed to a subscription, in the order of publishing. -/
def handed (subject : String) (id : Nat) (log : List Note) : List Message :=
  log.flatMap fun note =>
    match note with
    | .handed m chosen => if subject = m.subject ∧ id ∈ chosen then [m] else []
    | .received .. => []

/-- The messages that a subscription has read. -/
def received (subject : String) (id : Nat) (log : List Note) : List Message :=
  log.flatMap fun note =>
    match note with
    | .received other i messages => if subject = other ∧ id = i then messages else []
    | .handed .. => []

/-- A subscription that has been made and not been given up. -/
structure Listener where
  subject : String
  id : Nat
  group : Option String
  deriving DecidableEq

/-- The subscriptions that are live, as the commands tell; they are numbered as they are made. -/
structure Roll where
  made : Nat
  live : List Listener

namespace Roll

/-- Takes a command into account. -/
def after (roll : Roll) : Command → Roll
  | .subscribe subject group => ⟨roll.made + 1, roll.live ++ [⟨subject, roll.made, group⟩]⟩
  | .unsubscribe subject id =>
    { roll with live := roll.live.filter fun l => ¬ (l.subject = subject ∧ l.id = id) }
  | _ => roll

/-- The subscriptions that are live after a sequence of commands. -/
def call (commands : List Command) : Roll := commands.foldl after ⟨0, []⟩

/-- Numbers are given out once. -/
structure Sound (roll : Roll) : Prop where
  fresh : ∀ l ∈ roll.live, l.id < roll.made
  apart : (roll.live.map Listener.id).Nodup

end Roll

/-- How a message on a subject is shared: everybody who listens alone gets it, and of every group that
listens one member, and nobody gets it twice. -/
structure Shares (live : List Listener) (subject : String) (chosen : List Nat) : Prop where
  once : chosen.Nodup
  among : ∀ id ∈ chosen, ∃ l ∈ live, l.subject = subject ∧ l.id = id
  plain : ∀ l ∈ live, l.subject = subject → l.group = none → l.id ∈ chosen
  group : ∀ l ∈ live, l.subject = subject → ∀ group, l.group = some group →
    ∃! member, member ∈ live ∧ member.subject = subject ∧ member.group = some group ∧ member.id ∈ chosen

/-- A bus lists the subscriptions that are live, and no subject without any. -/
structure Lists (b : Bus) (roll : Roll) : Prop where
  made : b.made = roll.made
  listed : ∀ subject, (b.subscriptions subject).map (fun s => (⟨subject, s.id, s.group⟩ : Listener))
    = roll.live.filter fun l => l.subject = subject
  filled : ∀ subject, b.subjects.get? subject ≠ some []

/-- What has been read and what has not is together what was handed over. -/
structure Account (b : Bus) (log : List Note) : Prop where
  held : ∀ subject id queue, b.queue? subject id = some queue →
    received subject id log ++ queue = handed subject id log
  gone : ∀ subject id, received subject id log <+: handed subject id log
  unborn : ∀ subject id, b.made ≤ id → handed subject id log = []

section

variable {b b' : Bus} {roll : Roll} {log : List Note} {subject : String} {id : Nat}
  {change : Nat → List Message → List Message}

theorem handed_append (subject : String) (id : Nat) (log later : List Note) :
    handed subject id (log ++ later) = handed subject id log ++ handed subject id later :=
  List.flatMap_append

theorem received_append (subject : String) (id : Nat) (log later : List Note) :
    received subject id (log ++ later) = received subject id log ++ received subject id later :=
  List.flatMap_append

/-! ### The roll -/

theorem Roll.Sound.after (sound : roll.Sound) (c : Command) : (roll.after c).Sound := by
  cases c with
  | subscribe subject group =>
    refine ⟨fun l member => ?_, ?_⟩
    · simp only [Roll.after, List.mem_append, List.mem_singleton] at member ⊢
      rcases member with old | rfl
      · exact Nat.lt_succ_of_lt (sound.fresh l old)
      · exact Nat.lt_succ_self _
    · simp only [Roll.after, List.map_append, List.map_cons, List.map_nil]
      refine List.nodup_append.2 ⟨sound.apart, List.nodup_singleton _, ?_⟩
      rintro _ member _ new rfl
      obtain ⟨l, old, rfl⟩ := List.mem_map.1 member
      have below := sound.fresh l old
      rw [List.mem_singleton] at new
      omega
  | unsubscribe subject id =>
    refine ⟨fun l member => sound.fresh l (List.mem_filter.1 member).1, ?_⟩
    exact sound.apart.sublist (List.filter_sublist.map _)
  | publish m => exact sound
  | read subject id => exact sound
  | drain subject id => exact sound

theorem Lists.requeues (lists : b.Lists roll) (h : Requeues b b' subject change) : b'.Lists roll where
  made := h.made.trans lists.made
  listed other := by
    rw [← lists.listed other, h.subscriptions]
    split
    · rw [List.map_map]
      rfl
    · rfl
  filled other none := by
    rw [h.subjects] at none
    split at none
    · obtain ⟨subscriptions, found, empty⟩ := Option.map_eq_some_iff.1 none
      exact lists.filled other (found.trans (congrArg some (List.map_eq_nil_iff.1 empty)))
    · exact lists.filled other none

theorem Lists.subscribe (lists : b.Lists roll) (subject : String) (group : Option String) :
    (b.subscribe subject group).1.Lists (roll.after (.subscribe subject group)) where
  made := congrArg (· + 1) lists.made
  listed other := by
    rw [subscriptions_subscribe, Roll.after, List.filter_append, ← lists.listed other, lists.made]
    by_cases same : other = subject
    · subst same
      simp
    · have differ : subject ≠ other := fun h => same h.symm
      simp [same, differ]
  filled other none := by
    simp only [Bus.subscribe, Dict.get?_insert] at none
    split at none
    · simp at none
    · exact lists.filled other none

theorem Lists.unsubscribe (lists : b.Lists roll) (subject : String) (id : Nat) :
    (b.unsubscribe subject id).Lists (roll.after (.unsubscribe subject id)) where
  made := lists.made
  listed other := by
    rw [subscriptions_unsubscribe, Roll.after, List.filter_filter]
    by_cases same : other = subject
    · subst same
      have both : (roll.live.filter fun l => decide (l.subject = other) && decide ¬ (l.subject = other ∧ l.id = id))
          = (roll.live.filter fun l => l.subject = other).filter fun l => l.id ≠ id := by
        rw [List.filter_filter]
        refine List.filter_congr fun l _ => ?_
        by_cases here : l.subject = other <;> simp [here]
      rw [if_pos rfl, both, ← lists.listed other, List.filter_map]
      rfl
    · rw [if_neg same, lists.listed other]
      refine List.filter_congr fun l _ => ?_
      by_cases here : l.subject = other
      · have away : l.subject ≠ subject := fun there => same (here.symm.trans there)
        simp [here, same]
      · simp [here]
  filled other none := by
    rw [get?_unsubscribe] at none
    split at none
    · have kept := (Option.filter_eq_some_iff.1 none).2
      cases kept
    · exact lists.filled other none

/-- A command changes the list as it changes the roll. -/
theorem Lists.exec (lists : b.Lists roll) (c : Command) : (b.exec c).1.Lists (roll.after c) := by
  cases c with
  | subscribe subject group => exact lists.subscribe subject group
  | unsubscribe subject id => exact lists.unsubscribe subject id
  | publish m => exact lists.requeues (requeues_publish b m)
  | read subject id => exact lists.requeues (requeues_modify b subject id List.tail)
  | drain subject id => exact lists.requeues (requeues_modify b subject id fun _ => [])

theorem Lists.mem_iff (lists : b.Lists roll) {l : Listener} : l ∈ roll.live ∧ l.subject = subject ↔
    ∃ s ∈ b.subscriptions subject, (⟨subject, s.id, s.group⟩ : Listener) = l := by
  have member := congrArg (l ∈ ·) (lists.listed subject)
  simp only [List.mem_map, List.mem_filter, decide_eq_true_eq, eq_iff_iff] at member
  exact member.symm

/-- The subscriptions of one subject have different numbers. -/
theorem Lists.apart (lists : b.Lists roll) (sound : roll.Sound) (subject : String) :
    ((b.subscriptions subject).map Subscription.id).Nodup := by
  have numbers := congrArg (List.map Listener.id) (lists.listed subject)
  rw [List.map_map] at numbers
  rw [show (b.subscriptions subject).map Subscription.id = _ from numbers]
  exact sound.apart.sublist (List.filter_sublist.map _)

theorem Lists.lt_made (lists : b.Lists roll) (sound : roll.Sound) {s : Subscription}
    (member : s ∈ b.subscriptions subject) : s.id < b.made := by
  obtain ⟨live, -⟩ := lists.mem_iff.2 ⟨s, member, rfl⟩
  rw [lists.made]
  exact sound.fresh _ live

/-- **A message is shared** as it should be. -/
theorem Lists.shares (lists : b.Lists roll) (sound : roll.Sound) (subject : String) (turns : Nat) :
    Shares roll.live subject (receivers turns (b.subscriptions subject)) where
  once := nodup_receivers (lists.apart sound subject)
  among id member := by
    have listed : ∃ s ∈ b.subscriptions subject, s.id = id := by
      rcases mem_receivers.1 member with ⟨s, here, -, same⟩ | ⟨group, k, s, -, turn, same⟩
      · exact ⟨s, here, same⟩
      · exact ⟨s, (mem_of_onTurn turn).1, same⟩
    obtain ⟨s, here, same⟩ := listed
    obtain ⟨live, owner⟩ := lists.mem_iff.2 ⟨s, here, rfl⟩
    exact ⟨_, live, owner, same⟩
  plain l live here alone := by
    obtain ⟨s, listed, rfl⟩ := lists.mem_iff.1 ⟨live, here⟩
    exact mem_receivers.2 (.inl ⟨s, listed, alone, rfl⟩)
  group l live here group mine := by
    obtain ⟨s, listed, rfl⟩ := lists.mem_iff.1 ⟨live, here⟩
    obtain ⟨t, there, grouped, gets, only⟩ := one_of_group (lists.apart sound subject) listed mine turns
    obtain ⟨live', owner⟩ := lists.mem_iff.2 ⟨t, there, rfl⟩
    refine ⟨_, ⟨live', owner, grouped, gets⟩, ?_⟩
    rintro other ⟨live'', owner', grouped', gets'⟩
    obtain ⟨u, listed', rfl⟩ := lists.mem_iff.1 ⟨live'', owner'⟩
    rw [only u listed' grouped' gets']

/-! ### The account -/

/-- What is read is taken off the front of the queue. -/
theorem Account.takes (account : b.Account log) (front rest : List Message → List Message)
    (h : Requeues b b' subject fun i queue => if i = id then rest queue else queue)
    (splits : ∀ queue, front queue ++ rest queue = queue) :
    b'.Account (log ++ [.received subject id (front (b.pending subject id))]) := by
  have handedSame (other : String) (i : Nat) :
      handed other i (log ++ [.received subject id (front (b.pending subject id))]) = handed other i log := by
    rw [handed_append]
    exact List.append_nil _
  have receivedMore (other : String) (i : Nat) :
      received other i (log ++ [.received subject id (front (b.pending subject id))])
        = received other i log
          ++ if other = subject ∧ i = id then front (b.pending subject id) else [] := by
    rw [received_append]
    simp [received]
  refine ⟨fun other i queue found => ?_, fun other i => ?_, fun other i unborn => ?_⟩
  · rw [handedSame, receivedMore]
    rw [h.queue?] at found
    by_cases here : other = subject ∧ i = id
    · obtain ⟨rfl, rfl⟩ := here
      rw [if_pos rfl] at found
      obtain ⟨before, there, rfl⟩ := Option.map_eq_some_iff.1 found
      rw [if_pos ⟨rfl, rfl⟩, pending_eq, there, if_pos rfl, List.append_assoc, Option.getD_some, splits]
      exact account.held _ _ _ there
    · rw [if_neg here, List.append_nil]
      refine account.held _ _ _ ?_
      split at found
      · next same =>
        obtain ⟨before, there, rfl⟩ := Option.map_eq_some_iff.1 found
        rw [there, if_neg fun number => here ⟨same, number⟩]
      · exact found
  · rw [handedSame, receivedMore]
    by_cases here : other = subject ∧ i = id
    · obtain ⟨rfl, rfl⟩ := here
      rw [if_pos ⟨rfl, rfl⟩, pending_eq]
      cases found : b.queue? other i with
      | none =>
        have nothing : front [] = [] := (List.append_eq_nil_iff.1 (splits [])).1
        rw [Option.getD_none, nothing, List.append_nil]
        exact account.gone other i
      | some queue =>
        rw [Option.getD_some, ← account.held other i queue found]
        refine (List.prefix_append_right_inj _).2 ⟨rest queue, splits queue⟩
    · rw [if_neg here, List.append_nil]
      exact account.gone other i
  · rw [handedSame]
    exact account.unborn other i (h.made ▸ unborn)

/-- What is published is put at the end of the queues. -/
theorem Account.publish (account : b.Account log) (lists : b.Lists roll) (sound : roll.Sound) (m : Message) :
    (b.publish m).Account (log ++ [.handed m (receivers b.turns (b.subscriptions m.subject))]) := by
  have h := requeues_publish b m
  have shares := lists.shares sound m.subject b.turns
  generalize receivers b.turns (b.subscriptions m.subject) = chosen at h shares ⊢
  have receivedSame (other : String) (i : Nat) : received other i (log ++ [.handed m chosen]) = received other i log := by
    rw [received_append]
    exact List.append_nil _
  have handedMore (other : String) (i : Nat) : handed other i (log ++ [.handed m chosen])
      = handed other i log ++ if other = m.subject ∧ i ∈ chosen then [m] else [] := by
    rw [handed_append]
    simp [handed]
  refine ⟨fun other i queue found => ?_, fun other i => ?_, fun other i unborn => ?_⟩
  · rw [receivedSame, handedMore]
    rw [h.queue?] at found
    split at found
    · next same =>
      obtain ⟨before, there, rfl⟩ := Option.map_eq_some_iff.1 found
      rw [← account.held other i before there]
      by_cases gets : i ∈ chosen <;> simp [same, gets]
    · next differ =>
      rw [if_neg fun both => differ both.1, List.append_nil]
      exact account.held other i queue found
  · rw [receivedSame, handedMore]
    exact (account.gone other i).trans (List.prefix_append _ _)
  · rw [handedMore, account.unborn other i (h.made ▸ unborn), if_neg, List.append_nil]
    rintro ⟨-, gets⟩
    obtain ⟨l, live, -, rfl⟩ := shares.among i gets
    have below := sound.fresh l live
    rw [← lists.made, ← h.made] at below
    omega

theorem Account.subscribe (account : b.Account log) (lists : b.Lists roll) (sound : roll.Sound)
    (subject : String) (group : Option String) : (b.subscribe subject group).1.Account log := by
  have fresh : b.queue? subject b.made = none := by
    rw [queue?_eq_none_iff]
    intro member
    obtain ⟨s, listed, same⟩ := List.mem_map.1 member
    have below := lists.lt_made sound listed
    omega
  refine ⟨fun other i queue found => ?_, account.gone, fun other i unborn => ?_⟩
  · rw [queue?_subscribe fresh] at found
    split at found
    · next here =>
      -- Nothing has been handed to a subscription before it was made.
      obtain rfl := Option.some.inj found
      have none := account.unborn other i (Nat.le_of_eq here.2.symm)
      have read := account.gone other i
      rw [none, List.prefix_nil] at read
      rw [none, read]
      rfl
    · exact account.held other i queue found
  · exact account.unborn other i (Nat.le_of_succ_le unborn)

theorem Account.unsubscribe (account : b.Account log) (subject : String) (id : Nat) :
    (b.unsubscribe subject id).Account log := by
  refine ⟨fun other i queue found => ?_, account.gone, account.unborn⟩
  rw [queue?_unsubscribe] at found
  split at found
  · cases found
  · exact account.held other i queue found

/-- **Every command keeps the account.** -/
theorem Account.exec (account : b.Account log) (lists : b.Lists roll) (sound : roll.Sound) (c : Command) :
    (b.exec c).1.Account (log ++ (b.exec c).2) := by
  cases c with
  | subscribe subject group =>
    rw [Bus.exec, List.append_nil]
    exact account.subscribe lists sound subject group
  | unsubscribe subject id =>
    rw [Bus.exec, List.append_nil]
    exact account.unsubscribe subject id
  | publish m => exact account.publish lists sound m
  | read subject id =>
    refine account.takes (fun queue => queue.head?.toList) List.tail (requeues_modify b subject id List.tail) ?_
    intro queue
    cases queue <;> rfl
  | drain subject id =>
    exact account.takes (fun queue => queue) (fun _ => []) (requeues_modify b subject id fun _ => []) List.append_nil

/-- A bus, the roll and what has gone through, all in order. -/
structure Kept (b : Bus) (roll : Roll) (log : List Note) : Prop where
  lists : b.Lists roll
  sound : roll.Sound
  account : b.Account log

theorem kept_silent : silent.Kept (Roll.call []) [] where
  lists := ⟨rfl, fun _ => rfl, fun _ => nofun⟩
  sound := ⟨nofun, List.nodup_nil⟩
  account := ⟨fun _ _ _ => nofun, fun _ _ => List.prefix_rfl, fun _ _ _ => rfl⟩

theorem Kept.run (kept : b.Kept roll log) (commands : List Command) :
    (b.run commands).1.Kept (commands.foldl Roll.after roll) (log ++ (b.run commands).2) := by
  induction commands generalizing b roll log with
  | nil =>
    rw [Bus.run, List.append_nil]
    exact kept
  | cons c rest ih =>
    have next : (b.exec c).1.Kept (roll.after c) (log ++ (b.exec c).2) :=
      ⟨kept.lists.exec c, kept.sound.after c, kept.account.exec kept.lists kept.sound c⟩
    have later := ih next
    rw [List.append_assoc] at later
    exact later

end

/-- **Messages are shared as they should be, and nothing is lost.** Whatever has been asked of a bus that
nobody listened to at first: a message that is published now is put, once, at the end of the queue of
every live plain subscription of its subject and of exactly one live member of every group there, and
into no other queue. Every live subscription has read, or still has in its queue, all that was handed to
it and in the order of publishing; one that was given up has read the first part of that. A subject has
as many subscriptions as are live, and once none is, its entry is gone. -/
theorem messages_shared_and_kept_in_order (commands : List Command) :
    let b := (silent.run commands).1
    let log := (silent.run commands).2
    let live := (Roll.call commands).live
    (∀ m : Message, ∃ chosen : List Nat, Shares live m.subject chosen ∧ (b.exec (.publish m)).2 = [.handed m chosen] ∧
      ∀ subject id, (b.publish m).pending subject id
        = b.pending subject id ++ if subject = m.subject ∧ id ∈ chosen then [m] else []) ∧
    (∀ subject id, (∃ l ∈ live, l.subject = subject ∧ l.id = id) →
      received subject id log ++ b.pending subject id = handed subject id log) ∧
    (∀ subject id, received subject id log <+: handed subject id log) ∧
    ∀ subject, b.count subject = (live.filter fun l => l.subject = subject).length ∧
      ((∀ l ∈ live, l.subject ≠ subject) → b.subjects.get? subject = none) := by
  intro b log live
  obtain ⟨lists, sound, account⟩ := kept_silent.run commands
  rw [List.nil_append] at account
  change b.Lists (Roll.call commands) at lists
  refine ⟨fun m => ⟨_, lists.shares sound m.subject b.turns, rfl, fun subject id => ?_⟩, ?_, account.gone, ?_⟩
  · have shares := lists.shares sound m.subject b.turns
    have h := requeues_publish b m
    rw [pending_eq, pending_eq, h.queue?]
    by_cases same : subject = m.subject
    · subst same
      cases found : b.queue? m.subject id with
      | none =>
        -- Whoever is not listed gets nothing.
        have away : id ∉ receivers b.turns (b.subscriptions m.subject) := by
          intro gets
          obtain ⟨l, among, here, rfl⟩ := shares.among id gets
          obtain ⟨s, listed, rfl⟩ := lists.mem_iff.1 ⟨among, here⟩
          exact queue?_eq_none_iff.1 found (List.mem_map_of_mem listed)
        simp [away]
      | some queue =>
        by_cases gets : id ∈ receivers b.turns (b.subscriptions m.subject) <;> simp [gets]
    · simp [same]
  · rintro subject id ⟨l, among, here, rfl⟩
    obtain ⟨s, listed, rfl⟩ := lists.mem_iff.1 ⟨among, here⟩
    cases found : b.queue? subject s.id with
    | none => exact absurd (List.mem_map_of_mem listed) (queue?_eq_none_iff.1 found)
    | some queue =>
      rw [pending_eq, found]
      exact account.held subject s.id queue found
  · intro subject
    have listed := lists.listed subject
    refine ⟨by rw [show (Roll.call commands).live = live from rfl] at listed; rw [← listed, List.length_map]; rfl, ?_⟩
    intro none
    rw [List.filter_eq_nil_iff.2 fun l among => by simp [none l among], List.map_eq_nil_iff] at listed
    cases found : b.subjects.get? subject with
    | none => rfl
    | some subscriptions =>
      rw [Bus.subscriptions, found] at listed
      exact absurd (found.trans (congrArg some listed)) (lists.filled subject)

end Bus

end Muster
