import Mathlib.Data.List.Infix
import Mathlib.Data.List.Perm.Subperm
import Mathlib.Data.Nat.ModEq
import Muster.Proofs.Bus

/-!
# Whether the members of a group take turns

As long as a group keeps its members, each message on its subject goes to the member at the place that the
counter shows at the turn of the group, modulo the number of members (`Lists.served_run`). The counter is moved
on by every group of the bus, so what it shows from one turn of a group to the next need not go up by one.
The members get equally many messages in every stretch of time, up to one, exactly if the places that the
counter shows alternate (`Alternates.count_le`, `nodup_of_count_le`, `evenly_shared_iff`), as they do for a
group that has the counter for itself.
-/

set_option autoImplicit false

namespace Muster.Bus

/-! ### Places that alternate -/

/-- Among so many successive places none comes twice. -/
def Alternates (n : Nat) (places : List Nat) : Prop :=
  ∀ part, part <:+: places → part.length ≤ n → part.Nodup

section

variable {n q : Nat} {part places : List Nat}

theorem Alternates.mono (alternates : Alternates n places) (within : part <:+: places) : Alternates n part :=
  fun piece inside => alternates piece (inside.trans within)

/-- As many different places as there are at all are all of them. -/
theorem perm_range (bound : ∀ p ∈ places, p < n) (distinct : places.Nodup) (full : n ≤ places.length) :
    places.Perm (List.range n) := by
  have among : places ⊆ List.range n := fun p member => List.mem_range.2 (bound p member)
  refine (List.subperm_of_subset distinct among).perm_of_length_le ?_
  rw [List.length_range]
  exact full

/-- Of places that alternate none comes more than once more often than another. -/
theorem Alternates.count_le (alternates : Alternates n places) (bound : ∀ p ∈ places, p < n) (p : Nat)
    (inside : q < n) : places.count p ≤ places.count q + 1 := by
  induction size : places.length using Nat.strong_induction_on generalizing places with
  | h length ih =>
    subst size
    by_cases short : places.length ≤ n
    · have once := List.nodup_iff_count_le_one.1 (alternates places List.infix_rfl short) p
      omega
    · -- The first of them are all places, once each, and for the others the induction hypothesis tells.
      have cut : (places.take n).length = n := by
        rw [List.length_take]
        omega
      have first : (places.take n).Nodup := alternates _ (List.take_prefix n places).isInfix cut.le
      have all := perm_range (fun p member => bound p (List.mem_of_mem_take member)) first cut.ge
      have rest : (places.drop n).count p ≤ (places.drop n).count q + 1 := by
        refine ih _ ?_ (alternates.mono (List.drop_suffix n places).isInfix)
          (fun p member => bound p (List.mem_of_mem_drop member)) rfl
        rw [List.length_drop]
        omega
      have split (r : Nat) : places.count r = (places.take n).count r + (places.drop n).count r := by
        rw [← List.count_append, List.take_append_drop]
      have once := List.nodup_iff_count_le_one.1 first p
      have present : 0 < (places.take n).count q :=
        List.count_pos_iff.2 (all.mem_iff.2 (List.mem_range.2 inside))
      rw [split p, split q]
      omega

/-- If no place comes more than once more often than another, none comes twice in a list that is not longer
than there are places. -/
theorem nodup_of_count_le (bound : ∀ p ∈ places, p < n) (short : places.length ≤ n)
    (even : ∀ p < n, ∀ q < n, places.count p ≤ places.count q + 1) : places.Nodup := by
  rw [List.nodup_iff_count_le_one]
  intro p
  by_contra twice
  have member : p ∈ places := List.count_pos_iff.1 (by omega)
  -- Every other place comes too then, and there is no room for so many.
  have everywhere : List.range n ⊆ places := by
    intro q inside
    have some := even p (bound p member) q (List.mem_range.1 inside)
    exact List.count_pos_iff.1 (by omega)
  have all : (List.range n).Perm places := by
    refine (List.subperm_of_subset List.nodup_range everywhere).perm_of_length_le ?_
    rw [List.length_range]
    exact short
  exact twice (List.nodup_iff_count_le_one.1 (all.nodup_iff.1 List.nodup_range) p)

/-- Successive numbers alternate. -/
theorem alternates_range' (n start length : Nat) :
    Alternates n ((List.range' start length).map (· % n)) := by
  rintro part ⟨before, after, whole⟩ short
  obtain ⟨most, _, numbers, here, -⟩ := List.map_eq_append_iff.1 whole.symm
  obtain ⟨_, some, rfl, -, rfl⟩ := List.map_eq_append_iff.1 here
  obtain ⟨_, -, upto, -⟩ := List.range'_eq_append_iff.1 numbers
  obtain ⟨k, -, -, there⟩ := List.range'_eq_append_iff.1 upto.symm
  rw [List.length_map] at short
  rw [there, List.length_range'] at short
  rw [there]
  refine List.Nodup.map_on ?_ (List.nodup_range')
  intro x member y member' same
  rw [List.mem_range'_1] at member member'
  obtain ⟨i, rfl⟩ := Nat.exists_eq_add_of_le member.1
  obtain ⟨j, rfl⟩ := Nat.exists_eq_add_of_le member'.1
  have close : i ≡ j [MOD n] := Nat.ModEq.add_left_cancel' _ same
  rw [close.eq_of_lt_of_lt (by omega) (by omega)]

end

/-! ### Whom the counter points at -/

/-- The numbers of the live members of a group, in the order in which they came. -/
def Roll.members (roll : Roll) (subject group : String) : List Nat :=
  (roll.live.filter fun l => l.subject = subject ∧ l.group = some group).map Listener.id

/-- What the counter shows at the turn of a group, if a message is published on its subject: the groups
with lesser names have moved it on. -/
def reading? (b : Bus) (subject group : String) : Option Nat :=
  ((groups (b.subscriptions subject)).keys.idxOf? group).map fun k => (b.turns + k) % counterRange

/-- What the counter shows at the turn of a group while a command is executed. -/
def readingAt? (b : Bus) (subject group : String) : Command → Option Nat
  | .publish m => if m.subject = subject then b.reading? subject group else none
  | _ => none

/-- What the counter shows at the turns of a group, one after the other. -/
def readings (b : Bus) (subject group : String) : List Command → List Nat
  | [] => []
  | c :: rest => (b.readingAt? subject group c).toList ++ (b.exec c).1.readings subject group rest

section

variable {b : Bus} {roll : Roll} {subject group : String} {ids : List Nat} {log : List Note} {id p : Nat}

theorem Lists.members_eq (lists : b.Lists roll) : roll.members subject group
    = ((b.subscriptions subject).filter fun s => s.group = some group).map Subscription.id := by
  have both : (roll.live.filter fun l => decide (l.subject = subject ∧ l.group = some group))
      = (roll.live.filter fun l => l.subject = subject).filter fun l => l.group = some group := by
    rw [List.filter_filter]
    refine List.filter_congr fun l _ => ?_
    rw [Bool.decide_and, Bool.and_comm]
  rw [Roll.members, both, ← lists.listed subject, List.filter_map, List.map_map]
  rfl

/-- **The counter points at a member**, who gets the message, and no other member does. -/
theorem Lists.mem_receivers_iff (lists : b.Lists roll) (sound : roll.Sound)
    (place : (roll.members subject group)[p]? = some id) :
    id ∈ receivers b.turns (b.subscriptions subject) ↔
      (b.reading? subject group).map (· % (roll.members subject group).length) = some p := by
  have apart := lists.apart sound subject
  rw [lists.members_eq] at place ⊢
  rw [List.getElem?_map, Option.map_eq_some_iff] at place
  obtain ⟨s, here, rfl⟩ := place
  obtain ⟨listed, mine⟩ := List.mem_filter.1 (List.mem_of_getElem? here)
  rw [decide_eq_true_eq] at mine
  obtain ⟨k, found⟩ := Option.isSome_iff_exists.1 (List.isSome_idxOf?.2 (mem_keys_groups.2 ⟨s, listed, mine⟩))
  have position : (groups (b.subscriptions subject)).keys[k]? = some group := by
    obtain ⟨bound, named, -⟩ := List.idxOf?_eq_some_iff.1 found
    rw [List.getElem?_eq_getElem bound, named]
  have distinct : ((b.subscriptions subject).filter fun s => s.group = some group).Nodup :=
    (List.Nodup.of_map _ apart).filter _
  rw [gets_iff_onTurn apart listed mine position, reading?, found, Option.map_some, Option.map_some,
    Option.some.injEq, List.length_map]
  simp only [onTurn]
  constructor
  · intro turn
    have bound := (List.getElem?_eq_some_iff.1 turn).1
    exact (List.getElem?_inj bound distinct).1 (turn.trans here.symm)
  · intro turn
    rw [turn]
    exact here

/-- The place that the counter shows is one of a member. -/
theorem Lists.place_lt (lists : b.Lists roll)
    (shown : (b.reading? subject group).map (· % (roll.members subject group).length) = some p) :
    p < (roll.members subject group).length := by
  obtain ⟨reading, turn, rfl⟩ := Option.map_eq_some_iff.1 shown
  obtain ⟨k, found, -⟩ := Option.map_eq_some_iff.1 turn
  have present : group ∈ (groups (b.subscriptions subject)).keys := by
    rw [← List.isSome_idxOf?, found]
    rfl
  obtain ⟨s, listed, mine⟩ := mem_keys_groups.1 present
  refine Nat.mod_lt _ (List.length_pos_of_mem (a := s.id) ?_)
  rw [lists.members_eq]
  exact List.mem_map_of_mem (List.mem_filter.2 ⟨listed, decide_eq_true mine⟩)

/-! ### Who was served -/

/-- The place, among subscriptions with these numbers, of the one that was handed a message on a subject. -/
def Note.place? (ids : List Nat) (subject : String) : Note → Option Nat
  | .handed m chosen => if m.subject = subject then ids.findIdx? (· ∈ chosen) else none
  | .received .. => none

/-- The places of the subscriptions that were handed the messages on a subject, one after the other. -/
def served (ids : List Nat) (subject : String) (log : List Note) : List Nat :=
  log.filterMap (Note.place? ids subject)

/-- Of the subscriptions with these numbers only the one at its place was handed the message. -/
def Note.Singles (ids : List Nat) (subject : String) (note : Note) : Prop :=
  ∀ p id, ids[p]? = some id →
    (Bus.handed subject id [note]).length = if note.place? ids subject = some p then 1 else 0

/-- In every stretch of the log the subscriptions with these numbers were handed equally many messages on a
subject, up to one. -/
def SharedEvenly (ids : List Nat) (subject : String) (log : List Note) : Prop :=
  ∀ part, part <:+: log → ∀ i ∈ ids, ∀ j ∈ ids,
    (handed subject i part).length ≤ (handed subject j part).length + 1

theorem lt_of_mem_served (member : p ∈ served ids subject log) : p < ids.length := by
  obtain ⟨note, -, place⟩ := List.mem_filterMap.1 member
  cases note with
  | handed m chosen =>
    rw [Note.place?] at place
    split at place
    · exact (List.findIdx?_eq_some_iff_getElem.1 place).1
    · cases place
  | received => cases place

/-- The messages that a member was handed are those that were served to its place. -/
theorem length_handed (singles : ∀ note ∈ log, note.Singles ids subject) (place : ids[p]? = some id) :
    (handed subject id log).length = (served ids subject log).count p := by
  induction log with
  | nil => rfl
  | cons note rest ih =>
    have later := ih fun note member => singles note (List.mem_cons_of_mem _ member)
    have now := singles note List.mem_cons_self p id place
    rw [← List.singleton_append, handed_append, List.length_append, later, now, served, served,
      List.filterMap_append, List.count_append, List.filterMap_cons, List.filterMap_nil]
    cases note.place? ids subject with
    | none => simp
    | some q =>
      by_cases same : q = p <;> simp [same]

/-- **Members are served evenly exactly if their places alternate.** -/
theorem sharedEvenly_iff_alternates (singles : ∀ note ∈ log, note.Singles ids subject) :
    SharedEvenly ids subject log ↔ Alternates ids.length (served ids subject log) := by
  constructor
  · rintro even part ⟨before, after, whole⟩ short
    -- The stretch of the log in which just these places were served.
    obtain ⟨_, later, rfl, upto, -⟩ := List.filterMap_eq_append_iff.1 whole.symm
    obtain ⟨earlier, stretch, rfl, -, rfl⟩ := List.filterMap_eq_append_iff.1 upto
    have within : stretch <:+: earlier ++ stretch ++ later := ⟨earlier, later, rfl⟩
    have known : ∀ note ∈ stretch, note.Singles ids subject := fun note member =>
      singles note (within.subset member)
    refine nodup_of_count_le (fun p member => lt_of_mem_served member) short fun p inside q inside' => ?_
    have counted := even stretch within _ (List.getElem_mem inside) _ (List.getElem_mem inside')
    rw [length_handed known (List.getElem?_eq_getElem inside),
      length_handed known (List.getElem?_eq_getElem inside')] at counted
    exact counted
  · intro alternates part within i member j member'
    obtain ⟨p, place⟩ := List.mem_iff_getElem?.1 member
    obtain ⟨q, place'⟩ := List.mem_iff_getElem?.1 member'
    have known : ∀ note ∈ part, note.Singles ids subject := fun note listed => singles note (within.subset listed)
    rw [length_handed known place, length_handed known place']
    exact (alternates.mono (within.filterMap _)).count_le (fun p listed => lt_of_mem_served listed) p
      (List.getElem?_eq_some_iff.1 place').1

theorem findIdx?_eq {chosen : List Nat} {place : Option Nat} (bound : ∀ p, place = some p → p < ids.length)
    (points : ∀ p id, ids[p]? = some id → (id ∈ chosen ↔ place = some p)) :
    ids.findIdx? (· ∈ chosen) = place := by
  cases place with
  | none =>
    rw [List.findIdx?_eq_none_iff]
    intro id member
    obtain ⟨p, here⟩ := List.mem_iff_getElem?.1 member
    have away : id ∉ chosen := fun gets => nomatch (points p id here).1 gets
    exact decide_eq_false away
  | some p =>
    have inside := bound p rfl
    refine List.findIdx?_eq_some_iff_getElem.2 ⟨inside, ?_, fun q before gets => ?_⟩
    · exact decide_eq_true ((points p _ (List.getElem?_eq_getElem inside)).2 rfl)
    · have shown := (points q _ (List.getElem?_eq_getElem (before.trans inside))).1 (of_decide_eq_true gets)
      have same := Option.some.inj shown
      omega

theorem Lists.place?_handed (lists : b.Lists roll) (sound : roll.Sound) (m : Message) :
    (Note.handed m (receivers b.turns (b.subscriptions m.subject))).place? (roll.members subject group) subject
      = (b.readingAt? subject group (.publish m)).map (· % (roll.members subject group).length) := by
  rw [Note.place?, readingAt?]
  by_cases same : m.subject = subject
  · subst same
    rw [if_pos rfl, if_pos rfl]
    exact findIdx?_eq (fun _ => lists.place_lt) fun _ _ => lists.mem_receivers_iff sound
  · rw [if_neg same, if_neg same]
    rfl

theorem Lists.singles_handed (lists : b.Lists roll) (sound : roll.Sound) (m : Message) :
    (Note.handed m (receivers b.turns (b.subscriptions m.subject))).Singles (roll.members subject group)
      subject := by
  intro p id here
  rw [lists.place?_handed sound, readingAt?]
  by_cases same : m.subject = subject
  · subst same
    have points := lists.mem_receivers_iff sound here
    rw [if_pos rfl]
    by_cases gets : id ∈ receivers b.turns (b.subscriptions m.subject)
    · rw [if_pos (points.1 gets)]
      simp [handed, gets]
    · rw [if_neg fun shown => gets (points.2 shown)]
      simp [handed, gets]
  · have differ : subject ≠ m.subject := fun h => same h.symm
    simp [handed, same, differ]

/-- A command serves the member at the place that the counter shows. -/
theorem Lists.served_exec (lists : b.Lists roll) (sound : roll.Sound) (subject group : String) (c : Command) :
    (∀ note ∈ (b.exec c).2, note.Singles (roll.members subject group) subject) ∧
    served (roll.members subject group) subject (b.exec c).2
      = (b.readingAt? subject group c).toList.map (· % (roll.members subject group).length) := by
  have unheard (other : String) (i : Nat) (messages : List Message) :
      (Note.received other i messages).Singles (roll.members subject group) subject := fun _ _ _ => rfl
  cases c with
  | subscribe other name => exact ⟨nofun, rfl⟩
  | unsubscribe other i => exact ⟨nofun, rfl⟩
  | publish m =>
    constructor
    · intro note member
      rw [List.mem_singleton.1 member]
      exact lists.singles_handed sound m
    · rw [served, Bus.exec, List.filterMap_cons, List.filterMap_nil, lists.place?_handed sound m]
      cases b.readingAt? subject group (.publish m) <;> rfl
  | read other i => exact ⟨fun note member => List.mem_singleton.1 member ▸ unheard _ _ _, rfl⟩
  | drain other i => exact ⟨fun note member => List.mem_singleton.1 member ▸ unheard _ _ _, rfl⟩

/-- **As long as a group keeps its members**, they are served at the places that the counter shows. -/
theorem Lists.served_run (lists : b.Lists roll) (sound : roll.Sound) (commands : List Command)
    (steady : ∀ part, part <+: commands → (part.foldl Roll.after roll).members subject group = ids) :
    (∀ note ∈ (b.run commands).2, note.Singles ids subject) ∧
    served ids subject (b.run commands).2 = (b.readings subject group commands).map (· % ids.length) := by
  induction commands generalizing b roll with
  | nil => exact ⟨nofun, rfl⟩
  | cons c rest ih =>
    obtain rfl : roll.members subject group = ids := steady [] List.nil_prefix
    obtain ⟨singles, places⟩ := lists.served_exec sound subject group c
    obtain ⟨singles', places'⟩ := ih (lists.exec c) (sound.after c) fun part short =>
      steady (c :: part) (List.cons_prefix_cons.2 ⟨rfl, short⟩)
    have log : (b.run (c :: rest)).2 = (b.exec c).2 ++ ((b.exec c).1.run rest).2 := rfl
    rw [log]
    constructor
    · intro note member
      rcases List.mem_append.1 member with now | later
      · exact singles note now
      · exact singles' note later
    · rw [served, List.filterMap_append, readings, List.map_append]
      exact congrArg₂ (· ++ ·) places places'

/-! ### A group that has the counter for itself -/

/-- No group listens but this one. -/
def Roll.Alone (roll : Roll) (subject group : String) : Prop :=
  ∀ l ∈ roll.live, l.group ≠ none → l.subject = subject ∧ l.group = some group

instance (roll : Roll) (subject group : String) : Decidable (roll.Alone subject group) :=
  inferInstanceAs (Decidable (∀ l ∈ roll.live, _))

theorem turns_publish (b : Bus) (m : Message) :
    (b.publish m).turns = b.turns + (groups (b.subscriptions m.subject)).keys.length := by
  rw [publish, subscriptions, Dict.length_keys]
  cases b.subjects.get? m.subject <;> rfl

/-- On the subject of the group no other group is found, and on other subjects none at all. -/
theorem Lists.groups_alone (lists : b.Lists roll) (alone : roll.Alone subject group) (other : String) :
    (groups (b.subscriptions other)).keys = [] ∨
      other = subject ∧ (groups (b.subscriptions other)).keys = [group] := by
  have only (name : String) (listens : name ∈ (groups (b.subscriptions other)).keys) :
      other = subject ∧ name = group := by
    obtain ⟨s, listed, named⟩ := mem_keys_groups.1 listens
    obtain ⟨live, -⟩ := lists.mem_iff.2 ⟨s, listed, rfl⟩
    obtain ⟨here, mine⟩ := alone _ live (named ▸ Option.some_ne_none name)
    exact ⟨here, Option.some.inj (named.symm.trans mine)⟩
  have distinct := (groups (b.subscriptions other)).keys_nodup
  generalize (groups (b.subscriptions other)).keys = names at only distinct ⊢
  match names with
  | [] => exact .inl rfl
  | [name] =>
    obtain ⟨here, rfl⟩ := only name List.mem_cons_self
    exact .inr ⟨here, rfl⟩
  | first :: second :: _ =>
    obtain ⟨-, rfl⟩ := only first List.mem_cons_self
    obtain ⟨-, rfl⟩ := only second (List.mem_cons_of_mem _ List.mem_cons_self)
    exact absurd List.mem_cons_self (List.nodup_cons.1 distinct).1

/-- A command moves the counter on at the turn of the group, if at all. -/
theorem Lists.reading_alone (lists : b.Lists roll) (alone : roll.Alone subject group) (c : Command) :
    ∃ k, (b.readingAt? subject group c).toList = (List.range' b.turns k).map (· % counterRange) ∧
      (b.exec c).1.turns = b.turns + k := by
  cases c with
  | publish m =>
    refine ⟨_, ?_, turns_publish b m⟩
    rcases lists.groups_alone alone m.subject with none | ⟨rfl, one⟩
    · rw [none]
      simp only [readingAt?, reading?]
      split
      · next same =>
        rw [← same, none]
        rfl
      · rfl
    · rw [readingAt?, if_pos rfl, reading?, one]
      simp
  | _ => exact ⟨0, rfl, rfl⟩

/-- A group that has the counter for itself finds it one further on at each turn. -/
theorem Lists.readings_alone (lists : b.Lists roll) (commands : List Command)
    (alone : ∀ part, part <+: commands → (part.foldl Roll.after roll).Alone subject group) :
    ∃ k, b.readings subject group commands = (List.range' b.turns k).map (· % counterRange) ∧
      (b.run commands).1.turns = b.turns + k := by
  induction commands generalizing b roll with
  | nil => exact ⟨0, rfl, rfl⟩
  | cons c rest ih =>
    obtain ⟨k, now, moved⟩ := lists.reading_alone (alone [] List.nil_prefix) c
    obtain ⟨k', later, moved'⟩ := ih (lists.exec c) fun part short =>
      alone (c :: part) (List.cons_prefix_cons.2 ⟨rfl, short⟩)
    refine ⟨k + k', ?_, ?_⟩
    · rw [readings, now, later, moved, ← List.map_append, List.range'_append_1]
    · have last : (b.run (c :: rest)).1.turns = ((b.exec c).1.run rest).1.turns := rfl
      rw [last, moved', moved, Nat.add_assoc]

end

/-- **The members of a group take turns exactly if the counter lets them.** A bus has been used in whatever
way, and is used on in whatever way that leaves the members of a group on a subject as they are. Then each
message on the subject is handed to the member at the place that the counter shows, modulo the number of
members. In every stretch of the traffic all members are handed equally many messages, up to one, exactly if
the places that the counter shows alternate. So they are as long as no other group listens on the bus and the
counter has not begun again. -/
theorem evenly_shared_iff (before during : List Command) (subject group : String)
    (steady : ∀ part, part <+: during →
      (Roll.call (before ++ part)).members subject group = (Roll.call before).members subject group) :
    let b := (silent.run before).1
    let log := (b.run during).2
    let ids := (Roll.call before).members subject group
    let places := (b.readings subject group during).map (· % ids.length)
    served ids subject log = places ∧
    (SharedEvenly ids subject log ↔ Alternates ids.length places) ∧
    ((∀ part, part <+: during → (Roll.call (before ++ part)).Alone subject group) →
      (b.run during).1.turns ≤ counterRange → SharedEvenly ids subject log) := by
  intro b log ids places
  obtain ⟨lists, sound, -⟩ := kept_silent.run before
  have onward (part : List Command) : Roll.call (before ++ part) = part.foldl Roll.after (Roll.call before) :=
    List.foldl_append
  simp only [onward] at steady ⊢
  obtain ⟨singles, shown⟩ := lists.served_run sound during steady
  have even : SharedEvenly ids subject log ↔ Alternates ids.length places := by
    rw [sharedEvenly_iff_alternates singles, shown]
  refine ⟨shown, even, fun alone first => even.2 ?_⟩
  obtain ⟨k, successive, last⟩ := lists.readings_alone during alone
  have unwrapped : (List.range' b.turns k).map (· % counterRange) = List.range' b.turns k := by
    refine (List.map_congr_left fun reading member => ?_).trans (List.map_id _)
    have below : reading < b.turns + k := (List.mem_range'_1.1 member).2
    exact Nat.mod_eq_of_lt (below.trans_le (last.symm.trans_le first))
  rw [show places = _ from congrArg _ successive, unwrapped]
  exact alternates_range' _ _ _

namespace Sample

/-- Two members of a group come to listen. -/
def crew : List Command := [.subscribe "s" (some "g"), .subscribe "s" (some "g")]

/-- And then another group does. -/
def rivals : List Command := crew ++ [.subscribe "s" (some "h")]

/-- Two messages. -/
def news : List Command := List.replicate 2 (.publish ⟨"s", .empty, none⟩)

end Sample

open Sample in
/-- Two members of a group take turns as long as they have the counter for themselves. Beside another group
one of them gets everything. -/
theorem member_starves_beside_rivals :
    (∀ part, part <+: news → (Roll.call (crew ++ part)).members "s" "g" = [0, 1]) ∧
    SharedEvenly [0, 1] "s" ((silent.run crew).1.run news).2 ∧
    (∀ part, part <+: news → (Roll.call (rivals ++ part)).members "s" "g" = [0, 1]) ∧
    served [0, 1] "s" ((silent.run rivals).1.run news).2 = [0, 0] ∧
    ¬ SharedEvenly [0, 1] "s" ((silent.run rivals).1.run news).2 := by
  have steady : ∀ part ∈ news.inits, (Roll.call (crew ++ part)).members "s" "g" = [0, 1] := by decide
  have alone : ∀ part ∈ news.inits, (Roll.call (crew ++ part)).Alone "s" "g" := by decide
  have steady' : ∀ part ∈ news.inits, (Roll.call (rivals ++ part)).members "s" "g" = [0, 1] := by decide
  simp only [List.mem_inits] at steady alone steady'
  obtain ⟨-, -, even⟩ := evenly_shared_iff crew news "s" "g" steady
  obtain ⟨places, even', -⟩ := evenly_shared_iff rivals news "s" "g" steady'
  have shown : ((silent.run rivals).1.readings "s" "g" news).map (· % 2) = [0, 0] := by decide
  refine ⟨steady, even alone (by decide), steady', places.trans shown, fun shares => ?_⟩
  have alternates : Alternates 2 [0, 0] := shown ▸ even'.1 shares
  exact absurd (alternates [0, 0] List.infix_rfl (by decide)) (by decide)

end Muster.Bus
