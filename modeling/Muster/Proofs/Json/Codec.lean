import Muster.Json.Flattened
import Muster.Proofs.Hex
import Muster.Proofs.Json.Written

/-!
# Codecs that read back what they write

A codec is `Lawful` when reading the tree of what it writes gives the value back, and then the bytes
it writes decode to the value (`Lawful.decode_encode`). The codecs of plain values, lists and
dictionaries are lawful as soon as those of their parts are. A record is built member by member, and
so is the proof that it reads back: `Record.Faithful` follows the same operations as the record, so
the proof for a record is its table once more, with the lawfulness of each member's codec in the place
of the codec.
-/

set_option autoImplicit false

namespace Muster.Json

@[simp] theorem Lexeme.read_sound {α : Type} (a : α) : (Lexeme.sound a).read = .ok a := rfl

namespace Codec

variable {α β : Type} {c : Codec α}

/-- Reading undoes writing. -/
def Lawful (c : Codec α) : Prop := ∀ a, c.read (Node.ofJson (c.write a)) = .ok a

/-- **The bytes that a lawful codec writes decode to what was written.** -/
theorem Lawful.decode_encode (lawful : c.Lawful) (a : α) : c.decode (c.encode a) = .ok a := by
  rw [decode, encode, Document.read_compact, Document.decode, lawful a]
  rfl

theorem Lawful.map (lawful : c.Lawful) (f : α → β) (a : α) :
    (c.read (Node.ofJson (c.write a))).map f = .ok (f a) := by
  rw [lawful a]
  rfl

/-! ### Plain values -/

theorem lawful_text : text.Lawful := fun _ => rfl

theorem lawful_bool : bool.Lawful := fun _ => rfl

theorem readNat_ofJson {bound : Nat} {expected : String} {n : UInt64} (fits : n.toNat ≤ bound) :
    readNat bound expected (Node.ofJson (.nat n)) = .ok n := by
  rw [Node.ofJson, readNat, Lexeme.read_sound]
  exact if_pos fits

theorem lawful_nat16 : nat16.Lawful := by
  intro n
  have fits : n.toUInt64.toNat ≤ UInt16.size - 1 := by
    rw [UInt16.toNat_toUInt64]
    exact Nat.le_pred_of_lt n.toNat_lt
  show (readNat _ _ (Node.ofJson (.nat n.toUInt64))).map UInt64.toUInt16 = .ok n
  rw [readNat_ofJson fits]
  simp [Except.map]

theorem lawful_nat32 : nat32.Lawful := by
  intro n
  have fits : n.toUInt64.toNat ≤ UInt32.size - 1 := by
    rw [UInt32.toNat_toUInt64]
    exact Nat.le_pred_of_lt n.toNat_lt
  show (readNat _ _ (Node.ofJson (.nat n.toUInt64))).map UInt64.toUInt32 = .ok n
  rw [readNat_ofJson fits]
  simp [Except.map]

theorem lawful_nat64 : nat64.Lawful := fun n => readNat_ofJson (Nat.le_pred_of_lt n.toNat_lt)

theorem lawful_size : size.Lawful := fun n => readNat_ofJson (Nat.le_pred_of_lt n.toNat_lt)

/-- Any bytes, through their hexadecimal text. -/
theorem lawful_hex : hex.Lawful := by
  intro bytes
  show readBytes (.str (.sound (Hex.encode bytes))) = .ok bytes
  simp [readBytes, readString, Except.bind, Hex.decode_encode]

theorem lawful_choice {table : List (String × α)} {name : α → String}
    (named : ∀ a, named? table (name a) = some a) : (choice table name).Lawful := by
  intro a
  simp [choice, Node.ofJson, readChoice, Except.bind, readName, named a]

theorem readOption_ofJson {read : Node → Reading α} {j : Json} (present : j ≠ .null) :
    readOption read (Node.ofJson j) = (read (Node.ofJson j)).map some := by
  cases j with
  | null => exact absurd rfl present
  | bool | nat | str | arr | obj => rfl

/-- A value that may be absent, if null does not stand for a value. -/
theorem lawful_option (lawful : c.Lawful) (present : ∀ a, c.write a ≠ .null) : c.option.Lawful := by
  intro a
  cases a with
  | none => rfl
  | some a =>
    show readOption c.read (Node.ofJson (c.write a)) = .ok (some a)
    rw [readOption_ofJson (present a), lawful a]
    rfl

/-! ### Lists and dictionaries -/

theorem readEach_ofItems (lawful : c.Lawful) (as : List α) :
    readEach c.read (Node.ofItems (as.map c.write)) = .ok as := by
  induction as with
  | nil => rfl
  | cons a as ih =>
    rw [List.map_cons, Node.ofItems, readEach, lawful a, ih]
    rfl

theorem lawful_list (lawful : c.Lawful) : c.list.Lawful := by
  intro as
  show readList c.read (.arr (Node.ofItems (as.map c.write)) none) = .ok as
  rw [readList, readEach_ofItems lawful]
  rfl

end Codec

end Muster.Json

namespace Muster.Dict

variable {α : Type}

/-- A key above all others is put last. -/
theorem insertInto_of_forall_lt {key : String} {value : α} {entries : List (String × α)}
    (above : ∀ k ∈ entries.map Prod.fst, k < key) :
    insertInto key value entries = entries ++ [(key, value)] := by
  induction entries with
  | nil => rfl
  | cons entry rest ih =>
    obtain ⟨k, v⟩ := entry
    have less : k < key := above k List.mem_cons_self
    have differ : k ≠ key := fun same => String.lt_irrefl key (same ▸ less)
    have order : ¬ key < k := fun more => String.lt_irrefl key (String.lt_trans more less)
    rw [insertInto, if_neg differ, if_neg order, List.cons_append,
      ih fun other here => above other (List.mem_cons_of_mem _ here)]

end Muster.Dict

namespace Muster.Json

namespace Codec

variable {α : Type} {c : Codec α}

/-- Entries in ascending order of their keys are put one behind the other. -/
theorem readEntries_ofMembers (lawful : c.Lawful) (entries : List (String × α)) (d e : Dict α)
    (whole : e.toList = d.toList ++ entries) :
    readEntries c.read d (Node.ofMembers (entries.map fun entry => (entry.1, c.write entry.2))) =
      .ok e := by
  induction entries generalizing d with
  | nil =>
    rw [List.append_nil] at whole
    exact congrArg Except.ok (Dict.ext whole.symm)
  | cons entry entries ih =>
    obtain ⟨key, value⟩ := entry
    have above : ∀ k ∈ d.toList.map Prod.fst, k < key := by
      have order := e.ascending
      rw [whole, List.map_append, List.pairwise_append] at order
      exact fun k here => order.2.2 k here key List.mem_cons_self
    have next : (d.insert key value).toList = d.toList ++ [(key, value)] :=
      Dict.insertInto_of_forall_lt above
    rw [List.map_cons, Node.ofMembers, readEntries, Lexeme.read_sound, lawful value]
    exact ih (d.insert key value) (by rw [whole, next, List.append_assoc]; rfl)

theorem lawful_dict (lawful : c.Lawful) : c.dict.Lawful := by
  intro d
  show readDict c.read (.obj (Node.ofMembers _) none) = .ok d
  rw [readDict, readEntries_ofMembers lawful d.toList Dict.empty d rfl]
  rfl

end Codec

/-! ### Records -/

namespace Record

variable {ρ α β μ : Type}

/-- The members, taken in one after the other, lead from one state of the slots to another. -/
inductive Fills (r : Record ρ α) : r.Slots → List (String × Json) → r.Slots → Prop
  | nil (slots : r.Slots) : Fills r slots [] slots
  | cons {slots next last : r.Slots} {key : String} {value : Json} {rest : List (String × Json)}
      (taken : r.fill key (Node.ofJson value) slots = some (.ok next)) (later : Fills r next rest last) :
      Fills r slots ((key, value) :: rest) last

/-- The members that are written from `x` read as `get x`, and no other member is taken in. -/
structure Faithful (r : Record ρ α) (get : ρ → α) : Prop where
  keys : ∀ x, (r.members x).map Prod.fst = r.names
  ignores : ∀ key, key ∉ r.names → ∀ node slots, r.fill key node slots = none
  reads : r.names.Nodup → ∀ x, ∃ slots,
    r.Fills r.blank (r.members x) slots ∧ r.finish slots = .ok (get x)

theorem fillSlot_of_ne {c : Codec β} {name key : String} (differ : key ≠ name) (node : Node)
    (slot : Option β) : fillSlot c name key node slot = none := if_neg differ

theorem fillSlot_blank {c : Codec β} (lawful : c.Lawful) (name : String) (b : β) :
    fillSlot c name name (Node.ofJson (c.write b)) none = some (.ok (some b)) := by
  simp [fillSlot, lawful b, Except.map]

theorem Faithful.member {name : String} {c : Codec β} (get : ρ → β) (lawful : c.Lawful) :
    (Record.member name c get).Faithful get where
  keys _ := rfl
  ignores _ outside node slot :=
    fillSlot_of_ne (fun same => outside (List.mem_singleton.2 same)) node slot
  reads _ x := ⟨some (get x), .cons (fillSlot_blank lawful name (get x)) (.nil _), rfl⟩

theorem Faithful.memberOr {name : String} {default : β} {c : Codec β} (get : ρ → β)
    (lawful : c.Lawful) : (Record.memberOr name default c get).Faithful get where
  keys _ := rfl
  ignores _ outside node slot :=
    fillSlot_of_ne (fun same => outside (List.mem_singleton.2 same)) node slot
  reads _ x := ⟨some (get x), .cons (fillSlot_blank lawful name (get x)) (.nil _), rfl⟩

theorem Fills.map {r : Record ρ α} {members : List (String × Json)} {first last : r.Slots}
    (fills : r.Fills first members last) (f : α → β) : (Record.map f r).Fills first members last := by
  induction fills with
  | nil slots => exact Fills.nil (r := Record.map f r) slots
  | cons taken _ ih => exact Fills.cons (r := Record.map f r) taken ih

theorem Faithful.map {r : Record ρ α} {get : ρ → α} (h : r.Faithful get) (f : α → β) :
    (f <$> r).Faithful fun x => f (get x) where
  keys := h.keys
  ignores := h.ignores
  reads distinct x := by
    obtain ⟨slots, fills, finish⟩ := h.reads distinct x
    refine ⟨slots, fills.map f, ?_⟩
    show (r.finish slots).map f = _
    rw [finish]
    rfl

theorem Fills.append {r : Record ρ α} {first next last : r.Slots} {front back : List (String × Json)}
    (fills : r.Fills first front next) (more : r.Fills next back last) :
    r.Fills first (front ++ back) last := by
  induction fills with
  | nil _ => exact more
  | cons taken _ ih => exact .cons taken (ih more)

theorem Fills.left {r : Record ρ (α → β)} {members : List (String × Json)} {first last : r.Slots}
    (fills : r.Fills first members last) (s : Record ρ α) (right : s.Slots) :
    (both r s).Fills (first, right) members (last, right) := by
  induction fills with
  | nil _ => exact .nil _
  | cons taken _ ih => exact .cons (by simp [both, taken, Except.map]) ih

theorem Fills.right {r : Record ρ (α → β)} {s : Record ρ α} {members : List (String × Json)}
    {first last : s.Slots} (fills : s.Fills first members last) (left : r.Slots)
    (passed : ∀ key ∈ members.map Prod.fst, ∀ node slots, r.fill key node slots = none) :
    (both r s).Fills (left, first) members (left, last) := by
  induction fills with
  | nil _ => exact .nil _
  | @cons slots next _ key value rest taken _ ih =>
    have own := passed key List.mem_cons_self
    have step : (both r s).fill key (Node.ofJson value) (left, slots) = some (.ok (left, next)) := by
      simp [both, own, taken, Except.map]
    exact .cons step (ih fun other here => passed other (List.mem_cons_of_mem _ here))

theorem Faithful.seq {r : Record ρ (α → β)} {s : Record ρ α} {f : ρ → α → β} {get : ρ → α}
    (left : r.Faithful f) (right : s.Faithful get) : (r <*> s).Faithful fun x => f x (get x) where
  keys x := by
    show (r.members x ++ s.members x).map Prod.fst = r.names ++ s.names
    rw [List.map_append, left.keys, right.keys]
  ignores key outside node slots := by
    have apart := not_or.1 fun here => outside (List.mem_append.2 here)
    show (both r s).fill key node slots = none
    simp [both, left.ignores key apart.1, right.ignores key apart.2]
  reads distinct x := by
    obtain ⟨first, second, apart⟩ := List.nodup_append.1 distinct
    obtain ⟨slotsL, fillsL, finishL⟩ := left.reads first x
    obtain ⟨slotsR, fillsR, finishR⟩ := right.reads second x
    refine ⟨(slotsL, slotsR), (fillsL.left s s.blank).append (fillsR.right slotsL ?_), ?_⟩
    · -- The members on the right are none of those on the left, which would be asked first.
      intro key here
      rw [right.keys] at here
      exact left.ignores key fun there => apart key there key here rfl
    · show (both r s).finish (slotsL, slotsR) = _
      simp only [both, finishL, finishR]
      rfl

theorem Fills.gather {r : Record ρ α} {members : List (String × Json)} {first last : r.Slots}
    (fills : r.Fills first members last) : r.gather first (Node.ofMembers members) = .ok last := by
  induction fills with
  | nil _ => rfl
  | cons taken _ ih =>
    rw [Node.ofMembers, Record.gather, Lexeme.read_sound]
    simpa only [bind, Except.bind, taken] using ih

/-- **A record with distinct member names reads back.** -/
theorem Faithful.lawful {r : Record ρ ρ} (h : r.Faithful id) (distinct : r.names.Nodup)
    (kind : String) : (r.codec kind).Lawful := by
  intro x
  obtain ⟨slots, fills, finish⟩ := h.reads distinct x
  show r.read kind (.obj (Node.ofMembers (r.members x)) none) = .ok x
  rw [Record.read, fills.gather]
  exact finish

/-! ### Records with a common part -/

theorem Fills.gatherKeeping {r : Record ρ α} {members : List (String × Json)} {first last : r.Slots}
    (fills : r.Fills first members last) (kept : List (Lexeme String × Node)) :
    r.gatherKeeping first kept (Node.ofMembers members) = .ok (last, kept.reverse) := by
  induction fills with
  | nil _ => rfl
  | cons taken _ ih =>
    rw [Node.ofMembers, Record.gatherKeeping, Lexeme.read_sound]
    simpa only [bind, Except.bind, taken] using ih

/-- Members that a record does not know are set aside, if they are sound and not nested too deep. -/
theorem Faithful.gatherKeeping_append {r : Record ρ α} {get : ρ → α} (h : r.Faithful get)
    {common : List (String × Json)} (apart : ∀ member ∈ common, member.1 ∉ r.names)
    (shallow : ∀ member ∈ common, (Node.ofJson member.2).check (nestingLimit - 1) = .ok ())
    (own : List (String × Json)) (slots : r.Slots) (kept : List (Lexeme String × Node)) :
    r.gatherKeeping slots kept (Node.ofMembers (common ++ own)) =
      r.gatherKeeping slots ((Node.ofMembers common).reverse ++ kept) (Node.ofMembers own) := by
  induction common generalizing kept with
  | nil => rfl
  | cons member common ih =>
    obtain ⟨key, value⟩ := member
    have unknown := h.ignores key (apart _ List.mem_cons_self) (Node.ofJson value) slots
    have sound := shallow _ List.mem_cons_self
    rw [List.cons_append, Node.ofMembers, Record.gatherKeeping, Lexeme.read_sound]
    simp only [bind, Except.bind, unknown, sound]
    rw [ih (fun other here => apart other (List.mem_cons_of_mem _ here))
      (fun other here => shallow other (List.mem_cons_of_mem _ here))]
    simp [Node.ofMembers]

/-- **A record with a common part reads back**, if the common part does when it is set aside. -/
theorem Faithful.lawful_flattened {own : Record ρ (μ → ρ)} {get : ρ → μ → ρ} (h : own.Faithful get)
    {common : ρ → List (String × Json)} {readCommon : List (Lexeme String × Node) → Reading μ}
    {shared : ρ → μ} (distinct : own.names.Nodup)
    (apart : ∀ x, ∀ member ∈ common x, member.1 ∉ own.names)
    (shallow : ∀ x, ∀ member ∈ common x,
      (Node.ofJson member.2).check (nestingLimit - 1) = .ok ())
    (restored : ∀ x, readCommon (Node.ofMembers (common x)) = .ok (shared x))
    (rebuilt : ∀ x, get x (shared x) = x) (kind : String) :
    (own.flattened kind common readCommon).Lawful := by
  intro x
  obtain ⟨slots, fills, finish⟩ := h.reads distinct x
  have gathered : own.gatherKeeping own.blank [] (Node.ofMembers (common x ++ own.members x)) =
      .ok (slots, Node.ofMembers (common x)) := by
    rw [h.gatherKeeping_append (apart x) (shallow x), fills.gatherKeeping]
    simp
  simp [flattened, Node.ofJson, gathered, readEnding, bind, Except.bind, finish, restored x,
    rebuilt x, pure, Except.pure]

end Record

end Muster.Json
