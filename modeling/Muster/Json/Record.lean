import Muster.Json.Decode

/-!
# Records as JSON objects

A `Codec α` writes values of `α` and reads them back. A `Record ρ α` describes members of an object:
how they are written from a `ρ`, and how an `α` is gathered from the members of an object read in the
order in which they stand, whatever that order is. Records are put together member by member with
`<$>` and `<*>`, so that the table of a record's members is its only definition; writing and reading
cannot drift apart.

Members that nobody knows are passed over. A known member that occurs twice is an error where it
stands for the second time. A missing member is noticed at the end of the object, in the order of the
table, unless it has a default. A record may also be written as a list of its members' values.
-/

set_option autoImplicit false

namespace Muster.Json

/-- A way to write values of `α` and to read them. -/
structure Codec (α : Type) where
  write : α → Json
  read : Node → Reading α

/-- Members of an object, written from a `ρ` and read into an `α`. -/
structure Record (ρ α : Type) where
  /-- What is known after a part of the members has been read. -/
  Slots : Type
  /-- Nothing is known yet. -/
  blank : Slots
  /-- The names of the members, in the order of writing. -/
  names : List String
  /-- Takes in a member, if its name is in the table. -/
  fill : String → Node → Slots → Option (Reading Slots)
  /-- The result at the end of the object. -/
  finish : Slots → Reading α
  /-- The members as they are written. -/
  members : ρ → List (String × Json)

namespace Record

variable {ρ α β : Type}

/-- Takes a member into its slot. -/
def fillSlot (codec : Codec β) (name key : String) (node : Node) (slot : Option β) :
    Option (Reading (Option β)) :=
  if key = name then
    match slot with
    | some _ => some (.error (.duplicate name))
    | none => some ((codec.read node).map some)
  else none

/-- One member that has to be there. -/
def member (name : String) (codec : Codec β) (get : ρ → β) : Record ρ β where
  Slots := Option β
  blank := none
  names := [name]
  fill := fillSlot codec name
  finish
    | some b => .ok b
    | none => .error (.missing name)
  members r := [(name, codec.write (get r))]

/-- One member with a default. -/
def memberOr (name : String) (default : β) (codec : Codec β) (get : ρ → β) : Record ρ β where
  Slots := Option β
  blank := none
  names := [name]
  fill := fillSlot codec name
  finish slot := .ok (slot.getD default)
  members r := [(name, codec.write (get r))]

/-- The result replaced by its image. -/
def map (f : α → β) (r : Record ρ α) : Record ρ β where
  Slots := r.Slots
  blank := r.blank
  names := r.names
  fill := r.fill
  finish s := (r.finish s).map f
  members := r.members

/-- The members of two records, those of the first in front. -/
def both (r : Record ρ (α → β)) (s : Record ρ α) : Record ρ β where
  Slots := r.Slots × s.Slots
  blank := (r.blank, s.blank)
  names := r.names ++ s.names
  fill key node slots :=
    match r.fill key node slots.1 with
    | some outcome => some (outcome.map fun left => (left, slots.2))
    | none => (s.fill key node slots.2).map fun outcome => outcome.map fun right => (slots.1, right)
  finish slots := do
    let f ← r.finish slots.1
    let a ← s.finish slots.2
    return f a
  members x := r.members x ++ s.members x

instance : Functor (Record ρ) where
  map := map

instance : Seq (Record ρ) where
  seq r s := both r (s ())

/-- Takes in the members of an object in their order; what is not in the table is passed over. -/
def gather (r : Record ρ α) (slots : r.Slots) : List (Lexeme String × Node) → Reading r.Slots
  | [] => .ok slots
  | (key, node) :: rest => do
    let name ← key.read
    match r.fill name node slots with
    | some outcome =>
      let slots ← outcome
      gather r slots rest
    | none =>
      match node.skip with
      | some f => .error (.fault f)
      | none => gather r slots rest

/-- Takes in the items of a list as the members in the order of the table. -/
def gatherItems (r : Record ρ α) (slots : r.Slots) :
    List String → List Node → Reading r.Slots
  | name :: names, node :: rest =>
    match r.fill name node slots with
    | some outcome => do
      let slots ← outcome
      gatherItems r slots names rest
    | none => gatherItems r slots names rest
  | _, _ => .ok slots

/-- The wording of a record that is written as a list. -/
def listPhrase (kind : String) (n : Nat) : String :=
  "struct " ++ kind ++ " with " ++ Text.decimal n ++ (if n = 1 then " element" else " elements")

/-- Reads a record written as a list. -/
def readItems (kind : String) (r : Record ρ α) (items : List Node) (ending : Option Fault) :
    Reading α := do
  let slots ← gatherItems r r.blank r.names items
  if items.length < r.names.length then
    readEnding ending
  let a ← match r.finish slots with
    | .error (.missing name) =>
      .error (.length (r.names.idxOf name) (listPhrase kind r.names.length))
    | outcome => outcome
  if r.names.length < items.length then .error (.fault .malformed)
  readEnding ending
  return a

/-- Reads a record of the kind called `kind`. -/
def read (kind : String) (r : Record ρ α) : Node → Reading α
  | .obj members ending => do
    let slots ← gather r r.blank members
    readEnding ending
    r.finish slots
  | .arr items ending => readItems kind r items ending
  | node => node.refuse ("struct " ++ kind)

/-- The codec of a record of the kind called `kind`. -/
def codec (kind : String) (r : Record ρ ρ) : Codec ρ where
  write x := .obj (r.members x)
  read := r.read kind

end Record

namespace Codec

variable {α β : Type}

/-- Texts. -/
def text : Codec String := ⟨.str, readString⟩

/-- Booleans. -/
def bool : Codec Bool := ⟨.bool, readBool⟩

/-- Natural numbers below `2 ^ 16`. -/
def nat16 : Codec UInt16 where
  write n := .nat n.toUInt64
  read node := (readNat (UInt16.size - 1) "u16" node).map UInt64.toUInt16

/-- Natural numbers below `2 ^ 32`. -/
def nat32 : Codec UInt32 where
  write n := .nat n.toUInt64
  read node := (readNat (UInt32.size - 1) "u32" node).map UInt64.toUInt32

/-- Natural numbers below `2 ^ 64`. -/
def nat64 : Codec UInt64 := ⟨.nat, readNat (UInt64.size - 1) "u64"⟩

/-- Natural numbers below `2 ^ 64` that count or number things. -/
def size : Codec UInt64 := ⟨.nat, readNat (UInt64.size - 1) "usize"⟩

/-- Bytes in hexadecimal. -/
def hex : Codec ByteArray := ⟨fun bytes => .str (Hex.encode bytes), readBytes⟩

/-- A value that may be absent. -/
def option (c : Codec α) : Codec (Option α) where
  write
    | none => .null
    | some a => c.write a
  read := readOption c.read

/-- Lists. -/
def list (c : Codec α) : Codec (List α) where
  write as := .arr (as.map c.write)
  read := readList c.read

/-- Dictionaries. -/
def dict (c : Codec α) : Codec (Dict α) where
  write d := .obj (d.toList.map fun entry => (entry.1, c.write entry.2))
  read := readDict c.read

/-- Sets of names. -/
def names : Codec NameSet where
  write s := .arr (s.keys.map .str)
  read := readNames

/-- Values with a fixed set of names. -/
def choice (table : List (String × α)) (name : α → String) : Codec α where
  write a := .str (name a)
  read := readChoice table

/-- The written form as bytes. -/
def encode (c : Codec α) (a : α) : ByteArray := (c.write a).compact.toUTF8

/-- Reads a value from bytes. -/
def decode (c : Codec α) (bytes : ByteArray) : Reading α := (Document.read bytes).decode c.read

end Codec

end Muster.Json
