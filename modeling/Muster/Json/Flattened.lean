import Muster.Json.Record

/-!
# Records that share a common part

Some records begin with members that many kinds of records have in common. On the wire the common
members stand beside the record's own ones. Reading takes the own members as they are met and sets
the others aside; once the own members are complete, the common part is read from those set aside.
What is set aside has to be sound, and may be nested `nestingLimit` levels deep.
-/

set_option autoImplicit false

namespace Muster.Json

/-- The levels of nesting that a document may have where its parts are kept. -/
def nestingLimit : Nat := 127

mutual

/-- Checks that a part is sound everywhere and has at most `depth` levels. -/
def Node.check (depth : Nat) : Node → Except Fault Unit
  | .null => .ok ()
  | .bool _ => .ok ()
  | .num n => n.value.map fun _ => ()
  | .str s => s.value.map fun _ => ()
  | .arr items ending =>
    match depth with
    | 0 => .error .malformed
    | depth + 1 =>
      match Node.checkItems depth items with
      | .error f => .error f
      | .ok () =>
        match ending with
        | some f => .error f
        | none => .ok ()
  | .obj members ending =>
    match depth with
    | 0 => .error .malformed
    | depth + 1 =>
      match Node.checkMembers depth members with
      | .error f => .error f
      | .ok () =>
        match ending with
        | some f => .error f
        | none => .ok ()
  | .fault f => .error f

/-- Checks the items of a list. -/
def Node.checkItems (depth : Nat) : List Node → Except Fault Unit
  | [] => .ok ()
  | node :: rest =>
    match Node.check depth node with
    | .error f => .error f
    | .ok () => Node.checkItems depth rest

/-- Checks the members of an object. -/
def Node.checkMembers (depth : Nat) : List (Lexeme String × Node) → Except Fault Unit
  | [] => .ok ()
  | (key, node) :: rest =>
    match key.value with
    | .error f => .error f
    | .ok _ =>
      match Node.check depth node with
      | .error f => .error f
      | .ok () => Node.checkMembers depth rest

end

/-- Reads a value with a fixed set of names from a part that was set aside. -/
def readKeptChoice {α : Type} (table : List (String × α)) : Node → Reading α
  | .str s => s.read.bind (readName table)
  | .obj [(key, node)] _ => do
    let name ← key.read
    let a ← readName table name
    match node with
    | .obj [] _ => return a
    | node =>
      readUnit node
      return a
  | .obj _ _ => .error (.value .object "map with a single key")
  | node => node.refuse "string or map"

namespace Record

variable {ρ α μ : Type}

/-- Takes in the members of an object in their order and sets aside those not in the table. -/
def gatherKeeping (r : Record ρ α) (slots : r.Slots) (kept : List (Lexeme String × Node)) :
    List (Lexeme String × Node) → Reading (r.Slots × List (Lexeme String × Node))
  | [] => .ok (slots, kept.reverse)
  | (key, node) :: rest => do
    let name ← key.read
    match r.fill name node slots with
    | some outcome =>
      let slots ← outcome
      gatherKeeping r slots kept rest
    | none =>
      match node.check (nestingLimit - 1) with
      | .error f => .error (.fault f)
      | .ok () => gatherKeeping r slots ((key, node) :: kept) rest

/-- The codec of a record of the kind called `kind` whose common part is written by `common` and
read from the members set aside by `readCommon`. -/
def flattened (kind : String) (common : ρ → List (String × Json))
    (readCommon : List (Lexeme String × Node) → Reading μ) (own : Record ρ (μ → ρ)) : Codec ρ where
  write x := .obj (common x ++ own.members x)
  read
    | .obj members ending => do
      let (slots, kept) ← gatherKeeping own own.blank [] members
      readEnding ending
      let build ← own.finish slots
      let shared ← readCommon kept
      return build shared
    | node => node.refuse ("struct " ++ kind)

end Record

end Muster.Json
