import Muster.Dict
import Muster.Json.Document
import Muster.Text.Blank
import Muster.Text.Hex

/-!
# Values of documents

A reader takes a part of a document and gives a value or the first thing that is wrong with it:
a fault of the document, or a mismatch between what stands there and what is needed. This module
holds the readers of plain values, lists and dictionaries, and the wording of mismatches.
-/

set_option autoImplicit false

namespace Muster.Json

/-- What stands in the place of a needed value. -/
inductive Found where
  | null
  | bool (value : Bool)
  | number (n : Number)
  | text (s : String)
  | list
  | object
  deriving DecidableEq, Repr

/-- The wording of a found value. -/
def Found.phrase : Found → String
  | .null => "null"
  | .bool true => "boolean `true`"
  | .bool false => "boolean `false`"
  | .number (.nat n) => "integer `" ++ Text.decimal n.toNat ++ "`"
  | .number (.negative n) => "integer `-" ++ Text.decimal n.toNat ++ "`"
  | .number (.real digits) => "floating point `" ++ digits ++ "`"
  | .text s => "string " ++ Text.quoted s
  | .list => "sequence"
  | .object => "map"

/-- Why a part of a document is not the needed value. -/
inductive Mismatch where
  /-- The document itself is at fault. -/
  | fault (f : Fault)
  /-- A value of another kind. -/
  | kind (found : Found) (expected : String)
  /-- A value of the right kind that is not allowed. -/
  | value (found : Found) (expected : String)
  /-- A list with too few items. -/
  | length (n : Nat) (expected : String)
  /-- A member that has to be there is not. -/
  | missing (member : String)
  /-- A member that may be there once is there twice. -/
  | duplicate (member : String)
  /-- A name outside a fixed set. -/
  | unknown (name : String) (expected : List String)
  /-- Another breach, in words. -/
  | other (message : String)
  deriving DecidableEq, Repr

namespace Mismatch

/-- The wording of a choice between names. -/
def choice : List String → String
  | [] => "there are no variants"
  | [a] => "expected `" ++ a ++ "`"
  | [a, b] => "expected `" ++ a ++ "` or `" ++ b ++ "`"
  | names => "expected one of " ++ Text.join ", " (names.map fun name => "`" ++ name ++ "`")

/-- The wording of a mismatch. -/
def message : Mismatch → String
  | .fault .cutOff => "EOF while parsing"
  | .fault .malformed => "malformed document"
  | .kind found expected => "invalid type: " ++ found.phrase ++ ", expected " ++ expected
  | .value found expected => "invalid value: " ++ found.phrase ++ ", expected " ++ expected
  | .length n expected => "invalid length " ++ Text.decimal n ++ ", expected " ++ expected
  | .missing member => "missing field `" ++ member ++ "`"
  | .duplicate member => "duplicate field `" ++ member ++ "`"
  | .unknown name expected => "unknown variant `" ++ name ++ "`, " ++ choice expected
  | .other text => text

end Mismatch

/-- A value read from a part of a document. -/
abbrev Reading (α : Type) := Except Mismatch α

/-- The value of a token. -/
def Lexeme.read {α : Type} (lexeme : Lexeme α) : Reading α :=
  match lexeme.value with
  | .ok a => .ok a
  | .error f => .error (.fault f)

/-- The outcome of reading a part that is not of the needed kind. -/
def Node.refuse {α : Type} (node : Node) (expected : String) : Reading α :=
  match node with
  | .null => .error (.kind .null expected)
  | .bool b => .error (.kind (.bool b) expected)
  | .num n => n.read.bind fun n => .error (.kind (.number n) expected)
  | .str s => s.read.bind fun s => .error (.kind (.text s) expected)
  | .arr _ _ => .error (.kind .list expected)
  | .obj _ _ => .error (.kind .object expected)
  | .fault f => .error (.fault f)

/-- Reads a text. -/
def readString : Node → Reading String
  | .str s => s.read
  | node => node.refuse "a string"

/-- Reads a Boolean. -/
def readBool : Node → Reading Bool
  | .bool b => .ok b
  | node => node.refuse "a boolean"

/-- Reads a natural number of at most `bound`, whose kind is called `expected`. -/
def readNat (bound : Nat) (expected : String) : Node → Reading UInt64
  | .num n => n.read.bind fun
    | .nat value =>
      if value.toNat ≤ bound then .ok value
      else .error (.value (.number (.nat value)) expected)
    | .negative size => .error (.value (.number (.negative size)) expected)
    | .real digits => .error (.kind (.number (.real digits)) expected)
  | node => node.refuse expected

/-- Reads nothing at all, written as null. -/
def readUnit : Node → Reading Unit
  | .null => .ok ()
  | node => node.refuse "unit"

/-- Reads a value that may be absent, written as null. -/
def readOption {α : Type} (read : Node → Reading α) : Node → Reading (Option α)
  | .null => .ok none
  | .fault f => .error (.fault f)
  | node => (read node).map some

/-- Checks that a list or an object is closed. -/
def readEnding (ending : Option Fault) : Reading Unit :=
  match ending with
  | none => .ok ()
  | some f => .error (.fault f)

/-- Reads the items of a list in their order. -/
def readEach {α : Type} (read : Node → Reading α) : List Node → Reading (List α)
  | [] => .ok []
  | node :: rest => do
    let a ← read node
    let as ← readEach read rest
    return a :: as

/-- Reads a list. -/
def readList {α : Type} (read : Node → Reading α) : Node → Reading (List α)
  | .arr items ending => do
    let as ← readEach read items
    readEnding ending
    return as
  | node => node.refuse "a sequence"

/-- Reads the members of an object into a dictionary; a later member replaces an earlier one. -/
def readEntries {α : Type} (read : Node → Reading α) (d : Dict α) :
    List (Lexeme String × Node) → Reading (Dict α)
  | [] => .ok d
  | (key, node) :: rest => do
    let key ← key.read
    let value ← read node
    readEntries read (d.insert key value) rest

/-- Reads a dictionary. -/
def readDict {α : Type} (read : Node → Reading α) : Node → Reading (Dict α)
  | .obj members ending => do
    let d ← readEntries read Dict.empty members
    readEnding ending
    return d
  | node => node.refuse "a map"

/-- Reads a set of names, written as a list. -/
def readNames (node : Node) : Reading NameSet :=
  (readList readString node).map NameSet.ofNames

/-- The value that a name stands for in a table. -/
def named? {α : Type} (table : List (String × α)) (name : String) : Option α :=
  (table.find? fun row => row.1 = name).map Prod.snd

/-- Reads a name of a table. -/
def readName {α : Type} (table : List (String × α)) (name : String) : Reading α :=
  match named? table name with
  | some a => .ok a
  | none => .error (.unknown name (table.map Prod.fst))

/-- Reads a value with a fixed set of names, written as the name or as an object with the name as
its only key and null as the value. -/
def readChoice {α : Type} (table : List (String × α)) : Node → Reading α
  | .str s => s.read.bind (readName table)
  | .obj [] _ => .error (.fault .malformed)
  | .obj ((key, node) :: more) ending =>
    match key.skip, node with
    | some _, .fault f =>
      match key.value with
      | .error first => .error (.fault first)
      | .ok _ => .error (.fault f)
    | some _, found => found.refuse "variant identifier"
    | none, _ => do
      let name ← key.read
      let a ← readName table name
      readUnit node
      if more.isEmpty then readEnding ending else .error (.fault .malformed)
      return a
  | .fault f => .error (.fault f)
  | _ => .error (.fault .malformed)

/-- The readable form of hexadecimal bytes. -/
def readBytes (node : Node) : Reading ByteArray :=
  (readString node).bind fun s =>
    match Hex.decode s with
    | .ok bytes => .ok bytes
    | .error e => .error (.other e.message)

/-- Reads a whole document. -/
def Document.decode {α : Type} (read : Node → Reading α) (d : Document) : Reading α := do
  let a ← read d.root
  if d.trailing then .error (.fault .malformed) else return a

end Muster.Json
