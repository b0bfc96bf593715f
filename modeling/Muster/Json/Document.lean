import Muster.Json.Basic
import Muster.Json.Number

/-!
# Reading JSON documents

`Document.read` turns any sequence of bytes into a tree and never fails: a fault of the document is a
leaf at the place where it stands, and nothing after it is read. Whoever interprets the tree from
left to right therefore meets the first of all faults, its own and those of the document, in the
order in which they stand there.

Some tokens are checked more loosely where their value is not wanted. A `Lexeme` keeps both
verdicts: the value or the fault for those who need it, and whether passing over it is possible.
-/

set_option autoImplicit false

namespace Muster.Json

open Text (Symbol)

/-- A token: its value, and the fault met by passing over it without needing the value. -/
structure Lexeme (α : Type) where
  value : Except Fault α
  skip : Option Fault
  deriving Repr

/-- A part of a document. -/
inductive Node where
  | null
  | bool (value : Bool)
  | num (number : Lexeme Number)
  | str (text : Lexeme String)
  /-- A list; `ending` is the fault met instead of its closing bracket. -/
  | arr (items : List Node) (ending : Option Fault)
  /-- An object; a key that is no text has a faulty lexeme and the part found in its place. -/
  | obj (members : List (Lexeme String × Node)) (ending : Option Fault)
  /-- Nothing of the kind that is needed here. -/
  | fault (f : Fault)
  deriving Repr, Inhabited

/-- What remains after the blanks between tokens. -/
def skipBlanks : List Symbol → List Symbol
  | some ' ' :: rest => skipBlanks rest
  | some '\n' :: rest => skipBlanks rest
  | some '\t' :: rest => skipBlanks rest
  | some '\r' :: rest => skipBlanks rest
  | rest => rest

/-- The fault of finding `rest` where something else is needed. -/
def unexpected (rest : List Symbol) : Fault :=
  if rest.isEmpty then .cutOff else .malformed

/-- A text while it is read: its characters in reverse, the first fault of its value, whether bytes
outside any character occur, and the first half of a surrogate pair that waits for the second. -/
structure TextSoFar where
  done : List Char
  fault : Option Fault
  stray : Bool
  high : Option Nat

namespace TextSoFar

/-- The empty text. -/
def start : TextSoFar := ⟨[], none, false, none⟩

/-- A half of a surrogate pair that stands alone spoils the value. -/
def settle (t : TextSoFar) : TextSoFar :=
  match t.high with
  | none => t
  | some _ => { t with high := none, fault := t.fault.or (some .malformed) }

/-- One more character. -/
def push (t : TextSoFar) (c : Char) : TextSoFar :=
  let t := t.settle
  { t with done := c :: t.done }

/-- One more byte outside any character. -/
def pushStray (t : TextSoFar) : TextSoFar :=
  { t.settle with stray := true }

/-- One more code unit written by its four hexadecimal digits. -/
def pushUnit (t : TextSoFar) (unit : Nat) : TextSoFar :=
  if 0xDC00 ≤ unit ∧ unit ≤ 0xDFFF then
    match t.high with
    | some h =>
      let c := Char.ofNat (0x10000 + (h - 0xD800) * 0x400 + (unit - 0xDC00))
      { t with high := none, done := c :: t.done }
    | none => { t with fault := t.fault.or (some .malformed) }
  else if 0xD800 ≤ unit ∧ unit ≤ 0xDBFF then { t.settle with high := some unit }
  else t.push (Char.ofNat unit)

/-- The text at its closing quote. -/
def close (t : TextSoFar) : Lexeme String :=
  let t := t.settle
  let value := match t.fault with
    | some f => .error f
    | none => if t.stray then .error .malformed else .ok (String.ofList t.done.reverse)
  ⟨value, none⟩

/-- The text where the document faults before its closing quote. -/
def broken (t : TextSoFar) (f : Fault) : Lexeme String :=
  ⟨.error (t.fault.getD f), some f⟩

end TextSoFar

/-- The value of a hexadecimal digit. -/
def hexDigit? (s : Symbol) : Option Nat :=
  match s with
  | none => none
  | some c => (Hex.value? c).map fun v => v
where
  /-- The value of a character as a hexadecimal digit. -/
  Hex.value? (c : Char) : Option Nat :=
    let n := c.toNat
    if 48 ≤ n ∧ n ≤ 57 then some (n - 48)
    else if 97 ≤ n ∧ n ≤ 102 then some (n - 87)
    else if 65 ≤ n ∧ n ≤ 70 then some (n - 55)
    else none

/-- The code unit of four hexadecimal digits. -/
def unit? (a b c d : Symbol) : Option Nat := do
  let a ← hexDigit? a
  let b ← hexDigit? b
  let c ← hexDigit? c
  let d ← hexDigit? d
  return ((a * 16 + b) * 16 + c) * 16 + d

/-- The bytes that a run of symbols takes up. -/
def widthOf (rest : List Symbol) : Nat := rest.foldl (fun n symbol => n + symbol.width) 0

/-- The character of an escape of one letter. -/
def escape? (c : Char) : Option Char :=
  match c with
  | '"' => some '"'
  | '\\' => some '\\'
  | '/' => some '/'
  | 'b' => some '\x08'
  | 'f' => some '\x0c'
  | 'n' => some '\n'
  | 'r' => some '\r'
  | 't' => some '\t'
  | _ => none

/-- The fault of a code unit escape without four hexadecimal digits in front of `rest`. -/
def unitFault (rest : List Symbol) : Fault :=
  if widthOf (rest.take 4) < 4 then .cutOff else .malformed

/-- Reads a text up to its closing quote. -/
def readText (t : TextSoFar) : List Symbol → Lexeme String × List Symbol
  | [] => (t.broken .cutOff, [])
  | some '"' :: rest => (t.close, rest)
  | some '\\' :: some 'u' :: a :: b :: c :: d :: rest =>
    match unit? a b c d with
    | some unit => readText (t.pushUnit unit) rest
    | none => (t.broken (unitFault [a, b, c, d]), rest)
  | some '\\' :: some 'u' :: rest => (t.broken (unitFault rest), [])
  | some '\\' :: some c :: rest =>
    match escape? c with
    | some e => readText (t.push e) rest
    | none => (t.settle.broken .malformed, rest)
  | [some '\\'] => (t.broken .cutOff, [])
  | some '\\' :: none :: rest => (t.settle.broken .malformed, rest)
  | some c :: rest =>
    if c.toNat < 32 then (t.settle.broken .malformed, rest) else readText (t.push c) rest
  | none :: rest => readText t.pushStray rest

/-- Whether the symbol is a decimal digit. -/
def isDigit (s : Symbol) : Bool :=
  match s with
  | some c => Text.isDigit c
  | none => false

/-- The digits at the front, and what remains. -/
def readDigits : List Symbol → List Char × List Symbol
  | some c :: rest =>
    if Text.isDigit c then
      let (run, rest) := readDigits rest
      (c :: run, rest)
    else ([], some c :: rest)
  | rest => ([], rest)

/-- The fault of a number that breaks off in front of `rest`: a missing digit is a breach of the
grammar for those who pass over it. -/
def numberFault (rest : List Symbol) : Lexeme Number :=
  ⟨.error (unexpected rest), some .malformed⟩

/-- Reads the exponent of a number whose other parts are known. -/
def readExponent (negative : Bool) (integral : List Char) (fraction : Option (List Char)) :
    List Symbol → Lexeme Number × List Symbol
  | some 'e' :: rest => power rest
  | some 'E' :: rest => power rest
  | rest => (⟨Number.value negative integral fraction none, none⟩, rest)
where
  /-- The exponent behind its letter. -/
  power (rest : List Symbol) : Lexeme Number × List Symbol :=
    let (below, rest) := match rest with
      | some '+' :: rest => (false, rest)
      | some '-' :: rest => (true, rest)
      | rest => (false, rest)
    match readDigits rest with
    | ([], rest) => (numberFault rest, rest)
    | (run, rest) => (⟨Number.value negative integral fraction (some (below, run)), none⟩, rest)

/-- Reads the fraction and the exponent of a number. -/
def readFraction (negative : Bool) (integral : List Char) :
    List Symbol → Lexeme Number × List Symbol
  | some '.' :: rest =>
    match readDigits rest with
    | ([], rest) => (numberFault rest, rest)
    | (run, rest) => readExponent negative integral (some run) rest
  | rest => readExponent negative integral none rest

/-- Reads a number behind its sign. -/
def readNumber (negative : Bool) (rest : List Symbol) : Lexeme Number × List Symbol :=
  match readDigits rest with
  | ([], rest) => (numberFault rest, rest)
  | ('0' :: _ :: _, rest) => (⟨.error .malformed, some .malformed⟩, rest)
  | (run, rest) => readFraction negative run rest

/-- Reads the rest of a word that names a constant. -/
def readWord (node : Node) : List Char → List Symbol → Node × List Symbol
  | [], rest => (node, rest)
  | _ :: _, [] => (.fault .cutOff, [])
  | c :: word, s :: rest => if s = some c then readWord node word rest else (.fault .malformed, rest)

/-- Whether passing over the part meets a fault. -/
def Node.skip : Node → Option Fault
  | .null | .bool _ => none
  | .num lexeme => lexeme.skip
  | .str lexeme => lexeme.skip
  | .arr _ ending => ending
  | .obj _ ending => ending
  | .fault f => some f

mutual

/-- Reads one part of a document; `fuel` bounds the number of parts. -/
def readNode : (fuel : Nat) → List Symbol → Node × List Symbol
  | 0, rest => (.fault .malformed, rest)
  | fuel + 1, rest =>
    match skipBlanks rest with
    | [] => (.fault .cutOff, [])
    | some 'n' :: rest => readWord .null ['u', 'l', 'l'] rest
    | some 't' :: rest => readWord (.bool true) ['r', 'u', 'e'] rest
    | some 'f' :: rest => readWord (.bool false) ['a', 'l', 's', 'e'] rest
    | some '"' :: rest =>
      let (text, rest) := readText .start rest
      (.str text, rest)
    | some '-' :: rest =>
      let (number, rest) := readNumber true rest
      (.num number, rest)
    | some '[' :: rest =>
      match skipBlanks rest with
      | some ']' :: rest => (.arr [] none, rest)
      | rest =>
        let (items, ending, rest) := readItems fuel rest
        (.arr items ending, rest)
    | some '\x7b' :: rest =>
      match skipBlanks rest with
      | some '\x7d' :: rest => (.obj [] none, rest)
      | rest =>
        let (members, ending, rest) := readMembers fuel rest
        (.obj members ending, rest)
    | some c :: rest =>
      if Text.isDigit c then
        let (number, rest) := readNumber false (some c :: rest)
        (.num number, rest)
      else (.fault .malformed, some c :: rest)
    | none :: rest => (.fault .malformed, none :: rest)

/-- Reads the items of a list up to its closing bracket. -/
def readItems : (fuel : Nat) → List Symbol → List Node × Option Fault × List Symbol
  | 0, rest => ([], some .malformed, rest)
  | fuel + 1, rest =>
    let (item, rest) := readNode fuel rest
    match item.skip with
    | some f => ([item], some f, rest)
    | none =>
      match skipBlanks rest with
      | some ']' :: rest => ([item], none, rest)
      | some ',' :: rest =>
        let (items, ending, rest) := readItems fuel rest
        (item :: items, ending, rest)
      | rest => ([item], some (unexpected rest), rest)

/-- Reads the members of an object up to its closing brace. -/
def readMembers : (fuel : Nat) → List Symbol →
    List (Lexeme String × Node) × Option Fault × List Symbol
  | 0, rest => ([], some .malformed, rest)
  | fuel + 1, rest =>
    match skipBlanks rest with
    | some '"' :: rest =>
      let (key, rest) := readText .start rest
      match key.skip with
      | some f => ([(key, .fault f)], some f, rest)
      | none =>
        match skipBlanks rest with
        | some ':' :: rest =>
          let (value, rest) := readNode fuel rest
          match value.skip with
          | some f => ([(key, value)], some f, rest)
          | none =>
            match skipBlanks rest with
            | some '\x7d' :: rest => ([(key, value)], none, rest)
            | some ',' :: rest =>
              let (members, ending, rest) := readMembers fuel rest
              ((key, value) :: members, ending, rest)
            | rest => ([(key, value)], some (unexpected rest), rest)
        | rest => ([(key, .fault (unexpected rest))], some (unexpected rest), rest)
    | rest =>
      let f := unexpected rest
      let (found, rest) := readNode fuel rest
      ([(⟨.error f, some f⟩, found)], some f, rest)

end

/-- A document: its root, and whether something follows the root. -/
structure Document where
  root : Node
  trailing : Bool

/-- The document that a run of symbols writes down. -/
def Document.ofSymbols (symbols : List Symbol) : Document :=
  let (root, rest) := readNode (2 * symbols.length + 2) symbols
  ⟨root, !(skipBlanks rest).isEmpty⟩

/-- The document that a sequence of bytes writes down. -/
def Document.read (bytes : ByteArray) : Document :=
  Document.ofSymbols (Text.symbols bytes)

end Muster.Json
