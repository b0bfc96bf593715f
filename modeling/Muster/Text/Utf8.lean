/-!
# Byte sequences seen as text

`symbols` reads a sequence of bytes as UTF-8 without refusing any: a character where one is encoded,
and `none` for each byte that belongs to no character. `symbols_toUTF8` says that the encoding of a
text reads back as its characters. `lossy` is the display form, with one replacement character for
each longest damaged start of a character.
-/

set_option autoImplicit false

namespace Muster

namespace Text

/-- One character of a byte sequence, or `none` for a byte that belongs to no character. -/
abbrev Symbol := Option Char

/-- The bytes a symbol takes up. -/
def Symbol.width : Symbol → Nat
  | some c => c.utf8Size
  | none => 1

/-- The symbols of `bytes` from position `i` on; `steps` bounds their number. -/
def symbolsFrom (bytes : ByteArray) : (steps i : Nat) → List Symbol
  | 0, _ => []
  | steps + 1, i =>
    if i < bytes.size then
      match bytes.utf8DecodeChar? i with
      | some c => some c :: symbolsFrom bytes steps (i + c.utf8Size)
      | none => none :: symbolsFrom bytes steps (i + 1)
    else []

/-- The symbols of a byte sequence. -/
def symbols (bytes : ByteArray) : List Symbol :=
  match String.fromUTF8? bytes with
  | some s => s.toList.map some
  | none => symbolsFrom bytes bytes.size 0

theorem fromUTF8?_toUTF8 (s : String) : String.fromUTF8? s.toUTF8 = some s := by
  have h : s.toUTF8.IsValidUTF8 := s.isValidUTF8
  simp only [String.fromUTF8?, h, dif_pos]
  rfl

/-- The encoding of a text reads back as its characters. -/
theorem symbols_toUTF8 (s : String) : symbols s.toUTF8 = s.toList.map some := by
  simp only [symbols, fromUTF8?_toUTF8]

/-- Whether the byte continues a character. -/
def isContinuation (b : UInt8) : Bool := 0x80 ≤ b && b ≤ 0xBF

/-- Whether `second` may follow the leading byte `lead` of a character of three or four bytes. -/
def mayFollow (lead second : UInt8) : Bool :=
  if lead == 0xE0 then 0xA0 ≤ second && second ≤ 0xBF
  else if lead == 0xED then 0x80 ≤ second && second ≤ 0x9F
  else if lead == 0xF0 then 0x90 ≤ second && second ≤ 0xBF
  else if lead == 0xF4 then 0x80 ≤ second && second ≤ 0x8F
  else isContinuation second

/-- How many bytes at the front form the longest start of a character that is not completed. -/
def damagedLength : List UInt8 → Nat
  | lead :: second :: third :: _ =>
    if 0xE0 ≤ lead && lead ≤ 0xEF then (if mayFollow lead second then 2 else 1)
    else if 0xF0 ≤ lead && lead ≤ 0xF4 then
      (if mayFollow lead second then (if isContinuation third then 3 else 2) else 1)
    else 1
  | [lead, second] =>
    if 0xE0 ≤ lead && lead ≤ 0xF4 && mayFollow lead second then 2 else 1
  | _ => 1

/-- The display form of `bytes` from position `i` on; `steps` bounds the number of characters. -/
def lossyFrom (bytes : ByteArray) : (steps i : Nat) → List Char
  | 0, _ => []
  | steps + 1, i =>
    if i < bytes.size then
      match bytes.utf8DecodeChar? i with
      | some c => c :: lossyFrom bytes steps (i + c.utf8Size)
      | none =>
        let front := (bytes.extract i (i + 3)).data.toList
        '\uFFFD' :: lossyFrom bytes steps (i + damagedLength front)
    else []

/-- The display form of a byte sequence. -/
def lossy (bytes : ByteArray) : String :=
  match String.fromUTF8? bytes with
  | some s => s
  | none => String.ofList (lossyFrom bytes bytes.size 0)

/-- The bytes of a text. -/
def bytes (s : String) : ByteArray := s.toUTF8

end Text

end Muster
