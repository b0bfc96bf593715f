import Muster.Text.Shortest
import Muster.Text.Utf8

/-!
# Numbers in JSON documents that are read

A number without fraction and exponent is exact as long as it fits sixty-four bits; every other one
is a binary floating point number, of which only the text is kept because it can only stand in a
message. A significand takes as many digits as fit sixty-four bits; digits after those count as
zeros before the point and are dropped behind it.
-/

set_option autoImplicit false

namespace Muster.Json

/-- What is wrong with a document: it ends too early, or it breaks the grammar. -/
inductive Fault where
  /-- The document ends where more is needed. -/
  | cutOff
  /-- Something else stands where the grammar needs a certain token. -/
  | malformed
  deriving DecidableEq, Repr

/-- A number of a document. -/
inductive Number where
  | nat (value : UInt64)
  /-- The number below zero of this size. -/
  | negative (size : UInt64)
  /-- A floating point number, as its shortest text. -/
  | real (text : String)
  deriving DecidableEq, Repr

namespace Number

/-- The largest significand. -/
def bound : Nat := UInt64.size - 1

/-- Adds digits to a significand while it fits; the rest of the digits is returned. -/
def gather (significand : Nat) : List Char → Nat × List Char
  | [] => (significand, [])
  | c :: rest =>
    let next := significand * 10 + (c.toNat - 48)
    if bound < next then (significand, c :: rest) else gather next rest

/-- A power of ten as the nearest floating point number. -/
def powerOfTen (e : Nat) : Float := Float.ofScientific 1 false e

/-- Scales by a power of ten in steps that a floating point number can hold; none when the result
is too large. -/
def scale : (steps : Nat) → Float → Int → Option Float
  | 0, x, _ => some x
  | steps + 1, x, e =>
    if e.natAbs ≤ 308 then
      if 0 ≤ e then
        let y := x * powerOfTen e.toNat
        if y.isInf then none else some y
      else some (x / powerOfTen (-e).toNat)
    else if x == 0.0 then some x
    else if 0 ≤ e then none
    else scale steps (x / powerOfTen 308) (e + 308)

/-- The floating point number of a significand and an exponent. -/
def realOf (negative : Bool) (significand : Nat) (e : Int) : Except Fault Number :=
  match scale 8 significand.toUInt64.toFloat e with
  | none => .error .malformed
  | some x => .ok (.real (Text.Binary.text (if negative then -x else x)))

/-- The value of a number: sign, integral digits, digits of the fraction, and sign and digits of the
exponent where they are present. -/
def value (negative : Bool) (integral : List Char) (fraction : Option (List Char))
    (exponent : Option (Bool × List Char)) : Except Fault Number :=
  let (significand, beyond) := gather 0 integral
  if beyond.isEmpty && fraction.isNone && exponent.isNone then
    if !negative then .ok (.nat significand.toUInt64)
    else if 0 < significand ∧ significand ≤ UInt64.size / 2 then .ok (.negative significand.toUInt64)
    else realOf true significand 0
  else
    let digits := fraction.getD []
    let (significand, left) := gather significand digits
    let shift : Int := (beyond.length : Int) - ((digits.length - left.length : Nat) : Int)
    match exponent with
    | none => realOf negative significand shift
    | some (below, run) =>
      let size := (Text.digitsValue? 0 run).getD 0
      if UInt32.size / 2 ≤ size then
        if significand != 0 && !below then .error .malformed
        else realOf negative 0 0
      else realOf negative significand (if below then shift - size else shift + size)

end Number

end Muster.Json
