import Muster.Text.Decimal

/-!
# The shortest decimal of a binary number

A binary number `m * 2 ^ q` is written with the fewest decimal digits that lie nearer to it than to
its neighbours, and of those the nearest. `Binary.ofFloat` takes a floating point number apart,
`Binary.shortest` finds digits and decimal exponent, and `Binary.text` writes them: positional from
`1e-5` up to below `1e16`, otherwise with an exponent.
-/

set_option autoImplicit false

namespace Muster.Text

/-- The number `m * 2 ^ q`; `narrowBelow` holds when the gap below is half as wide as the gap above. -/
structure Binary where
  m : Nat
  q : Int
  narrowBelow : Bool
  deriving DecidableEq, Repr

namespace Binary

/-- Compares `a * 2 ^ p` with `b * 10 ^ e` by cross-multiplying into the natural numbers. -/
def compareScaled (a : Nat) (p : Int) (b : Nat) (e : Int) : Ordering :=
  let left := a * Nat.pow 2 p.toNat * Nat.pow 10 (-e).toNat
  let right := b * Nat.pow 10 e.toNat * Nat.pow 2 (-p).toNat
  compare left right

/-- Whether `d * 10 ^ e` rounds to `b`: it lies between the midpoints to the neighbours, the
midpoints themselves included when `b.m` is even. -/
def covers (b : Binary) (d : Nat) (e : Int) : Bool :=
  let low := if b.narrowBelow then 4 * b.m - 1 else 4 * b.m - 2
  let high := 4 * b.m + 2
  let even := b.m % 2 == 0
  let fromBelow := compareScaled low (b.q - 2) d e
  let toAbove := compareScaled high (b.q - 2) d e
  (fromBelow == .lt || (even && fromBelow == .eq)) && (toAbove == .gt || (even && toAbove == .eq))

/-- The integral part of `b / 10 ^ e`. -/
def quotient (b : Binary) (e : Int) : Nat :=
  (b.m * Nat.pow 2 b.q.toNat * Nat.pow 10 (-e).toNat)
    / (Nat.pow 10 e.toNat * Nat.pow 2 (-b.q).toNat)

/-- Whether `d * 10 ^ e` is at most half a unit of `10 ^ e` below `b`. -/
def nearerBelow (b : Binary) (d : Nat) (e : Int) : Bool :=
  match compareScaled (2 * b.m) b.q (2 * d + 1) e with
  | .lt => true
  | .gt => false
  | .eq => d % 2 == 0

/-- The coarsest grid with a point that rounds to `b`, from exponent `e` downwards. -/
def search (b : Binary) : (steps : Nat) → (e : Int) → Nat × Int
  | 0, e => (quotient b e, e)
  | steps + 1, e =>
    let d := quotient b e
    let below := d != 0 && covers b d e
    let above := covers b (d + 1) e
    if below && above then (if nearerBelow b d e then (d, e) else (d + 1, e))
    else if below then (d, e)
    else if above then (d + 1, e)
    else search b steps (e - 1)

/-- Strips trailing zeros of a significand into its exponent. -/
def stripZeros : (steps : Nat) → Nat → Int → Nat × Int
  | 0, d, e => (d, e)
  | steps + 1, d, e => if d != 0 && d % 10 == 0 then stripZeros steps (d / 10) (e + 1) else (d, e)

/-- The fewest digits that read back as `b`, as a significand and a decimal exponent. -/
def shortest (b : Binary) : Nat × Int :=
  let (d, e) := search b 700 310
  stripZeros 20 d e

/-- The parts of a finite floating point number: its sign and, unless it is zero, its value. -/
def ofFloat (x : Float) : Bool × Option Binary :=
  let bits := x.toBits.toNat
  let hidden := Nat.pow 2 52
  let negative := bits / Nat.pow 2 63 == 1
  let exponent : Nat := bits / hidden % 2048
  let fraction := bits % hidden
  if exponent == 0 then
    (negative, if fraction == 0 then none else some ⟨fraction, -1074, false⟩)
  else
    (negative, some ⟨hidden + fraction, (exponent : Int) - 1075, fraction == 0 && exponent != 1⟩)

/-- A significand and an exponent in the notation described above. -/
def written (d : Nat) (e : Int) : String :=
  let ds := digits d
  let point : Int := ds.length + e
  if -5 < point ∧ point ≤ 16 then
    if 0 ≤ e then
      String.ofList (ds ++ List.replicate e.toNat '0') ++ ".0"
    else if 0 < point then
      String.ofList (ds.take point.toNat) ++ "." ++ String.ofList (ds.drop point.toNat)
    else
      "0." ++ String.ofList (List.replicate (-point).toNat '0' ++ ds)
  else
    let exponent := point - 1
    let sign := if exponent < 0 then "-" else "+"
    let head := String.ofList (ds.take 1)
    let tail := if ds.length ≤ 1 then "" else "." ++ String.ofList (ds.drop 1)
    head ++ tail ++ "e" ++ sign ++ decimal exponent.natAbs

/-- The shortest text of a finite floating point number. -/
def text (x : Float) : String :=
  let (negative, value) := ofFloat x
  let sign := if negative then "-" else ""
  match value with
  | none => sign ++ "0.0"
  | some b =>
    let (d, e) := b.shortest
    sign ++ written d e

end Binary

end Muster.Text
