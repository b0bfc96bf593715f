/-!
# Decimal text of natural numbers

`digits` writes a number without leading zeros and `digitsValue?` reads a run of digits back;
`digitsValue?_digits` says that reading undoes writing. Settings given as text are read by `natOf?`,
which accepts an optional plus sign and leading zeros and refuses a number above its bound.
-/

set_option autoImplicit false

namespace Muster.Text

/-- The character of a value below ten. -/
def digitChar (d : Nat) : Char := Char.ofNat (48 + d)

/-- The decimal digits of a number, without leading zeros. -/
def digits (n : Nat) : List Char :=
  if n < 10 then [digitChar n] else digits (n / 10) ++ [digitChar (n % 10)]

/-- The decimal text of a number. -/
def decimal (n : Nat) : String := String.ofList (digits n)

/-- Whether the character is a decimal digit. -/
def isDigit (c : Char) : Bool := '0' ≤ c && c ≤ '9'

/-- The value of a decimal digit. -/
def digitValue? (c : Char) : Option Nat :=
  if isDigit c then some (c.toNat - 48) else none

/-- The number that a run of decimal digits stands for, continued from `acc`. -/
def digitsValue? (acc : Nat) : List Char → Option Nat
  | [] => some acc
  | c :: rest => (digitValue? c).bind fun d => digitsValue? (acc * 10 + d) rest

theorem digitValue?_digitChar {d : Nat} (h : d < 10) : digitValue? (digitChar d) = some d := by
  have : d = 0 ∨ d = 1 ∨ d = 2 ∨ d = 3 ∨ d = 4 ∨ d = 5 ∨ d = 6 ∨ d = 7 ∨ d = 8 ∨ d = 9 := by omega
  rcases this with rfl | rfl | rfl | rfl | rfl | rfl | rfl | rfl | rfl | rfl <;> rfl

theorem digitsValue?_append (acc : Nat) (s t : List Char) :
    digitsValue? acc (s ++ t) = (digitsValue? acc s).bind fun n => digitsValue? n t := by
  induction s generalizing acc with
  | nil => rfl
  | cons c rest ih =>
    simp only [List.cons_append, digitsValue?]
    cases digitValue? c with
    | none => rfl
    | some d => simpa using ih (acc * 10 + d)

/-- Reading the digits of a number gives the number. -/
theorem digitsValue?_digits (n : Nat) : digitsValue? 0 (digits n) = some n := by
  induction n using digits.induct with
  | case1 n h => rw [digits, if_pos h]; simp [digitsValue?, digitValue?_digitChar h]
  | case2 n h ih =>
    rw [digits, if_neg h, digitsValue?_append, ih]
    have : n % 10 < 10 := Nat.mod_lt _ (by decide)
    simp only [Option.bind_some, digitsValue?, digitValue?_digitChar this]
    exact congrArg some (Nat.div_add_mod' n 10)

/-- Reads a natural number of at most `bound`, with an optional plus sign. -/
def natOf? (bound : Nat) (s : String) : Option Nat :=
  let run := match s.toList with
    | '+' :: rest => rest
    | chars => chars
  if run.isEmpty then none
  else (digitsValue? 0 run).filter (· ≤ bound)

end Muster.Text
