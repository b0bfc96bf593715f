/-!
# Identifiers

Operations, node steps and inboxes are told apart by identifiers of thirty-two hexadecimal digits or
more. They are handed out in turn, so none is handed out twice.
-/

set_option autoImplicit false

namespace Muster

/-- Where identifiers come from: the number of those handed out. -/
structure Identifiers where
  used : Nat
  deriving DecidableEq, Repr, Inhabited

namespace Identifiers

/-- The identifier with a number. -/
def text (n : Nat) : String :=
  let digits := Nat.toDigits 16 n
  String.ofList (List.replicate (32 - digits.length) '0' ++ digits)

/-- Hands out one identifier. -/
def fresh (ids : Identifiers) : String × Identifiers := (text ids.used, ⟨ids.used + 1⟩)

/-- Hands out one identifier for each element of a list. -/
def freshFor {α : Type} (ids : Identifiers) : List α → List (String × α) × Identifiers
  | [] => ([], ids)
  | a :: rest =>
    let (others, later) := freshFor ⟨ids.used + 1⟩ rest
    ((text ids.used, a) :: others, later)

end Identifiers

end Muster
