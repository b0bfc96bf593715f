import Muster.Json.Document

/-!
# The tree of a document

`Node.ofJson` is the tree of a document that is written down, and `Lexeme.sound` a token whose value is
known. The rest says what the reader does with the tokens of a document that has no faults: a text is read
character by character with a state that stays plain (`TextSoFar.plain`), the digits of a natural number are
gathered to the end, and the first symbol of a part tells which kind of part it is.
-/

set_option autoImplicit false

namespace Muster.Json

open Text (Symbol)

/-! ### The tree of a document -/

/-- A token whose value is known. -/
def Lexeme.sound {α : Type} (a : α) : Lexeme α := ⟨.ok a, none⟩

mutual

/-- The tree of a document. -/
def Node.ofJson : Json → Node
  | .null => .null
  | .bool b => .bool b
  | .nat n => .num (.sound (.nat n))
  | .str s => .str (.sound s)
  | .arr items => .arr (ofItems items) none
  | .obj members => .obj (ofMembers members) none

/-- The trees of items. -/
def Node.ofItems : List Json → List Node
  | [] => []
  | item :: items => ofJson item :: ofItems items

/-- The trees of members. -/
def Node.ofMembers : List (String × Json) → List (Lexeme String × Node)
  | [] => []
  | (key, value) :: members => (.sound key, ofJson value) :: ofMembers members

end

/-! ### Texts -/

/-- A text without faults so far, which has these characters in reverse. -/
def TextSoFar.plain (done : List Char) : TextSoFar := ⟨done, none, false, none⟩

theorem TextSoFar.push_plain (done : List Char) (c : Char) :
    (TextSoFar.plain done).push c = .plain (c :: done) := rfl

theorem TextSoFar.close_plain (done : List Char) :
    (TextSoFar.plain done).close = .sound (String.ofList done.reverse) := rfl

theorem readText_unit {a b c d : Symbol} {unit : Nat} (t : TextSoFar) (rest : List Symbol)
    (known : unit? a b c d = some unit) :
    readText t (some '\\' :: some 'u' :: a :: b :: c :: d :: rest) =
      readText (t.pushUnit unit) rest := by
  rw [readText]
  simp only [known]

theorem readText_char {c : Char} (t : TextSoFar) (rest : List Symbol)
    (quote : c ≠ '"') (slash : c ≠ '\\') (control : ¬ c.toNat < 32) :
    readText t (some c :: rest) = readText (t.push c) rest := by
  rw [readText.eq_def]
  grind

/-! ### Numbers -/

theorem isDigit_digitChar {d : Nat} (small : d < 10) : Text.isDigit (Text.digitChar d) = true := by
  have all : ∀ d < 10, Text.isDigit (Text.digitChar d) = true := by decide
  exact all d small

theorem isDigit_digits (n : Nat) : ∀ c ∈ Text.digits n, Text.isDigit c = true := by
  induction n using Text.digits.induct with
  | case1 n small =>
    rw [Text.digits, if_pos small]
    simpa using isDigit_digitChar small
  | case2 n large ih =>
    rw [Text.digits, if_neg large]
    intro c here
    rcases List.mem_append.1 here with front | last
    · exact ih c front
    · obtain rfl := List.mem_singleton.1 last
      exact isDigit_digitChar (Nat.mod_lt _ (by decide))

/-- The digits of a number start with a digit, and not with a zero that another one follows. -/
theorem digits_eq_cons (n : Nat) :
    ∃ c rest, Text.digits n = c :: rest ∧ Text.isDigit c = true ∧ (c = '0' → rest = []) := by
  induction n using Text.digits.induct with
  | case1 n small =>
    exact ⟨Text.digitChar n, [], by rw [Text.digits, if_pos small], isDigit_digitChar small,
      fun _ => rfl⟩
  | case2 n large ih =>
    obtain ⟨c, rest, front, digit, zero⟩ := ih
    refine ⟨c, rest ++ [Text.digitChar (n % 10)], by
      rw [Text.digits, if_neg large, front, List.cons_append], digit, fun c_zero => ?_⟩
    -- A leading zero would make the number in front 0, but that number is positive.
    have value := Text.digitsValue?_digits (n / 10)
    rw [front, zero c_zero, c_zero] at value
    have : n / 10 = 0 := by
      have read : Text.digitsValue? 0 ['0'] = some 0 := by decide
      exact (Option.some.inj (read.symm.trans value)).symm
    omega

theorem le_of_digitsValue? {run : List Char} {acc n : Nat}
    (value : Text.digitsValue? acc run = some n) : acc ≤ n := by
  induction run generalizing acc with
  | nil => exact Nat.le_of_eq (Option.some.inj value)
  | cons c run ih =>
    obtain ⟨d, -, rest⟩ := Option.bind_eq_some_iff.1 value
    have := ih rest
    omega

/-- Digits of a number that fits are gathered to the end. -/
theorem Number.gather_digits {run : List Char} {acc n : Nat}
    (value : Text.digitsValue? acc run = some n) (fits : n ≤ bound) :
    gather acc run = (n, []) := by
  induction run generalizing acc with
  | nil => simpa [gather, Text.digitsValue?] using value
  | cons c run ih =>
    obtain ⟨d, digit, rest⟩ := Option.bind_eq_some_iff.1 value
    have known : c.toNat - 48 = d := by
      unfold Text.digitValue? at digit
      split at digit
      · exact Option.some.inj digit
      · cases digit
    have small := le_of_digitsValue? rest
    rw [gather]
    simp only [known]
    rw [if_neg (by omega), ih rest]

/-! ### Parts of a document -/

theorem skipBlanks_cons {c : Char} (rest : List Symbol)
    (solid : c ≠ ' ' ∧ c ≠ '\n' ∧ c ≠ '\t' ∧ c ≠ '\r') :
    skipBlanks (some c :: rest) = some c :: rest := by
  rw [skipBlanks.eq_def]
  grind

theorem readNode_digit {c : Char} (fuel : Nat) (rest : List Symbol) (digit : Text.isDigit c = true) :
    readNode (fuel + 1) (some c :: rest) =
      (.num (readNumber false (some c :: rest)).1, (readNumber false (some c :: rest)).2) := by
  have solid : c ≠ ' ' ∧ c ≠ '\n' ∧ c ≠ '\t' ∧ c ≠ '\r' := by
    refine ⟨?_, ?_, ?_, ?_⟩ <;> (rintro rfl; revert digit; decide)
  rw [readNode, skipBlanks_cons rest solid]
  split <;> simp_all [Text.isDigit]

theorem readNode_list {c : Char} (fuel : Nat) (rest : List Symbol)
    (solid : c ≠ ' ' ∧ c ≠ '\n' ∧ c ≠ '\t' ∧ c ≠ '\r') (more : c ≠ ']') :
    readNode (fuel + 1) (some '[' :: some c :: rest) =
      (.arr (readItems fuel (some c :: rest)).1 (readItems fuel (some c :: rest)).2.1,
        (readItems fuel (some c :: rest)).2.2) := by
  rw [readNode, skipBlanks_cons _ (by decide)]
  simp only [skipBlanks_cons rest solid]
  split
  · next closed => simp_all
  · rfl

end Muster.Json
