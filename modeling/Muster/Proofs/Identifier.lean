import Mathlib.Data.List.Range
import Muster.Identifier

/-!
# Identifiers are told apart

An identifier reads back as the number that it was handed out under (`reading_text`), so identifiers of
different numbers differ. `freshFor` hands out the numbers that follow the ones in use.
-/

set_option autoImplicit false

namespace Muster.Identifiers

/-! ### Reading an identifier -/

/-- The value of a hexadecimal digit. -/
def digitValue (c : Char) : Nat := "0123456789abcdef".toList.idxOf c

/-- The number that hexadecimal digits stand for. -/
def reading (digits : List Char) : Nat := digits.foldl (fun n c => n * 16 + digitValue c) 0

theorem digitValue_digitChar {d : Nat} (h : d < 16) : digitValue (Nat.digitChar d) = d := by
  have all : ∀ d < 16, digitValue (Nat.digitChar d) = d := by decide
  exact all d h

theorem reading_snoc (digits : List Char) (c : Char) :
    reading (digits ++ [c]) = reading digits * 16 + digitValue c := by
  simp [reading, List.foldl_append]

theorem reading_toDigits (n : Nat) : reading (Nat.toDigits 16 n) = n := by
  induction n using Nat.strongRecOn with
  | ind n ih =>
    rw [Nat.toDigits_eq_if (by decide)]
    split
    · next small =>
      simp only [reading, List.foldl_cons, List.foldl_nil, digitValue_digitChar small]
      omega
    · next large =>
      have rest : n % 16 < 16 := Nat.mod_lt n (by decide)
      rw [reading_snoc, ih (n / 16) (by omega), digitValue_digitChar rest]
      omega

theorem reading_zeros (k : Nat) (digits : List Char) :
    reading (List.replicate k '0' ++ digits) = reading digits := by
  have none : (List.replicate k '0').foldl (fun n c => n * 16 + digitValue c) 0 = 0 := by
    induction k with
    | zero => rfl
    | succ k ih => rw [List.replicate_succ, List.foldl_cons]; exact ih
  rw [reading, List.foldl_append, none, reading]

theorem reading_text (n : Nat) : reading (text n).toList = n := by
  simp only [text, String.toList_ofList]
  rw [reading_zeros, reading_toDigits]

theorem text_injective : Function.Injective text := by
  intro m n same
  rw [← reading_text m, ← reading_text n, same]

/-! ### Handing out -/

variable {α : Type}

theorem freshFor_used (ids : Identifiers) (l : List α) :
    (ids.freshFor l).2.used = ids.used + l.length := by
  induction l generalizing ids with
  | nil => rfl
  | cons a rest ih =>
    simp only [freshFor, List.length_cons]
    rw [ih]
    simp only
    omega

theorem freshFor_snd (ids : Identifiers) (l : List α) : (ids.freshFor l).1.map Prod.snd = l := by
  induction l generalizing ids with
  | nil => rfl
  | cons a rest ih => simp [freshFor, ih]

theorem length_freshFor (ids : Identifiers) (l : List α) : (ids.freshFor l).1.length = l.length := by
  rw [← List.length_map Prod.snd, freshFor_snd]

theorem freshFor_fst (ids : Identifiers) (l : List α) :
    (ids.freshFor l).1.map Prod.fst = (List.range' ids.used l.length).map text := by
  induction l generalizing ids with
  | nil => rfl
  | cons a rest ih => simp [freshFor, ih, List.range'_succ]

/-- An identifier is from the numbers between two counts. -/
def Between (low high : Nat) (id : String) : Prop := ∃ n, low ≤ n ∧ n < high ∧ id = text n

theorem between_of_mem_freshFor {ids : Identifiers} {l : List α} {id : String}
    (member : id ∈ (ids.freshFor l).1.map Prod.fst) :
    Between ids.used (ids.freshFor l).2.used id := by
  rw [freshFor_fst] at member
  obtain ⟨n, inside, rfl⟩ := List.mem_map.1 member
  rw [List.mem_range'_1] at inside
  exact ⟨n, inside.1, by rw [freshFor_used]; exact inside.2, rfl⟩

theorem Between.mono {low high low' high' : Nat} {id : String} (h : Between low high id)
    (below : low' ≤ low) (above : high ≤ high') : Between low' high' id := by
  obtain ⟨n, h₁, h₂, rfl⟩ := h
  exact ⟨n, below.trans h₁, h₂.trans_le above, rfl⟩

/-- Identifiers handed out later differ from those handed out before. -/
theorem Between.ne {a b c d : Nat} {id other : String} (h : Between a b id) (later : Between c d other)
    (apart : b ≤ c) : id ≠ other := by
  obtain ⟨m, -, h₂, rfl⟩ := h
  obtain ⟨n, h₃, -, rfl⟩ := later
  intro same
  have equal := text_injective same
  omega

end Muster.Identifiers
