import Muster.Json.Flattened
import Muster.Proofs.Json.Document

/-!
# The grammar of documents

What a document spells is said here without a reader: `Spells` relates the symbols of a part to what is
left behind them, one constructor for each form that a part may have, and `Spelled` is a whole document.
A grammar may leave open where a number ends, while a reader takes as many digits as there are. `Stops`
is what has to follow a number, and every symbol that the grammar puts behind one satisfies it. So the
reader of this library reads whatever the grammar derives, as the tree that the grammar gives it
(`Spells.reads`).
-/

set_option autoImplicit false

namespace Muster.Json

open Text (Symbol)

/-! ### Blanks -/

/-- A blank between tokens. -/
def IsBlank (c : Char) : Prop := c = ' ' ∨ c = '\n' ∨ c = '\t' ∨ c = '\r'

/-- Any number of blanks in front of what is left. -/
inductive Blanks : List Symbol → List Symbol → Prop where
  | none {rest : List Symbol} : Blanks rest rest
  | more {c : Char} {text rest : List Symbol} (blank : IsBlank c) (later : Blanks text rest) :
      Blanks (some c :: text) rest

/-! ### Texts -/

/-- The characters of a text up to its closing quote, as themselves or escaped. A character outside the
first plane may be escaped by its two surrogates. -/
inductive Quoted : List Char → List Symbol → List Symbol → Prop where
  | close {rest : List Symbol} : Quoted [] (some '"' :: rest) rest
  | plain {c : Char} {cs : List Char} {text rest : List Symbol} (quote : c ≠ '"') (slash : c ≠ '\\')
      (control : ¬ c.toNat < 32) (later : Quoted cs text rest) : Quoted (c :: cs) (some c :: text) rest
  | escape {letter c : Char} {cs : List Char} {text rest : List Symbol} (known : escape? letter = some c)
      (later : Quoted cs text rest) : Quoted (c :: cs) (some '\\' :: some letter :: text) rest
  | unit {a b c d : Symbol} {u : Nat} {cs : List Char} {text rest : List Symbol}
      (known : unit? a b c d = some u) (whole : ¬ (0xD800 ≤ u ∧ u ≤ 0xDFFF))
      (later : Quoted cs text rest) :
      Quoted (Char.ofNat u :: cs) (some '\\' :: some 'u' :: a :: b :: c :: d :: text) rest
  | pair {a b c d a' b' c' d' : Symbol} {high low : Nat} {cs : List Char} {text rest : List Symbol}
      (first : unit? a b c d = some high) (isHigh : 0xD800 ≤ high ∧ high ≤ 0xDBFF)
      (second : unit? a' b' c' d' = some low) (isLow : 0xDC00 ≤ low ∧ low ≤ 0xDFFF)
      (later : Quoted cs text rest) :
      Quoted (Char.ofNat (0x10000 + (high - 0xD800) * 0x400 + (low - 0xDC00)) :: cs)
        (some '\\' :: some 'u' :: a :: b :: c :: d ::
          some '\\' :: some 'u' :: a' :: b' :: c' :: d' :: text) rest

/-! ### Numbers -/

/-- One digit or more. -/
inductive Digits : List Char → List Symbol → List Symbol → Prop where
  | last {c : Char} {rest : List Symbol} (digit : Text.isDigit c = true) : Digits [c] (some c :: rest) rest
  | more {c : Char} {run : List Char} {text rest : List Symbol} (digit : Text.isDigit c = true)
      (later : Digits run text rest) : Digits (c :: run) (some c :: text) rest

/-- The sign of a number; only a minus is written. -/
inductive Sign : Bool → List Symbol → List Symbol → Prop where
  | plus {rest : List Symbol} : Sign false rest rest
  | minus {rest : List Symbol} : Sign true (some '-' :: rest) rest

/-- The fraction of a number, if it has one. -/
inductive Fraction : Option (List Char) → List Symbol → List Symbol → Prop where
  | absent {rest : List Symbol} : Fraction none rest rest
  | present {run : List Char} {text rest : List Symbol} (digits : Digits run text rest) :
      Fraction (some run) (some '.' :: text) rest

/-- The sign of an exponent, told by whether it is below zero. -/
inductive ExponentSign : Bool → List Symbol → List Symbol → Prop where
  | none {rest : List Symbol} : ExponentSign false rest rest
  | plus {rest : List Symbol} : ExponentSign false (some '+' :: rest) rest
  | minus {rest : List Symbol} : ExponentSign true (some '-' :: rest) rest

/-- The exponent of a number, if it has one. -/
inductive Exponent : Option (Bool × List Char) → List Symbol → List Symbol → Prop where
  | absent {rest : List Symbol} : Exponent none rest rest
  | present {letter : Char} {below : Bool} {run : List Char} {text text' rest : List Symbol}
      (e : letter = 'e' ∨ letter = 'E') (sign : ExponentSign below text text')
      (digits : Digits run text' rest) : Exponent (some (below, run)) (some letter :: text) rest

/-- A number that can be represented. A leading zero stands alone before the point. -/
inductive Numeral (n : Number) : List Symbol → List Symbol → Prop where
  | mk {negative : Bool} {integral : List Char} {fraction : Option (List Char)}
      {exponent : Option (Bool × List Char)} {text₀ text₁ text₂ text₃ rest : List Symbol}
      (sign : Sign negative text₀ text₁) (digits : Digits integral text₁ text₂)
      (zero : ∀ more, integral = '0' :: more → more = []) (broken : Fraction fraction text₂ text₃)
      (scaled : Exponent exponent text₃ rest)
      (value : Number.value negative integral fraction exponent = .ok n) : Numeral n text₀ rest

/-! ### Parts -/

/-- What a stretch of a document stands for. -/
inductive Part where
  | value (node : Node)
  /-- The items of a list that has some, up to its closing bracket. -/
  | items (nodes : List Node)
  /-- The members of an object that has some, up to its closing brace. -/
  | members (members : List (String × Node))

/-- The members of an object as they stand in its tree. -/
def Node.ofNamed (members : List (String × Node)) : List (Lexeme String × Node) :=
  members.map fun member => (.sound member.1, member.2)

/-- A part of at most so many levels, in front of what is left behind it. -/
inductive Spells : Nat → Part → List Symbol → List Symbol → Prop where
  | null {depth : Nat} {rest : List Symbol} :
      Spells depth (.value .null) (some 'n' :: some 'u' :: some 'l' :: some 'l' :: rest) rest
  | yes {depth : Nat} {rest : List Symbol} :
      Spells depth (.value (.bool true)) (some 't' :: some 'r' :: some 'u' :: some 'e' :: rest) rest
  | no {depth : Nat} {rest : List Symbol} : Spells depth (.value (.bool false))
      (some 'f' :: some 'a' :: some 'l' :: some 's' :: some 'e' :: rest) rest
  | number {depth : Nat} {n : Number} {text rest : List Symbol} (numeral : Numeral n text rest) :
      Spells depth (.value (.num (.sound n))) text rest
  | text {depth : Nat} {cs : List Char} {text rest : List Symbol} (quoted : Quoted cs text rest) :
      Spells depth (.value (.str (.sound (String.ofList cs)))) (some '"' :: text) rest
  | noItems {depth : Nat} {text rest : List Symbol} (blanks : Blanks text (some ']' :: rest)) :
      Spells (depth + 1) (.value (.arr [] none)) (some '[' :: text) rest
  | list {depth : Nat} {nodes : List Node} {text text' rest : List Symbol} (blanks : Blanks text text')
      (items : Spells depth (.items nodes) text' rest) :
      Spells (depth + 1) (.value (.arr nodes none)) (some '[' :: text) rest
  | noMembers {depth : Nat} {text rest : List Symbol} (blanks : Blanks text (some '\x7d' :: rest)) :
      Spells (depth + 1) (.value (.obj [] none)) (some '\x7b' :: text) rest
  | object {depth : Nat} {named : List (String × Node)} {text text' rest : List Symbol}
      (blanks : Blanks text text') (members : Spells depth (.members named) text' rest) :
      Spells (depth + 1) (.value (.obj (Node.ofNamed named) none)) (some '\x7b' :: text) rest
  | lastItem {depth : Nat} {node : Node} {text text' rest : List Symbol}
      (value : Spells depth (.value node) text text') (blanks : Blanks text' (some ']' :: rest)) :
      Spells depth (.items [node]) text rest
  | item {depth : Nat} {node : Node} {nodes : List Node} {text text₁ text₂ text₃ rest : List Symbol}
      (value : Spells depth (.value node) text text₁) (before : Blanks text₁ (some ',' :: text₂))
      (after : Blanks text₂ text₃) (later : Spells depth (.items nodes) text₃ rest) :
      Spells depth (.items (node :: nodes)) text rest
  | lastMember {depth : Nat} {cs : List Char} {node : Node} {text text₁ text₂ text₃ text₄ rest : List Symbol}
      (key : Quoted cs text text₁) (before : Blanks text₁ (some ':' :: text₂)) (after : Blanks text₂ text₃)
      (value : Spells depth (.value node) text₃ text₄) (blanks : Blanks text₄ (some '\x7d' :: rest)) :
      Spells depth (.members [(String.ofList cs, node)]) (some '"' :: text) rest
  | member {depth : Nat} {cs : List Char} {node : Node} {named : List (String × Node)}
      {text text₁ text₂ text₃ text₄ text₅ text₆ rest : List Symbol}
      (key : Quoted cs text text₁) (before : Blanks text₁ (some ':' :: text₂)) (after : Blanks text₂ text₃)
      (value : Spells depth (.value node) text₃ text₄) (close : Blanks text₄ (some ',' :: text₅))
      (next : Blanks text₅ text₆) (later : Spells depth (.members named) text₆ rest) :
      Spells depth (.members ((String.ofList cs, node) :: named)) (some '"' :: text) rest

/-- A whole document of at most so many levels: one part between blanks. -/
def Spelled (depth : Nat) (node : Node) (symbols : List Symbol) : Prop :=
  ∃ text rest, Blanks symbols text ∧ Spells depth (.value node) text rest ∧ Blanks rest []

/-! ### What is read between tokens -/

section

variable {text rest : List Symbol} {c : Char}

theorem Blanks.skip (blanks : Blanks text rest) : skipBlanks text = skipBlanks rest := by
  induction blanks with
  | none => rfl
  | more blank later ih =>
    rw [← ih]
    rcases blank with rfl | rfl | rfl | rfl <;> rfl

theorem skipBlanks_solid (solid : ¬ IsBlank c) (rest : List Symbol) :
    skipBlanks (some c :: rest) = some c :: rest := by
  simp only [IsBlank, not_or] at solid
  exact skipBlanks_cons rest ⟨solid.1, solid.2.1, solid.2.2.1, solid.2.2.2⟩

/-- Blanks in front of a part do not change how it is read. -/
theorem readNode_blanks (blanks : Blanks text rest) (fuel : Nat) :
    readNode (fuel + 1) text = readNode (fuel + 1) rest := by
  rw [readNode, readNode, blanks.skip]

/-- Blanks behind an opening bracket are passed over. -/
theorem readNode_open (blanks : Blanks text rest) (fuel : Nat) :
    readNode (fuel + 1) (some '[' :: text) = readNode (fuel + 1) (some '[' :: rest) := by
  rw [readNode, readNode, skipBlanks_solid (by simp [IsBlank]), skipBlanks_solid (by simp [IsBlank])]
  simp only [blanks.skip]

theorem readItems_blanks (blanks : Blanks text rest) (fuel : Nat) :
    readItems (fuel + 2) text = readItems (fuel + 2) rest := by
  rw [readItems, readItems, readNode_blanks blanks]

theorem readMembers_blanks (blanks : Blanks text (some '"' :: rest)) (fuel : Nat) :
    readMembers (fuel + 1) text = readMembers (fuel + 1) (some '"' :: rest) := by
  rw [readMembers, readMembers, blanks.skip]

end

/-! ### Texts are read -/

theorem TextSoFar.pushUnit_whole {u : Nat} (whole : ¬ (0xD800 ≤ u ∧ u ≤ 0xDFFF)) (done : List Char) :
    (TextSoFar.plain done).pushUnit u = .plain (Char.ofNat u :: done) := by
  have low : ¬ (0xDC00 ≤ u ∧ u ≤ 0xDFFF) := by omega
  have high : ¬ (0xD800 ≤ u ∧ u ≤ 0xDBFF) := by omega
  rw [pushUnit, if_neg low, if_neg high, push_plain]

theorem TextSoFar.pushUnit_pair {high low : Nat} (isHigh : 0xD800 ≤ high ∧ high ≤ 0xDBFF)
    (isLow : 0xDC00 ≤ low ∧ low ≤ 0xDFFF) (done : List Char) :
    ((TextSoFar.plain done).pushUnit high).pushUnit low =
      .plain (Char.ofNat (0x10000 + (high - 0xD800) * 0x400 + (low - 0xDC00)) :: done) := by
  have notLow : ¬ (0xDC00 ≤ high ∧ high ≤ 0xDFFF) := by omega
  have waits : (TextSoFar.plain done).pushUnit high = ⟨done, none, false, some high⟩ := by
    rw [pushUnit, if_neg notLow, if_pos isHigh]
    rfl
  rw [waits, pushUnit, if_pos isLow]
  rfl

theorem readText_escape {letter c : Char} (known : escape? letter = some c) (t : TextSoFar)
    (rest : List Symbol) :
    readText t (some '\\' :: some letter :: rest) = readText (t.push c) rest := by
  have other : letter ≠ 'u' := by
    rintro rfl
    cases known
  rw [readText.eq_def]
  grind

/-- A text that the grammar derives is read up to its closing quote. -/
theorem Quoted.reads {cs : List Char} {text rest : List Symbol} (quoted : Quoted cs text rest)
    (done : List Char) :
    readText (.plain done) text = (.sound (String.ofList (done.reverse ++ cs)), rest) := by
  induction quoted generalizing done with
  | close => simp [readText, TextSoFar.close_plain]
  | plain quote slash control later ih =>
    rw [readText_char _ _ quote slash control, TextSoFar.push_plain, ih]
    simp
  | escape known later ih =>
    rw [readText_escape known, TextSoFar.push_plain, ih]
    simp
  | unit known whole later ih =>
    rw [readText_unit _ _ known, TextSoFar.pushUnit_whole whole, ih]
    simp
  | pair first isHigh second isLow later ih =>
    rw [readText_unit _ _ first, readText_unit _ _ second, TextSoFar.pushUnit_pair isHigh isLow, ih]
    simp

/-! ### Numbers are read -/

/-- What may follow a run of digits. -/
def NoDigit (rest : List Symbol) : Prop := ∀ symbol ∈ rest.head?, isDigit symbol = false

/-- What may follow a number. -/
structure Stops (rest : List Symbol) : Prop where
  digit : NoDigit rest
  point : rest.head? ≠ some (some '.')
  small : rest.head? ≠ some (some 'e')
  large : rest.head? ≠ some (some 'E')

section

variable {text rest : List Symbol} {run integral : List Char} {negative : Bool}
  {fraction : Option (List Char)} {exponent : Option (Bool × List Char)}

theorem Digits.head (digits : Digits run text rest) :
    ∃ c more, text = some c :: more ∧ Text.isDigit c = true := by
  cases digits with
  | last digit => exact ⟨_, _, rfl, digit⟩
  | more digit later => exact ⟨_, _, rfl, digit⟩

theorem Digits.ne_nil (digits : Digits run text rest) : run ≠ [] := by
  cases digits <;> exact List.cons_ne_nil _ _

theorem Digits.isDigit (digits : Digits run text rest) : ∀ c ∈ run, Text.isDigit c = true := by
  induction digits with
  | last digit => simpa using digit
  | more digit later ih => simpa using ⟨digit, ih⟩

theorem readDigits_noDigit (stop : NoDigit rest) : readDigits rest = ([], rest) := by
  match rest, stop with
  | [], _ => rfl
  | none :: rest, _ => rfl
  | some c :: rest, stop =>
    have none : Text.isDigit c = false := stop (some c) rfl
    simp [readDigits, none]

theorem Digits.reads (digits : Digits run text rest) (stop : NoDigit rest) :
    readDigits text = (run, rest) := by
  induction digits with
  | last digit => simp [readDigits, digit, readDigits_noDigit stop]
  | more digit later ih => simp [readDigits, digit, ih stop]

theorem Exponent.noDigit (scaled : Exponent exponent text rest) (stops : Stops rest) :
    NoDigit text ∧ text.head? ≠ some (some '.') := by
  cases scaled with
  | absent => exact ⟨stops.digit, stops.point⟩
  | present e sign digits =>
    rcases e with rfl | rfl
    · exact ⟨fun symbol here => by cases here; rfl, by simp⟩
    · exact ⟨fun symbol here => by cases here; rfl, by simp⟩

theorem Exponent.reads (scaled : Exponent exponent text rest) (stops : Stops rest) :
    readExponent negative integral fraction text =
      (⟨Number.value negative integral fraction exponent, none⟩, rest) := by
  cases scaled with
  | absent =>
    match text, stops with
    | [], _ => rfl
    | none :: text, _ => rfl
    | some c :: text, stops =>
      have small : c ≠ 'e' := fun same => stops.small (by rw [same]; rfl)
      have large : c ≠ 'E' := fun same => stops.large (by rw [same]; rfl)
      rw [readExponent.eq_def]
      grind
  | @present letter below run text text' rest e sign digits =>
    have read := digits.reads stops.digit
    have power : readExponent.power negative integral fraction text =
        (⟨Number.value negative integral fraction (some (below, run)), none⟩, rest) := by
      obtain ⟨c, more, rfl, digit⟩ := digits.head
      have some := digits.ne_nil
      have plus : c ≠ '+' := by rintro rfl; cases digit
      have minus : c ≠ '-' := by rintro rfl; cases digit
      cases sign with
      | none =>
        rw [readExponent.power.eq_def]
        grind
      | plus =>
        rw [readExponent.power.eq_def]
        grind
      | minus =>
        rw [readExponent.power.eq_def]
        grind
    rcases e with rfl | rfl <;> exact power

theorem Fraction.noDigit {text' : List Symbol} (broken : Fraction fraction text text')
    (stop : NoDigit text') : NoDigit text := by
  cases broken with
  | absent => exact stop
  | present digits => exact fun symbol here => by cases here; rfl

theorem Fraction.reads {text' : List Symbol} (broken : Fraction fraction text text')
    (scaled : Exponent exponent text' rest) (stops : Stops rest) :
    readFraction negative integral text =
      (⟨Number.value negative integral fraction exponent, none⟩, rest) := by
  obtain ⟨stop, point⟩ := scaled.noDigit stops
  cases broken with
  | absent =>
    rw [← scaled.reads stops, readFraction.eq_def]
    grind
  | present digits =>
    have read := digits.reads stop
    have some := digits.ne_nil
    rw [← scaled.reads stops, readFraction.eq_def]
    grind

end

theorem Digits.readNumber {n : Number} {negative : Bool} {integral : List Char}
    {fraction : Option (List Char)} {exponent : Option (Bool × List Char)}
    {text text₂ text₃ rest : List Symbol} (digits : Digits integral text text₂)
    (zero : ∀ more, integral = '0' :: more → more = []) (broken : Fraction fraction text₂ text₃)
    (scaled : Exponent exponent text₃ rest)
    (value : Number.value negative integral fraction exponent = .ok n) (stops : Stops rest) :
    Json.readNumber negative text = (.sound n, rest) := by
  have read := digits.reads (broken.noDigit (scaled.noDigit stops).1)
  have fractional : readFraction negative integral text₂ =
      (⟨Number.value negative integral fraction exponent, none⟩, rest) := broken.reads scaled stops
  have some := digits.ne_nil
  rw [value] at fractional
  rw [Json.readNumber, read]
  split
  · next none => exact absurd (congrArg Prod.fst none) some
  · next two =>
    obtain ⟨first, -⟩ := Prod.mk.inj two
    exact absurd (zero _ first) (by simp)
  · next known =>
    obtain ⟨rfl, rfl⟩ := Prod.mk.inj known
    exact fractional

/-- A number that the grammar derives is read as far as it goes. -/
theorem Numeral.reads {n : Number} {text rest : List Symbol} (numeral : Numeral n text rest)
    (stops : Stops rest) (fuel : Nat) : readNode (fuel + 1) text = (.num (.sound n), rest) := by
  obtain ⟨sign, digits, zero, broken, scaled, value⟩ := numeral
  have read := digits.readNumber zero broken scaled value stops
  cases sign with
  | plus =>
    obtain ⟨c, more, rfl, digit⟩ := digits.head
    rw [readNode_digit _ _ digit, read]
  | minus => simp [readNode, skipBlanks, read]

/-- Digits that are all gathered are those of a number that fits. -/
theorem Number.digitsValue?_of_gather {run : List Char} {acc n : Nat} (small : acc ≤ bound)
    (digits : ∀ c ∈ run, Text.isDigit c = true) (gathered : gather acc run = (n, [])) :
    Text.digitsValue? acc run = some n ∧ n ≤ bound := by
  induction run generalizing acc with
  | nil =>
    cases gathered
    exact ⟨rfl, small⟩
  | cons c run ih =>
    rw [gather] at gathered
    split at gathered
    · cases gathered
    · next fits =>
      have digit := digits c List.mem_cons_self
      obtain ⟨value, fits'⟩ := ih (by omega) (fun d here => digits d (List.mem_cons_of_mem _ here)) gathered
      exact ⟨by simpa [Text.digitsValue?, Text.digitValue?, digit] using value, fits'⟩

/-- A natural number is what has neither sign nor fraction nor exponent and fits sixty-four bits. -/
theorem Number.value_eq_nat_iff {negative : Bool} {integral : List Char} {fraction : Option (List Char)}
    {exponent : Option (Bool × List Char)} {k : UInt64}
    (digits : ∀ c ∈ integral, Text.isDigit c = true) :
    Number.value negative integral fraction exponent = .ok (.nat k) ↔
      negative = false ∧ fraction = none ∧ exponent = none ∧
        Text.digitsValue? 0 integral = some k.toNat := by
  have notReal {negative : Bool} {significand : Nat} {e : Int} :
      realOf negative significand e ≠ .ok (.nat k) := by
    unfold realOf
    split <;> simp
  constructor
  · intro known
    obtain ⟨⟨significand, beyond⟩, gathered⟩ : ∃ out, gather 0 integral = out := ⟨_, rfl⟩
    simp only [Number.value, gathered] at known
    split at known
    · next plain =>
      simp only [Bool.and_eq_true, List.isEmpty_iff, Option.isNone_iff_eq_none] at plain
      obtain ⟨⟨rfl, rfl⟩, rfl⟩ := plain
      obtain ⟨value, fits⟩ := digitsValue?_of_gather (Nat.zero_le _) digits gathered
      split at known
      · next positive =>
        have same : significand.toUInt64 = k := Number.nat.inj (Except.ok.inj known)
        have whole : k.toNat = significand := by
          rw [← same, Nat.toUInt64, UInt64.toNat_ofNat']
          exact Nat.mod_eq_of_lt (Nat.lt_of_le_of_lt fits (by decide))
        exact ⟨by simpa using positive, rfl, rfl, whole ▸ value⟩
      · split at known
        · cases known
        · exact absurd known notReal
    · exfalso
      split at known
      · exact notReal known
      · split at known
        · split at known
          · cases known
          · exact notReal known
        · exact notReal known
  · rintro ⟨rfl, rfl, rfl, value⟩
    have fits : k.toNat ≤ bound := Nat.le_pred_of_lt k.toNat_lt
    simp [Number.value, gather_digits value fits]

/-- A natural number is spelled by its digits alone, without a leading zero. -/
theorem numeral_nat_iff {k : UInt64} {text rest : List Symbol} :
    Numeral (.nat k) text rest ↔ ∃ run, Digits run text rest ∧
      (∀ more, run = '0' :: more → more = []) ∧ Text.digitsValue? 0 run = some k.toNat := by
  constructor
  · rintro ⟨sign, digits, zero, broken, scaled, known⟩
    obtain ⟨rfl, rfl, rfl, value⟩ := (Number.value_eq_nat_iff digits.isDigit).1 known
    cases sign
    cases broken
    cases scaled
    exact ⟨_, digits, zero, value⟩
  · rintro ⟨run, digits, zero, value⟩
    exact .mk .plus digits zero .absent .absent
      ((Number.value_eq_nat_iff digits.isDigit).2 ⟨rfl, rfl, rfl, value⟩)

/-! ### Where a part begins and ends -/

section

variable {depth : Nat} {part : Part} {text rest : List Symbol}

theorem Stops.of_cons {c : Char} (closes : c = ',' ∨ c = ']' ∨ c = '\x7d') (rest : List Symbol) :
    Stops (some c :: rest) := by
  constructor
  · intro symbol here
    cases here
    rcases closes with rfl | rfl | rfl <;> rfl
  all_goals rcases closes with rfl | rfl | rfl <;> simp

theorem Stops.nil : Stops [] := by
  constructor <;> simp [NoDigit]

theorem Blanks.stops (blanks : Blanks text rest) (stops : Stops rest) : Stops text := by
  cases blanks with
  | none => exact stops
  | more blank later =>
    constructor
    · intro symbol here
      cases here
      rcases blank with rfl | rfl | rfl | rfl <;> rfl
    all_goals rcases blank with rfl | rfl | rfl | rfl <;> simp

theorem Numeral.head {n : Number} (numeral : Numeral n text rest) :
    ∃ c more, text = some c :: more ∧ (c = '-' ∨ Text.isDigit c = true) := by
  obtain ⟨sign, digits, -, -, -, -⟩ := numeral
  cases sign with
  | plus =>
    obtain ⟨c, more, rfl, digit⟩ := digits.head
    exact ⟨c, more, rfl, .inr digit⟩
  | minus => exact ⟨_, _, rfl, .inl rfl⟩

/-- A part begins with its first token, which closes nothing. -/
theorem Spells.head (spells : Spells depth part text rest) :
    ∃ c more, text = some c :: more ∧ ¬ IsBlank c ∧ c ≠ ']' := by
  induction spells with
  | number numeral =>
    obtain ⟨c, more, same, first⟩ := numeral.head
    refine ⟨c, more, same, ?_, ?_⟩
    · rintro (rfl | rfl | rfl | rfl) <;> revert first <;> decide
    · rintro rfl
      revert first
      decide
  | lastItem value blanks ih => exact ih
  | item value before after later ih ih' => exact ih
  | _ => exact ⟨_, _, rfl, by simp [IsBlank], by decide⟩

/-- The members of an object begin with a quote. -/
theorem Spells.quote {named : List (String × Node)} (spells : Spells depth (.members named) text rest) :
    ∃ more, text = some '"' :: more := by
  cases spells <;> exact ⟨_, rfl⟩

theorem Blanks.length_le (blanks : Blanks text rest) : rest.length ≤ text.length := by
  induction blanks with
  | none => exact Nat.le_refl _
  | more blank later ih => exact Nat.le_succ_of_le ih

theorem Quoted.length_lt {cs : List Char} (quoted : Quoted cs text rest) : rest.length < text.length := by
  induction quoted with
  | close => exact Nat.lt_succ_self _
  | _ => simp only [List.length_cons]; omega

theorem Digits.length_lt {run : List Char} (digits : Digits run text rest) : rest.length < text.length := by
  induction digits with
  | last digit => exact Nat.lt_succ_self _
  | more digit later ih => exact Nat.lt_succ_of_lt ih

theorem Numeral.length_lt {n : Number} (numeral : Numeral n text rest) : rest.length < text.length := by
  obtain ⟨sign, digits, -, broken, scaled, -⟩ := numeral
  have first := digits.length_lt
  have second : ∀ {f t t'}, Fraction f t t' → t'.length ≤ t.length := by
    intro f t t' broken
    cases broken with
    | absent => exact Nat.le_refl _
    | present digits => exact Nat.le_succ_of_le (Nat.le_of_lt digits.length_lt)
  have third : ∀ {e t t'}, Exponent e t t' → t'.length ≤ t.length := by
    intro e t t' scaled
    cases scaled with
    | absent => exact Nat.le_refl _
    | present e sign digits =>
      have run := digits.length_lt
      cases sign <;> simp only [List.length_cons] at run ⊢ <;> omega
  have fourth := second broken
  have fifth := third scaled
  cases sign with
  | plus => omega
  | minus =>
    simp only [List.length_cons]
    omega

theorem Spells.length_lt (spells : Spells depth part text rest) : rest.length < text.length := by
  induction spells with
  | number numeral => exact numeral.length_lt
  | text quoted => exact Nat.lt_succ_of_lt quoted.length_lt
  | noItems blanks =>
    have blank := blanks.length_le
    simp only [List.length_cons] at blank ⊢
    omega
  | list blanks items ih =>
    have blank := blanks.length_le
    simp only [List.length_cons]
    omega
  | noMembers blanks =>
    have blank := blanks.length_le
    simp only [List.length_cons] at blank ⊢
    omega
  | object blanks members ih =>
    have blank := blanks.length_le
    simp only [List.length_cons]
    omega
  | lastItem value blanks ih =>
    have blank := blanks.length_le
    simp only [List.length_cons] at blank
    omega
  | item value before after later ih ih' =>
    have blank := before.length_le
    have blank' := after.length_le
    simp only [List.length_cons] at blank
    omega
  | lastMember key before after value blanks ih =>
    have name := key.length_lt
    have blank := before.length_le
    have blank' := after.length_le
    have last := blanks.length_le
    simp only [List.length_cons] at blank last ⊢
    omega
  | member key before after value close next later ih ih' =>
    have name := key.length_lt
    have blank := before.length_le
    have blank' := after.length_le
    have last := close.length_le
    have last' := next.length_le
    simp only [List.length_cons] at blank last ⊢
    omega
  | _ => simp only [List.length_cons]; omega

end

/-! ### Parts are read -/

/-- A part is read from a text, up to what is left behind it. The fuel counts two steps for every symbol:
one for the part that starts there and one for the item of a list or an object that it may be. -/
def Part.ReadOff (part : Part) (text rest : List Symbol) : Prop :=
  match part with
  | .value node => ∀ fuel, Stops rest → 2 * text.length ≤ fuel → readNode fuel text = (node, rest)
  | .items nodes => ∀ fuel, 2 * text.length + 1 ≤ fuel → readItems fuel text = (nodes, none, rest)
  | .members named => ∀ fuel, 2 * text.length + 1 ≤ fuel →
    readMembers fuel text = (Node.ofNamed named, none, rest)

/-- Nothing is wrong with what the grammar derives. -/
theorem Spells.skip {depth : Nat} {node : Node} {text rest : List Symbol}
    (spells : Spells depth (.value node) text rest) : node.skip = none := by
  cases spells <;> rfl

/-- **What the grammar derives is read**, as the tree that the grammar gives it. -/
theorem Spells.reads {depth : Nat} {part : Part} {text rest : List Symbol}
    (spells : Spells depth part text rest) : part.ReadOff text rest := by
  have fuelled {text : List Symbol} {fuel : Nat} (some : text ≠ []) (enough : 2 * text.length ≤ fuel) :
      ∃ more, fuel = more + 2 := by
    have := List.length_pos_iff.2 some
    exact ⟨fuel - 2, by omega⟩
  induction spells with
  | null =>
    intro fuel _ enough
    obtain ⟨fuel, rfl⟩ := fuelled (by simp) enough
    simp [readNode, skipBlanks, readWord]
  | yes =>
    intro fuel _ enough
    obtain ⟨fuel, rfl⟩ := fuelled (by simp) enough
    simp [readNode, skipBlanks, readWord]
  | no =>
    intro fuel _ enough
    obtain ⟨fuel, rfl⟩ := fuelled (by simp) enough
    simp [readNode, skipBlanks, readWord]
  | number numeral =>
    intro fuel stops enough
    obtain ⟨c, more, rfl, -⟩ := numeral.head
    obtain ⟨fuel, rfl⟩ := fuelled (by simp) enough
    exact numeral.reads stops _
  | text quoted =>
    intro fuel _ enough
    obtain ⟨fuel, rfl⟩ := fuelled (by simp) enough
    have read := quoted.reads []
    simp only [List.reverse_nil, List.nil_append] at read
    have started : TextSoFar.start = .plain [] := rfl
    simp [readNode, skipBlanks, started, read]
  | noItems blanks =>
    intro fuel _ enough
    obtain ⟨fuel, rfl⟩ := fuelled (by simp) enough
    simp [readNode, skipBlanks, blanks.skip]
  | list blanks items ih =>
    intro fuel _ enough
    obtain ⟨fuel, rfl⟩ := fuelled (by simp) enough
    obtain ⟨c, more, rfl, solid, more'⟩ := items.head
    have blank := blanks.length_le
    have read := ih (fuel + 1) (by simp only [List.length_cons] at enough blank ⊢; omega)
    have solid' : c ≠ ' ' ∧ c ≠ '\n' ∧ c ≠ '\t' ∧ c ≠ '\r' := by simpa [IsBlank] using solid
    have opened := readNode_list (fuel + 1) more solid' more'
    rw [read] at opened
    rw [← opened, readNode_open blanks]
  | noMembers blanks =>
    intro fuel _ enough
    obtain ⟨fuel, rfl⟩ := fuelled (by simp) enough
    simp [readNode, skipBlanks, blanks.skip]
  | object blanks members ih =>
    intro fuel _ enough
    obtain ⟨fuel, rfl⟩ := fuelled (by simp) enough
    obtain ⟨more, rfl⟩ := members.quote
    have blank := blanks.length_le
    have read := ih (fuel + 1) (by simp only [List.length_cons] at enough blank ⊢; omega)
    simp [readNode, skipBlanks, blanks.skip, read]
  | lastItem value blanks ih =>
    intro fuel enough
    obtain ⟨fuel, rfl⟩ : ∃ more, fuel = more + 1 := ⟨fuel - 1, by omega⟩
    have read := ih fuel (blanks.stops (.of_cons (.inr (.inl rfl)) _)) (by omega)
    simp [readItems, read, value.skip, blanks.skip, skipBlanks]
  | item value before after later ih ih' =>
    intro fuel enough
    have shorter := value.length_lt
    have blank := before.length_le
    have blank' := after.length_le
    simp only [List.length_cons] at blank
    obtain ⟨fuel, rfl⟩ : ∃ more, fuel = more + 3 := ⟨fuel - 3, by omega⟩
    have read := ih (fuel + 2) (before.stops (.of_cons (.inl rfl) _)) (by omega)
    have read' := ih' (fuel + 2) (by omega)
    rw [← readItems_blanks after] at read'
    rw [readItems, read]
    simp [value.skip, before.skip, skipBlanks, read']
  | lastMember key before after value blanks ih =>
    intro fuel enough
    have shorter := key.length_lt
    have blank := before.length_le
    have blank' := after.length_le
    simp only [List.length_cons] at blank enough
    obtain ⟨fuel, rfl⟩ : ∃ more, fuel = more + 2 := ⟨fuel - 2, by omega⟩
    have named := key.reads []
    have read := ih (fuel + 1) (blanks.stops (.of_cons (.inr (.inr rfl)) _)) (by omega)
    rw [← readNode_blanks after] at read
    have started : TextSoFar.start = .plain [] := rfl
    rw [readMembers, skipBlanks_solid (by simp [IsBlank])]
    simp [started, named, Lexeme.sound, before.skip, skipBlanks, read, value.skip, blanks.skip,
      Node.ofNamed]
  | member key before after value close next later ih ih' =>
    intro fuel enough
    have name := key.length_lt
    have shorter := value.length_lt
    have blank := before.length_le
    have blank' := after.length_le
    have last := close.length_le
    have last' := next.length_le
    simp only [List.length_cons] at blank last enough
    obtain ⟨fuel, rfl⟩ : ∃ more, fuel = more + 2 := ⟨fuel - 2, by omega⟩
    have named := key.reads []
    have read := ih (fuel + 1) (close.stops (.of_cons (.inl rfl) _)) (by omega)
    rw [← readNode_blanks after] at read
    have read' := ih' (fuel + 1) (by omega)
    obtain ⟨more, rfl⟩ := later.quote
    rw [← readMembers_blanks next] at read'
    have started : TextSoFar.start = .plain [] := rfl
    rw [readMembers, skipBlanks_solid (by simp [IsBlank])]
    simp [started, named, Lexeme.sound, before.skip, skipBlanks, read, value.skip, close.skip, read',
      Node.ofNamed]

/-! ### Documents are read -/

/-- What the grammar derives is sound, and as deep as it says. -/
theorem Spells.check {depth : Nat} {part : Part} {text rest : List Symbol}
    (spells : Spells depth part text rest) :
    match part with
    | .value node => node.check depth = .ok ()
    | .items nodes => Node.checkItems depth nodes = .ok ()
    | .members named => Node.checkMembers depth (Node.ofNamed named) = .ok () := by
  induction spells with
  | list blanks items ih => simp_all [Node.check]
  | object blanks members ih => simp_all [Node.check]
  | item value before after later ih ih' => simp_all [Node.checkItems]
  | lastItem value blanks ih => simp_all [Node.checkItems]
  | member key before after value close next later ih ih' =>
    simp_all [Node.checkMembers, Node.ofNamed, Lexeme.sound]
  | lastMember key before after value blanks ih =>
    simp_all [Node.checkMembers, Node.ofNamed, Lexeme.sound]
  | _ => rfl

/-- **A document that the grammar derives is read**, and nothing is left behind it. -/
theorem Spelled.reads {depth : Nat} {node : Node} {symbols : List Symbol}
    (spelled : Spelled depth node symbols) : Document.ofSymbols symbols = ⟨node, false⟩ := by
  obtain ⟨text, rest, before, spells, behind⟩ := spelled
  have shorter := before.length_le
  have read := spells.reads (2 * symbols.length + 2) (behind.stops .nil) (by omega)
  rw [← readNode_blanks before] at read
  simp [Document.ofSymbols, read, behind.skip, skipBlanks]

end Muster.Json
