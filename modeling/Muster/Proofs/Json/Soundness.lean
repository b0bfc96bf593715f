import Muster.Proofs.Json.Grammar

/-!
# What is read is spelled

The reader turns every run of symbols into a tree and marks its faults there. A tree without faults, no
deeper than some number of levels, is therefore the whole verdict: the symbols are a document of that
depth (`Spelled`) exactly if their tree passes `Node.check` and nothing stands behind it
(`spelled_iff`). The leaves come first, each by the recursion of its reader; the parts follow by
induction on the fuel, values, items and members at once.

A text is read with a state: the first half of a surrogate pair may still wait for the second one, and
a fault, once met, stays to the end.
-/

set_option autoImplicit false

namespace Muster.Json

open Text (Symbol)

/-! ### Blanks -/

theorem blanks_skipBlanks (text : List Symbol) : Blanks text (skipBlanks text) := by
  fun_induction skipBlanks text with
  | case1 rest ih => exact .more (.inl rfl) ih
  | case2 rest ih => exact .more (.inr (.inl rfl)) ih
  | case3 rest ih => exact .more (.inr (.inr (.inl rfl))) ih
  | case4 rest ih => exact .more (.inr (.inr (.inr rfl))) ih
  | case5 rest => exact .none

theorem Blanks.of_skipBlanks {text rest : List Symbol} (left : skipBlanks text = rest) :
    Blanks text rest := left ▸ blanks_skipBlanks text

theorem Blanks.trans {text text' rest : List Symbol} (first : Blanks text text')
    (second : Blanks text' rest) : Blanks text rest := by
  induction first with
  | none => exact second
  | more blank later ih => exact .more blank (ih second)

/-! ### Texts -/

namespace TextSoFar

/-- The value of the text is lost. -/
def Spoilt (t : TextSoFar) : Prop := t.fault.isSome = true ∨ t.stray = true

theorem Spoilt.settle {t : TextSoFar} (spoilt : t.Spoilt) : t.settle.Spoilt := by
  unfold TextSoFar.settle
  split
  · exact spoilt
  · rcases spoilt with fault | stray
    · exact .inl (by simp)
    · exact .inr stray

theorem Spoilt.push {t : TextSoFar} (spoilt : t.Spoilt) (c : Char) : (t.push c).Spoilt :=
  spoilt.settle

theorem Spoilt.pushUnit {t : TextSoFar} (spoilt : t.Spoilt) (u : Nat) : (t.pushUnit u).Spoilt := by
  unfold TextSoFar.pushUnit
  split
  · split
    · exact spoilt
    · rcases spoilt with fault | stray
      · exact .inl (by simp)
      · exact .inr stray
  · split
    · exact spoilt.settle
    · exact spoilt.push _

theorem Spoilt.close {t : TextSoFar} (spoilt : t.settle.Spoilt) (s : String) :
    t.close.value ≠ .ok s := by
  rcases spoilt with fault | stray
  · obtain ⟨f, fault⟩ := Option.isSome_iff_exists.1 fault
    simp [TextSoFar.close, fault]
  · unfold TextSoFar.close
    dsimp only
    split
    · simp
    · simp [stray]

/-- A half of a surrogate pair that waits while anything else comes is a fault. -/
theorem spoilt_settle {t : TextSoFar} {high : Nat} (waits : t.high = some high) : t.settle.Spoilt := by
  simp only [TextSoFar.settle, waits]
  exact .inl (by cases t.fault <;> rfl)

theorem spoilt_pushStray (t : TextSoFar) : t.pushStray.Spoilt := .inr rfl

/-- One more character is kept, unless half of a pair waits. -/
theorem push_cases (t : TextSoFar) (c : Char) :
    (t.push c).Spoilt ∨ t.high = none ∧ (t.push c).done = c :: t.done ∧ (t.push c).high = none := by
  cases waits : t.high with
  | some high => exact .inl (t.spoilt_settle waits)
  | none => exact .inr ⟨rfl, by simp [push, settle, waits]⟩

/-- One more code unit ends the pair that waits for it, begins a pair or is a character. -/
theorem pushUnit_cases (t : TextSoFar) (u : Nat) :
    (t.pushUnit u).Spoilt ∨
    (∃ high, t.high = some high ∧ (0xDC00 ≤ u ∧ u ≤ 0xDFFF) ∧
      (t.pushUnit u).done = Char.ofNat (0x10000 + (high - 0xD800) * 0x400 + (u - 0xDC00)) :: t.done ∧
      (t.pushUnit u).high = none) ∨
    (t.high = none ∧ (0xD800 ≤ u ∧ u ≤ 0xDBFF) ∧ (t.pushUnit u).done = t.done ∧
      (t.pushUnit u).high = some u) ∨
    (t.high = none ∧ ¬ (0xD800 ≤ u ∧ u ≤ 0xDFFF) ∧ (t.pushUnit u).done = Char.ofNat u :: t.done ∧
      (t.pushUnit u).high = none) := by
  unfold pushUnit
  by_cases low : 0xDC00 ≤ u ∧ u ≤ 0xDFFF
  · rw [if_pos low]
    cases waits : t.high with
    | none => exact .inl (.inl (by cases t.fault <;> rfl))
    | some high => exact .inr (.inl ⟨high, rfl, low, rfl, rfl⟩)
  rw [if_neg low]
  by_cases isHigh : 0xD800 ≤ u ∧ u ≤ 0xDBFF
  · rw [if_pos isHigh]
    cases waits : t.high with
    | none => exact .inr (.inr (.inl ⟨rfl, isHigh, by simp [settle, waits]⟩))
    | some high => exact .inl (t.spoilt_settle waits)
  rw [if_neg isHigh]
  rcases t.push_cases (Char.ofNat u) with spoilt | ⟨settled, done, high⟩
  · exact .inl spoilt
  · exact .inr (.inr (.inr ⟨settled, by omega, done, high⟩))

/-- A text that is closed with a value had no fault and no half of a pair waiting. -/
theorem close_sound {t : TextSoFar} {s : String} (value : t.close.value = .ok s) :
    t.close = .sound s ∧ t.high = none ∧ s = String.ofList t.done.reverse := by
  cases waits : t.high with
  | some high => exact absurd value (Spoilt.close (t.spoilt_settle waits) s)
  | none =>
    have settled : t.settle = t := by simp [settle, waits]
    have kept := value
    unfold close at kept
    rw [settled] at kept
    refine ⟨by simpa [close, Lexeme.sound] using value, rfl, ?_⟩
    grind

end TextSoFar

/-- A text that is spoilt has no value in the end. -/
theorem readText_spoilt {t : TextSoFar} (text : List Symbol) (spoilt : t.Spoilt) (s : String) :
    (readText t text).1.value ≠ .ok s := by
  fun_induction readText t text with
  | case2 t rest => exact TextSoFar.Spoilt.close spoilt.settle s
  | case3 t a b c d rest u known ih => exact ih (spoilt.pushUnit u)
  | case6 t c rest more letter e known ih => exact ih (spoilt.push e)
  | case11 t c rest quote unit letter escape cut stray control ih => exact ih (spoilt.push c)
  | case12 t rest ih => exact ih t.spoilt_pushStray
  | _ => simp [TextSoFar.broken]

/-- The characters up to the closing quote, where the first half of a surrogate pair may have been read
already: the second half comes first then. -/
def QuotedBehind (high : Option Nat) (cs : List Char) (text rest : List Symbol) : Prop :=
  match high with
  | none => Quoted cs text rest
  | some high => ∃ a b c d low cs' text', text = some '\\' :: some 'u' :: a :: b :: c :: d :: text' ∧
      unit? a b c d = some low ∧ (0xDC00 ≤ low ∧ low ≤ 0xDFFF) ∧
      cs = Char.ofNat (0x10000 + (high - 0xD800) * 0x400 + (low - 0xDC00)) :: cs' ∧
      Quoted cs' text' rest

/-- A text with a value is one that the grammar derives. -/
theorem readText_sound {t : TextSoFar} {text : List Symbol} {s : String}
    (value : (readText t text).1.value = .ok s) :
    (readText t text).1 = .sound s ∧ ∃ cs, s = String.ofList (t.done.reverse ++ cs) ∧
      QuotedBehind t.high cs text (readText t text).2 := by
  fun_induction readText t text with
  | case2 t rest =>
    obtain ⟨sound, settled, same⟩ := TextSoFar.close_sound value
    exact ⟨sound, [], by simpa using same, settled ▸ .close⟩
  | case3 t a b c d rest u known ih =>
    obtain ⟨sound, cs, same, quoted⟩ := ih value
    refine ⟨sound, ?_⟩
    rcases t.pushUnit_cases u with spoilt | ⟨high, waits, low, done, none⟩ | ⟨settled, isHigh, done, waits⟩ |
      ⟨settled, whole, done, none⟩
    · exact absurd value (readText_spoilt rest spoilt s)
    · rw [done] at same
      rw [none] at quoted
      rw [waits]
      exact ⟨_, by simpa using same, a, b, c, d, u, cs, rest, rfl, known, low, rfl, quoted⟩
    · rw [waits] at quoted
      obtain ⟨a', b', c', d', low, cs, text', rfl, known', isLow, rfl, quoted⟩ := quoted
      refine ⟨_, by rw [same, done], ?_⟩
      rw [settled]
      exact Quoted.pair known isHigh known' isLow quoted
    · rw [done] at same
      rw [none] at quoted
      exact ⟨Char.ofNat u :: cs, by simpa using same, settled ▸ .unit known whole quoted⟩
  | case6 t c rest more letter e known ih =>
    obtain ⟨sound, cs, same, quoted⟩ := ih value
    rcases t.push_cases e with spoilt | ⟨settled, done, none⟩
    · exact absurd value (readText_spoilt rest spoilt s)
    rw [done] at same
    rw [none] at quoted
    exact ⟨sound, e :: cs, by simpa using same, settled ▸ .escape known quoted⟩
  | case11 t c rest quote unit letter escape cut stray control ih =>
    obtain ⟨sound, cs, same, quoted⟩ := ih value
    rcases t.push_cases c with spoilt | ⟨settled, done, none⟩
    · exact absurd value (readText_spoilt rest spoilt s)
    rw [done] at same
    rw [none] at quoted
    have slash : c ≠ '\\' := by
      match rest with
      | [] => exact cut rfl
      | some c' :: rest => exact escape c' rest rfl
      | Option.none :: rest => exact stray rest rfl
    exact ⟨sound, c :: cs, by simpa using same, settled ▸ .plain quote slash control quoted⟩
  | case12 t rest ih => exact absurd value (readText_spoilt _ t.spoilt_pushStray s)
  | _ => simp [TextSoFar.broken] at value

/-! ### Numbers -/

theorem readDigits_nil {text rest : List Symbol} (read : readDigits text = ([], rest)) : rest = text := by
  fun_induction readDigits text with
  | case1 => cases read
  | _ => exact (Prod.mk.inj read).2.symm

theorem readDigits_sound {text rest : List Symbol} {run : List Char}
    (read : readDigits text = (run, rest)) (some : run ≠ []) : Digits run text rest := by
  fun_induction readDigits text generalizing run with
  | case1 c text digit run' rest' read' ih =>
    obtain ⟨rfl, rfl⟩ := Prod.mk.inj read
    by_cases last : run' = []
    · subst last
      exact readDigits_nil read' ▸ .last digit
    · exact .more digit (ih read' last)
  | _ => exact absurd (Prod.mk.inj read).1.symm some

theorem Lexeme.eq_sound {α : Type} {value : Except Fault α} {a : α} (known : value = .ok a) :
    Lexeme.mk value none = .sound a := known ▸ rfl

/-- A number that breaks off has no value. -/
theorem numberFault_value (rest : List Symbol) (n : Number) : (numberFault rest).value ≠ .ok n :=
  nofun

section

variable {negative : Bool} {integral : List Char} {fraction : Option (List Char)}
  {text rest : List Symbol} {n : Number} {lexeme : Lexeme Number}

theorem readExponent_sound (read : readExponent negative integral fraction text = (lexeme, rest))
    (value : lexeme.value = .ok n) :
    lexeme = .sound n ∧ ∃ exponent, Exponent exponent text rest ∧
      Number.value negative integral fraction exponent = .ok n := by
  have power {letter : Char} {text : List Symbol} (e : letter = 'e' ∨ letter = 'E')
      (read : readExponent.power negative integral fraction text = (lexeme, rest)) :
      lexeme = .sound n ∧ ∃ exponent, Exponent exponent (some letter :: text) rest ∧
        Number.value negative integral fraction exponent = .ok n := by
    revert read
    fun_cases readExponent.power negative integral fraction text with
    | case1 below text' signed rest' found =>
      rintro ⟨⟩
      exact absurd value (numberFault_value _ n)
    | case2 below text' signed run rest' some found =>
      rintro ⟨⟩
      have sign : ExponentSign below text text' := by
        split at signed
        all_goals
          obtain ⟨rfl, rfl⟩ := Prod.mk.inj signed
          constructor
      exact ⟨Lexeme.eq_sound value, _, .present e sign (readDigits_sound found some), value⟩
  rw [readExponent.eq_def] at read
  split at read
  · exact power (.inl rfl) read
  · exact power (.inr rfl) read
  · obtain ⟨rfl, rfl⟩ := Prod.mk.inj read
    exact ⟨Lexeme.eq_sound value, none, .absent, value⟩

theorem readFraction_sound (read : readFraction negative integral text = (lexeme, rest))
    (value : lexeme.value = .ok n) :
    lexeme = .sound n ∧ ∃ fraction exponent text', Fraction fraction text text' ∧
      Exponent exponent text' rest ∧ Number.value negative integral fraction exponent = .ok n := by
  rw [readFraction.eq_def] at read
  split at read
  · split at read
    · obtain ⟨rfl, rfl⟩ := Prod.mk.inj read
      exact absurd value (numberFault_value _ n)
    · next run text' some found =>
      obtain ⟨sound, exponent, scaled, known⟩ := readExponent_sound read value
      exact ⟨sound, _, exponent, text', .present (readDigits_sound found some), scaled, known⟩
  · obtain ⟨sound, exponent, scaled, known⟩ := readExponent_sound read value
    exact ⟨sound, none, exponent, _, .absent, scaled, known⟩

/-- A number with a value is one that the grammar derives. -/
theorem readNumber_sound {text₀ : List Symbol} (sign : Sign negative text₀ text)
    (read : readNumber negative text = (lexeme, rest)) (value : lexeme.value = .ok n) :
    lexeme = .sound n ∧ Numeral n text₀ rest := by
  unfold readNumber at read
  split at read
  · obtain ⟨rfl, rfl⟩ := Prod.mk.inj read
    exact absurd value (numberFault_value _ n)
  · obtain ⟨rfl, rfl⟩ := Prod.mk.inj read
    cases value
  · next run text₂ some zero found =>
    obtain ⟨sound, fraction, exponent, text₃, broken, scaled, known⟩ := readFraction_sound read value
    refine ⟨sound, .mk sign (readDigits_sound found some) ?_ broken scaled known⟩
    rintro (_ | ⟨c, more⟩) rfl
    · rfl
    · exact absurd rfl (zero c more)

end

/-! ### Constants -/

theorem readWord_sound {node found : Node} {word : List Char} {text rest : List Symbol} {depth : Nat}
    (read : readWord node word text = (found, rest)) (sound : found.check depth = .ok ()) :
    found = node ∧ text = word.map some ++ rest := by
  fun_induction readWord node word text with
  | case1 rest' =>
    obtain ⟨rfl, rfl⟩ := Prod.mk.inj read
    exact ⟨rfl, rfl⟩
  | case2 c word =>
    obtain ⟨rfl, rfl⟩ := Prod.mk.inj read
    cases sound
  | case3 c word rest' ih =>
    obtain ⟨rfl, rfl⟩ := ih read
    exact ⟨rfl, rfl⟩
  | case4 =>
    obtain ⟨rfl, rfl⟩ := Prod.mk.inj read
    cases sound

/-! ### Parts -/

/-- The value of a token that has one. -/
theorem Node.check_num {depth : Nat} {number : Lexeme Number}
    (sound : (Node.num number).check depth = .ok ()) : ∃ n, number.value = .ok n := by
  cases found : number.value with
  | ok n => exact ⟨n, rfl⟩
  | error f => simp [Node.check, found, Except.map] at sound

theorem Node.check_str {depth : Nat} {text : Lexeme String}
    (sound : (Node.str text).check depth = .ok ()) : ∃ s, text.value = .ok s := by
  cases found : text.value with
  | ok s => exact ⟨s, rfl⟩
  | error f => simp [Node.check, found, Except.map] at sound

/-- Of a sound list every item is sound, and it is closed. -/
theorem Node.check_arr {depth : Nat} {nodes : List Node} {ending : Option Fault}
    (sound : (Node.arr nodes ending).check depth = .ok ()) :
    ∃ less, depth = less + 1 ∧ Node.checkItems less nodes = .ok () ∧ ending = none := by
  cases depth with
  | zero => cases sound
  | succ depth =>
    refine ⟨depth, rfl, ?_⟩
    simp only [Node.check] at sound
    grind

theorem Node.check_obj {depth : Nat} {members : List (Lexeme String × Node)} {ending : Option Fault}
    (sound : (Node.obj members ending).check depth = .ok ()) :
    ∃ less, depth = less + 1 ∧ Node.checkMembers less members = .ok () ∧ ending = none := by
  cases depth with
  | zero => cases sound
  | succ depth =>
    refine ⟨depth, rfl, ?_⟩
    simp only [Node.check] at sound
    grind

/-- What every reader of parts has to do with so much fuel. -/
def SoundAt (fuel : Nat) : Prop :=
  (∀ {depth text node rest}, readNode fuel text = (node, rest) → node.check depth = .ok () →
    Spells depth (.value node) (skipBlanks text) rest) ∧
  (∀ {depth text nodes rest}, readItems fuel text = (nodes, none, rest) →
    Node.checkItems depth nodes = .ok () → Spells depth (.items nodes) (skipBlanks text) rest) ∧
  (∀ {depth text members rest}, readMembers fuel text = (members, none, rest) →
    Node.checkMembers depth members = .ok () →
    ∃ named, members = Node.ofNamed named ∧ Spells depth (.members named) (skipBlanks text) rest)

theorem readNode_sound {fuel depth : Nat} {text rest : List Symbol} {node : Node} (later : SoundAt fuel)
    (read : readNode (fuel + 1) text = (node, rest)) (sound : node.check depth = .ok ()) :
    Spells depth (.value node) (skipBlanks text) rest := by
  unfold readNode at read
  split at read
  · obtain ⟨rfl, rfl⟩ := Prod.mk.inj read
    cases sound
  · next first =>
    obtain ⟨rfl, rfl⟩ := readWord_sound read sound
    exact first ▸ .null
  · next first =>
    obtain ⟨rfl, rfl⟩ := readWord_sound read sound
    exact first ▸ .yes
  · next first =>
    obtain ⟨rfl, rfl⟩ := readWord_sound read sound
    exact first ▸ .no
  · next text' first =>
    obtain ⟨rfl, rfl⟩ := Prod.mk.inj read
    obtain ⟨s, value⟩ := Node.check_str sound
    obtain ⟨kept, cs, rfl, quoted⟩ := readText_sound value
    rw [kept, first]
    exact .text quoted
  · next text' first =>
    obtain ⟨rfl, rfl⟩ := Prod.mk.inj read
    obtain ⟨n, value⟩ := Node.check_num sound
    obtain ⟨kept, numeral⟩ := readNumber_sound .minus rfl value
    rw [kept, first]
    exact .number numeral
  · next text' first =>
    rw [first]
    split at read
    · next closed =>
      obtain ⟨rfl, rfl⟩ := Prod.mk.inj read
      obtain ⟨depth, rfl, -, -⟩ := Node.check_arr sound
      exact .noItems (.of_skipBlanks closed)
    · obtain ⟨⟨nodes, ending, rest'⟩, found⟩ : ∃ out, readItems fuel (skipBlanks text') = out := ⟨_, rfl⟩
      rw [found] at read
      obtain ⟨rfl, rfl⟩ := Prod.mk.inj read
      obtain ⟨depth, rfl, items, rfl⟩ := Node.check_arr sound
      have spelled := later.2.1 found items
      rw [← (blanks_skipBlanks text').skip] at spelled
      exact .list (blanks_skipBlanks text') spelled
  · next text' first =>
    rw [first]
    split at read
    · next closed =>
      obtain ⟨rfl, rfl⟩ := Prod.mk.inj read
      obtain ⟨depth, rfl, -, -⟩ := Node.check_obj sound
      exact .noMembers (.of_skipBlanks closed)
    · obtain ⟨⟨members, ending, rest'⟩, found⟩ : ∃ out, readMembers fuel (skipBlanks text') = out :=
        ⟨_, rfl⟩
      rw [found] at read
      obtain ⟨rfl, rfl⟩ := Prod.mk.inj read
      obtain ⟨depth, rfl, members, rfl⟩ := Node.check_obj sound
      obtain ⟨named, rfl, spelled⟩ := later.2.2 found members
      rw [← (blanks_skipBlanks text').skip] at spelled
      exact .object (blanks_skipBlanks text') spelled
  · next c text' _ _ _ _ _ _ _ first =>
    split at read
    · obtain ⟨rfl, rfl⟩ := Prod.mk.inj read
      obtain ⟨n, value⟩ := Node.check_num sound
      obtain ⟨kept, numeral⟩ := readNumber_sound .plus rfl value
      rw [kept, first]
      exact .number numeral
    · obtain ⟨rfl, rfl⟩ := Prod.mk.inj read
      cases sound
  · obtain ⟨rfl, rfl⟩ := Prod.mk.inj read
    cases sound

/-- A sound item is passed over without a fault. -/
theorem Node.checkItems_cons {depth : Nat} {node : Node} {nodes : List Node}
    (sound : Node.checkItems depth (node :: nodes) = .ok ()) :
    node.check depth = .ok () ∧ Node.checkItems depth nodes = .ok () := by
  simp only [Node.checkItems] at sound
  grind

theorem Node.checkMembers_cons {depth : Nat} {key : Lexeme String} {node : Node}
    {members : List (Lexeme String × Node)}
    (sound : Node.checkMembers depth ((key, node) :: members) = .ok ()) :
    (∃ name, key.value = .ok name) ∧ node.check depth = .ok () ∧
      Node.checkMembers depth members = .ok () := by
  simp only [Node.checkMembers] at sound
  grind

theorem readItems_sound {fuel depth : Nat} {text rest : List Symbol} {nodes : List Node}
    (later : SoundAt fuel) (read : readItems (fuel + 1) text = (nodes, none, rest))
    (sound : Node.checkItems depth nodes = .ok ()) : Spells depth (.items nodes) (skipBlanks text) rest := by
  unfold readItems at read
  dsimp only at read
  split at read
  · cases read
  split at read
  · next closed =>
    cases read
    obtain ⟨item, -⟩ := Node.checkItems_cons sound
    exact .lastItem (later.1 rfl item) (.of_skipBlanks closed)
  · next text' comma =>
    obtain ⟨⟨nodes, ending, rest'⟩, found⟩ : ∃ out, readItems fuel text' = out := ⟨_, rfl⟩
    rw [found] at read
    cases read
    obtain ⟨item, items⟩ := Node.checkItems_cons sound
    exact .item (later.1 rfl item) (.of_skipBlanks comma) (blanks_skipBlanks text')
      (later.2.1 found items)
  · cases read

theorem readMembers_sound {fuel depth : Nat} {text rest : List Symbol}
    {members : List (Lexeme String × Node)} (later : SoundAt fuel)
    (read : readMembers (fuel + 1) text = (members, none, rest))
    (sound : Node.checkMembers depth members = .ok ()) :
    ∃ named, members = Node.ofNamed named ∧ Spells depth (.members named) (skipBlanks text) rest := by
  unfold readMembers at read
  split at read
  · next text₁ quote =>
    rw [quote]
    dsimp only at read
    split at read
    · cases read
    split at read
    · next text₂ colon =>
      split at read
      · cases read
      split at read
      · next closed =>
        cases read
        obtain ⟨⟨name, named⟩, value, -⟩ := Node.checkMembers_cons sound
        obtain ⟨kept, cs, rfl, quoted⟩ := readText_sound named
        rw [kept]
        exact ⟨[(String.ofList cs, _)], rfl, .lastMember quoted (.of_skipBlanks colon)
          (blanks_skipBlanks text₂) (later.1 rfl value) (.of_skipBlanks closed)⟩
      · next text₃ comma =>
        obtain ⟨⟨members, ending, rest'⟩, found⟩ : ∃ out, readMembers fuel text₃ = out := ⟨_, rfl⟩
        rw [found] at read
        cases read
        obtain ⟨⟨name, named⟩, value, others⟩ := Node.checkMembers_cons sound
        obtain ⟨kept, cs, rfl, quoted⟩ := readText_sound named
        obtain ⟨more, rfl, spelled⟩ := later.2.2 found others
        rw [kept]
        exact ⟨(String.ofList cs, _) :: more, rfl, .member quoted (.of_skipBlanks colon)
          (blanks_skipBlanks text₂) (later.1 rfl value) (.of_skipBlanks comma)
          (blanks_skipBlanks text₃) spelled⟩
      · cases read
    · cases read
  · cases read

theorem soundAt (fuel : Nat) : SoundAt fuel := by
  induction fuel with
  | zero =>
    refine ⟨fun read sound => ?_, fun read => ?_, fun read => ?_⟩
    · cases read
      cases sound
    · cases read
    · cases read
  | succ fuel ih => exact ⟨readNode_sound ih, readItems_sound ih, readMembers_sound ih⟩

/-- **A document is spelled exactly if its tree is sound** and nothing stands behind it. -/
theorem spelled_iff {depth : Nat} {node : Node} {symbols : List Symbol} :
    Spelled depth node symbols ↔
      Document.ofSymbols symbols = ⟨node, false⟩ ∧ node.check depth = .ok () := by
  constructor
  · intro spelled
    refine ⟨spelled.reads, ?_⟩
    obtain ⟨text, rest, -, spells, -⟩ := spelled
    exact spells.check
  · rintro ⟨read, sound⟩
    obtain ⟨⟨root, rest⟩, found⟩ : ∃ out, readNode (2 * symbols.length + 2) symbols = out := ⟨_, rfl⟩
    rw [Document.ofSymbols, found] at read
    obtain ⟨rfl, behind⟩ := Document.mk.inj read
    refine ⟨skipBlanks symbols, rest, blanks_skipBlanks symbols, (soundAt _).1 found sound, ?_⟩
    exact .of_skipBlanks (by simpa using behind)

end Muster.Json
