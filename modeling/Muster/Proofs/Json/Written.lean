import Muster.Proofs.Json.Grammar

/-!
# What is written is spelled

Both forms of a document, the compact one and the one with a member to a line, are derived by the grammar
as the tree of the document (`spells_write`, `spells_writePretty`). The reader reads whatever the grammar
derives, so either form reads back (`Document.read_compact`, `Document.read_pretty`), whatever characters
the texts are made of and however deep the parts lie: what the records of this library put into a document,
the readers of this library get out of it.
-/

set_option autoImplicit false

namespace Muster.Json

open Text (Symbol)

/-! ### Texts -/

theorem unit?_low : ∀ n < 16,
    unit? (some '0') (some '0') (some '0') (some (Nat.digitChar n)) = some n := by
  decide

theorem unit?_high : ∀ n < 16,
    unit? (some '0') (some '0') (some '1') (some (Nat.digitChar n)) = some (16 + n) := by
  decide

/-- An escaped character is spelled: the control characters without an escape of their own through their
code unit, all others through one letter or as themselves. -/
theorem Quoted.escaped {cs text : List Char} {rest : List Symbol} (c : Char)
    (later : Quoted cs (text.map some) rest) : Quoted (c :: cs) ((Json.escaped c ++ text).map some) rest := by
  have unit {a b c' d : Symbol} (small : c.toNat < 32) (known : unit? a b c' d = some c.toNat) :
      Quoted (c :: cs) (some '\\' :: some 'u' :: a :: b :: c' :: d :: text.map some) rest := by
    have whole := Quoted.unit known (by omega) later
    rwa [Char.ofNat_toNat] at whole
  unfold Json.escaped
  split
  case h_8 quote slash _ _ _ _ _ =>
    split
    · next low => exact unit (by omega) (unit?_low _ low)
    · split
      · next high =>
        refine unit high ?_
        rw [unit?_high _ (by omega)]
        exact congrArg some (by omega)
      · next control => exact .plain quote slash control later
  all_goals exact .escape rfl later

theorem quoted_writeChars (cs rest : List Char) :
    Quoted cs ((writeChars cs ('"' :: rest)).map some) (rest.map some) := by
  induction cs with
  | nil => exact .close
  | cons c cs ih => exact .escaped c ih

/-! ### Numbers -/

theorem Digits.of_all {run : List Char} (some : run ≠ []) (digits : ∀ c ∈ run, Text.isDigit c = true)
    (rest : List Char) : Digits run ((run ++ rest).map Option.some) (rest.map Option.some) := by
  induction run with
  | nil => exact absurd rfl some
  | cons c run ih =>
    have digit := digits c List.mem_cons_self
    cases run with
    | nil => exact .last digit
    | cons d run =>
      exact .more digit (ih (List.cons_ne_nil _ _) fun d here => digits d (List.mem_cons_of_mem _ here))

theorem numeral_digits (n : UInt64) (rest : List Char) :
    Numeral (.nat n) ((Text.digits n.toNat ++ rest).map some) (rest.map some) := by
  obtain ⟨c, run, digits, -, zero⟩ := digits_eq_cons n.toNat
  refine numeral_nat_iff.2 ⟨Text.digits n.toNat, ?_, ?_, Text.digitsValue?_digits _⟩
  · exact .of_all (digits ▸ List.cons_ne_nil _ _) (isDigit_digits _) rest
  · rintro more first
    obtain ⟨rfl, rfl⟩ := List.cons.inj (digits.symm.trans first)
    exact zero rfl

/-! ### Parts -/

/-- The members of a document as the grammar names them. -/
def namedTrees (members : List (String × Json)) : List (String × Node) :=
  members.map fun member => (member.1, Node.ofJson member.2)

theorem Node.ofMembers_eq_ofNamed (members : List (String × Json)) :
    Node.ofMembers members = Node.ofNamed (namedTrees members) := by
  induction members with
  | nil => rfl
  | cons member members ih =>
    rw [Node.ofMembers, ih]
    rfl

section

variable {depth : Nat}

theorem Spells.string (s : String) (rest : List Char) :
    Spells depth (.value (.str (.sound s))) ((writeText s rest).map some) (rest.map some) := by
  have spelled : Spells depth _ _ _ := .text (quoted_writeChars s.toList rest)
  rwa [String.ofList_toList] at spelled

/-- The last member of an object, in front of its closing brace. -/
theorem Spells.lastNamed {node : Node} {text text' text'' : List Char} {rest : List Symbol} (key : String)
    (after : Blanks (text.map some) (text'.map some))
    (value : Spells depth (.value node) (text'.map some) (text''.map some))
    (blanks : Blanks (text''.map some) (some '\x7d' :: rest)) :
    Spells depth (.members [(key, node)]) ((writeText key (':' :: text)).map some) rest := by
  have spelled := Spells.lastMember (quoted_writeChars key.toList (':' :: text)) .none after value blanks
  rwa [String.ofList_toList] at spelled

/-- A member of an object, in front of others. -/
theorem Spells.moreNamed {node : Node} {members : List (String × Node)} {text text' : List Char}
    {text₁ text₂ rest : List Symbol} (key : String) (after : Blanks (text.map some) (text'.map some))
    (value : Spells depth (.value node) (text'.map some) (some ',' :: text₁))
    (next : Blanks text₁ text₂) (later : Spells depth (.members members) text₂ rest) :
    Spells depth (.members ((key, node) :: members)) ((writeText key (':' :: text)).map some) rest := by
  have spelled :=
    Spells.member (quoted_writeChars key.toList (':' :: text)) .none after value .none next later
  rwa [String.ofList_toList] at spelled

end

mutual

/-- **The compact form of a document is spelled.** -/
theorem spells_write : ∀ (j : Json) {depth : Nat} (_ : sizeOf j ≤ depth) (rest : List Char),
    Spells depth (.value (Node.ofJson j)) ((j.write rest).map some) (rest.map some)
  | .null, _, _, _ => .null
  | .bool true, _, _, _ => .yes
  | .bool false, _, _, _ => .no
  | .nat n, _, _, rest => .number (numeral_digits n rest)
  | .str s, _, _, rest => .string s rest
  | .arr items, 0, small, _ => by simp at small
  | .obj members, 0, small, _ => by simp at small
  | .arr [], depth + 1, _, _ => .noItems .none
  | .obj [], depth + 1, _, _ => .noMembers .none
  | .arr (item :: items), depth + 1, small, rest => by
    have fits : sizeOf (item :: items) ≤ depth := by
      rw [arr.sizeOf_spec] at small
      omega
    exact .list .none (spells_writeItems item items fits rest)
  | .obj (member :: members), depth + 1, small, rest => by
    have fits : sizeOf (member :: members) ≤ depth := by
      rw [obj.sizeOf_spec] at small
      omega
    rw [Node.ofJson, Node.ofMembers_eq_ofNamed]
    exact .object .none (spells_writeMembers member members fits rest)

theorem spells_writeItems : ∀ (item : Json) (items : List Json) {depth : Nat}
    (_ : sizeOf (item :: items) ≤ depth) (rest : List Char),
    Spells depth (.items (Node.ofItems (item :: items))) ((writeItems (item :: items) rest).map some)
      (rest.map some)
  | item, [], _, small, rest => by
    rw [List.cons.sizeOf_spec] at small
    exact .lastItem (spells_write item (by omega) (']' :: rest)) .none
  | item, next :: items, _, small, rest => by
    rw [List.cons.sizeOf_spec] at small
    exact .item (spells_write item (by omega) (',' :: writeItems (next :: items) rest)) .none .none
      (spells_writeItems next items (by omega) rest)

theorem spells_writeMembers : ∀ (member : String × Json) (members : List (String × Json)) {depth : Nat}
    (_ : sizeOf (member :: members) ≤ depth) (rest : List Char),
    Spells depth (.members (namedTrees (member :: members))) ((writeMembers (member :: members) rest).map some)
      (rest.map some)
  | (key, value), [], _, small, rest => by
    rw [List.cons.sizeOf_spec, Prod.mk.sizeOf_spec] at small
    exact .lastNamed key .none (spells_write value (by omega) ('\x7d' :: rest)) .none
  | (key, value), next :: members, _, small, rest => by
    rw [List.cons.sizeOf_spec, Prod.mk.sizeOf_spec] at small
    exact .moreNamed key .none (spells_write value (by omega) (',' :: writeMembers (next :: members) rest))
      .none (spells_writeMembers next members (by omega) rest)

end

theorem blanks_indent (depth : Nat) (rest : List Char) :
    Blanks ((indent depth rest).map some) (rest.map some) := by
  refine .more (.inr (.inl rfl)) ?_
  induction 2 * depth with
  | zero => exact .none
  | succ n ih => exact .more (.inl rfl) ih

mutual

/-- **The form with a member to a line is spelled.** -/
theorem spells_writePretty : ∀ (j : Json) {depth : Nat} (_ : sizeOf j ≤ depth) (level : Nat)
    (rest : List Char),
    Spells depth (.value (Node.ofJson j)) ((j.writePretty level rest).map some) (rest.map some)
  | .null, _, _, _, _ => .null
  | .bool true, _, _, _, _ => .yes
  | .bool false, _, _, _, _ => .no
  | .nat n, _, _, _, rest => .number (numeral_digits n rest)
  | .str s, _, _, _, rest => .string s rest
  | .arr items, 0, small, _, _ => by simp at small
  | .obj members, 0, small, _, _ => by simp at small
  | .arr [], depth + 1, _, _, _ => .noItems .none
  | .obj [], depth + 1, _, _, _ => .noMembers .none
  | .arr (item :: items), depth + 1, small, level, rest => by
    have fits : sizeOf (item :: items) ≤ depth := by
      rw [arr.sizeOf_spec] at small
      omega
    obtain ⟨text, blanks, items⟩ := spells_writePrettyItems item items fits level rest
    exact .list blanks items
  | .obj (member :: members), depth + 1, small, level, rest => by
    have fits : sizeOf (member :: members) ≤ depth := by
      rw [obj.sizeOf_spec] at small
      omega
    obtain ⟨text, blanks, members⟩ := spells_writePrettyMembers member members fits level rest
    rw [Node.ofJson, Node.ofMembers_eq_ofNamed]
    exact .object blanks members
termination_by j => sizeOf j

theorem spells_writePrettyItems : ∀ (item : Json) (items : List Json) {depth : Nat}
    (_ : sizeOf (item :: items) ≤ depth) (level : Nat) (rest : List Char), ∃ text,
    Blanks ((writePrettyItems level (item :: items) rest).map some) text ∧
      Spells depth (.items (Node.ofItems (item :: items))) text (rest.map some)
  | item, [], _, small, level, rest => by
    rw [List.cons.sizeOf_spec] at small
    exact ⟨_, blanks_indent _ _, .lastItem (spells_writePretty item (by omega) (level + 1) _)
      (blanks_indent level (']' :: rest))⟩
  | item, next :: items, depth, small, level, rest => by
    rw [List.cons.sizeOf_spec] at small
    have fits : sizeOf (next :: items) ≤ depth := by omega
    obtain ⟨text, blanks, later⟩ := spells_writePrettyItems next items fits level rest
    exact ⟨_, blanks_indent _ _,
      .item (spells_writePretty item (by omega) (level + 1) (',' :: _)) .none blanks later⟩
termination_by item items => sizeOf (item :: items)

theorem spells_writePrettyMembers : ∀ (member : String × Json) (members : List (String × Json))
    {depth : Nat} (_ : sizeOf (member :: members) ≤ depth) (level : Nat) (rest : List Char), ∃ text,
    Blanks ((writePrettyMembers level (member :: members) rest).map some) text ∧
      Spells depth (.members (namedTrees (member :: members))) text (rest.map some)
  | (key, value), [], _, small, level, rest => by
    rw [List.cons.sizeOf_spec, Prod.mk.sizeOf_spec] at small
    exact ⟨_, blanks_indent _ _, .lastNamed key (.more (.inl rfl) .none)
      (spells_writePretty value (by omega) (level + 1) _) (blanks_indent level ('\x7d' :: rest))⟩
  | (key, value), next :: members, depth, small, level, rest => by
    rw [List.cons.sizeOf_spec, Prod.mk.sizeOf_spec] at small
    have fits : sizeOf (next :: members) ≤ depth := by omega
    obtain ⟨text, blanks, later⟩ := spells_writePrettyMembers next members fits level rest
    exact ⟨_, blanks_indent _ _, .moreNamed key (.more (.inl rfl) .none)
      (spells_writePretty value (by omega) (level + 1) (',' :: _)) blanks later⟩
termination_by member members => sizeOf (member :: members)

end

/-! ### Documents -/

/-- A part that takes up a whole text is all that is read. -/
theorem Document.read_spells {depth : Nat} {node : Node} {cs : List Char}
    (spells : Spells depth (.value node) (cs.map some) []) :
    Document.read (String.ofList cs).toUTF8 = ⟨node, false⟩ := by
  rw [Document.read, Text.symbols_toUTF8, String.toList_ofList]
  exact Spelled.reads ⟨_, _, .none, spells, .none⟩

/-- **A written document reads as its tree**, and nothing stands behind it. -/
theorem Document.read_compact (j : Json) :
    Document.read j.compact.toUTF8 = ⟨Node.ofJson j, false⟩ :=
  read_spells (spells_write j (Nat.le_refl _) [])

/-- **A document written with a member to a line reads as its tree**, and nothing stands behind it. -/
theorem Document.read_pretty (j : Json) :
    Document.read j.pretty.toUTF8 = ⟨Node.ofJson j, false⟩ :=
  read_spells (spells_writePretty j (Nat.le_refl _) 0 [])

end Muster.Json
