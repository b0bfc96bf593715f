import Mathlib.Data.List.TakeWhile
import Muster.Shell.Token

/-!
# The grammar of command lines

How a shell cuts a command line is said here without fuel: `Lexes` relates what is left of a line, behind
a word that may have been begun, to its tokens, one constructor for each rule. The readers of what stands
between quotes and of what a dollar sign asks for take characters and give none back, so a line has fuel
enough for each rule to be followed to its end. `tokens_eq_some_iff` states that the tokens of a line are
those that the grammar gives it.
-/

set_option autoImplicit false

namespace Muster.Shell

/-! ### What the readers leave behind -/

/-- What stands up to a closing single quote holds none. -/
theorem readSingle_eq_some_iff {rest inner later : List Char} :
    readSingle rest = some (inner, later) ↔ rest = inner ++ '\'' :: later ∧ '\'' ∉ inner := by
  induction rest generalizing inner with
  | nil => simp [readSingle]
  | cons c rest ih =>
    by_cases closes : c = '\''
    · subst closes
      cases inner with
      | nil => simp [readSingle, eq_comm]
      | cons d inner => grind [readSingle]
    · cases inner with
      | nil => simp [readSingle, closes]
      | cons d inner =>
        simp only [readSingle, Option.map_eq_some_iff, Prod.exists, Prod.mk.injEq,
          List.cons.injEq, List.cons_append, List.mem_cons]
        grind

theorem length_readBracket {opening closing : Char} {fuel depth : Nat} {rest inner later : List Char}
    (reads : readBracket opening closing fuel depth rest = some (inner, later)) :
    later.length < rest.length := by
  fun_induction readBracket opening closing fuel depth rest generalizing inner with
  | case1 => cases reads
  | case2 => cases reads
  | case3 fuel depth c rest ih =>
    obtain ⟨⟨_, _⟩, found, same⟩ := Option.map_eq_some_iff.1 reads
    cases same
    exact (ih found).trans (Nat.lt_succ_of_lt (Nat.lt_succ_self _))
  | case4 fuel depth rest ih =>
    obtain ⟨⟨hidden, _⟩, single, reads⟩ := Option.bind_eq_some_iff.1 reads
    obtain ⟨⟨_, _⟩, found, same⟩ := Option.map_eq_some_iff.1 reads
    cases same
    have shorter := ih _ found
    rw [(readSingle_eq_some_iff.1 single).1, List.length_cons, List.length_append, List.length_cons]
    omega
  | case5 =>
    cases reads
    exact Nat.lt_succ_self _
  | case6 fuel rest depth _ _ ih =>
    obtain ⟨⟨_, _⟩, found, same⟩ := Option.map_eq_some_iff.1 reads
    cases same
    exact (ih found).trans (Nat.lt_succ_self _)
  | case7 fuel depth c rest _ _ _ deeper =>
    rename_i ih
    obtain ⟨⟨_, _⟩, found, same⟩ := Option.map_eq_some_iff.1 reads
    cases same
    exact (ih found).trans (Nat.lt_succ_self _)

theorem length_readBackquote {rest line later : List Char}
    (reads : readBackquote rest = some (line, later)) : later.length < rest.length := by
  fun_induction readBackquote rest generalizing line with
  | case1 => cases reads
  | case2 =>
    cases reads
    exact Nat.lt_succ_self _
  | case3 rest ih | case4 rest ih | case5 rest ih =>
    obtain ⟨⟨_, _⟩, found, same⟩ := Option.map_eq_some_iff.1 reads
    cases same
    exact (ih found).trans (Nat.lt_succ_of_lt (Nat.lt_succ_self _))
  | case6 c rest _ _ _ _ ih =>
    obtain ⟨⟨_, _⟩, found, same⟩ := Option.map_eq_some_iff.1 reads
    cases same
    exact (ih found).trans (Nat.lt_succ_self _)

/-- Whether a dollar sign in front of a character asks for something. -/
def isAsked (c : Char) : Bool := c = '(' || c = '\x7b' || beginsName c || isSpecialParameter c

/-- A dollar sign stands for itself unless something that it asks for stands behind it. -/
theorem readDollar_none_iff {rest later : List Char} :
    readDollar rest = some (none, later) ↔ later = rest ∧ rest.head?.any isAsked = false := by
  unfold readDollar
  split
  · simp [isAsked]
  · simp [isAsked]
  · next c rest group brace =>
    split
    · next name => simp [isAsked, name]
    · next name =>
      split
      · next special => simp [isAsked, special]
      · next special =>
        have unasked : isAsked c = false := by
          simp only [isAsked, Bool.or_eq_false_iff, decide_eq_false_iff_not]
          exact ⟨⟨⟨group, brace⟩, by simpa using name⟩, by simpa using special⟩
        simp [unasked, eq_comm]
  · simp [eq_comm]

theorem length_readDollar {found : Option Expansion} {rest later : List Char}
    (reads : readDollar rest = some (found, later)) : later.length ≤ rest.length := by
  unfold readDollar at reads
  split at reads
  · obtain ⟨⟨_, _⟩, found, same⟩ := Option.map_eq_some_iff.1 reads
    cases same
    exact (length_readBracket found).le.trans (Nat.le_succ _)
  · obtain ⟨⟨_, _⟩, found, same⟩ := Option.map_eq_some_iff.1 reads
    cases same
    exact (length_readBracket found).le.trans (Nat.le_succ _)
  · split at reads
    · cases reads
      exact (List.length_dropWhile_le ..).trans (Nat.le_succ _)
    · split at reads
      · cases reads
        exact Nat.le_succ _
      · cases reads
        exact Nat.le_refl _
  · cases reads
    exact Nat.le_refl _

/-- Pieces between double quotes take a character each, and so does the closing quote. -/
theorem length_readDouble {fuel : Nat} {rest later : List Char} {pieces : List Piece}
    (reads : readDouble fuel rest = some (pieces, later)) :
    pieces.length + later.length < rest.length := by
  fun_induction readDouble fuel rest generalizing pieces with
  | case1 => cases reads
  | case2 => cases reads
  | case3 =>
    cases reads
    simp
  | case4 fuel rest ih => exact (ih reads).trans (Nat.lt_succ_of_lt (Nat.lt_succ_self _))
  | case5 fuel c rest _ here =>
    rename_i ih
    obtain ⟨⟨pieces, _⟩, found, same⟩ := Option.map_eq_some_iff.1 reads
    cases same
    have shorter := ih found
    have few : here.length ≤ 2 := by
      simp only [here]
      split <;> simp
    simp only [List.length_append, List.length_cons]
    omega
  | case6 fuel rest ih =>
    obtain ⟨⟨_, behind⟩, dollar, reads⟩ := Option.bind_eq_some_iff.1 reads
    obtain ⟨⟨pieces, _⟩, found, same⟩ := Option.map_eq_some_iff.1 reads
    cases same
    have shorter := ih _ found
    have left := length_readDollar dollar
    simp only [List.length_cons]
    omega
  | case7 fuel rest ih =>
    obtain ⟨⟨_, behind⟩, backquote, reads⟩ := Option.bind_eq_some_iff.1 reads
    obtain ⟨⟨pieces, _⟩, found, same⟩ := Option.map_eq_some_iff.1 reads
    cases same
    have shorter := ih _ found
    have left := length_readBackquote backquote
    simp only [List.length_cons]
    omega
  | case8 fuel c rest _ _ _ _ _ ih =>
    obtain ⟨⟨pieces, _⟩, found, same⟩ := Option.map_eq_some_iff.1 reads
    cases same
    have shorter := ih found
    simp only [List.length_cons]
    omega

/-- An operator has a character at least. -/
theorem length_operatorAt_pos (c : Char) (rest : List Char) : 0 < (operatorAt (c :: rest)).length := by
  have long : ∀ operator ∈ longOperators, 0 < operator.length := by decide
  rw [operatorAt]
  cases found : longOperators.find? fun operator => operator.isPrefixOf (c :: rest) with
  | none => simp
  | some operator => exact long operator (List.mem_of_find?_eq_some found)

/-! ### The grammar of a line -/

/-- Whether a character is one of those that rule how a line is cut. -/
def isRuling (c : Char) : Bool := "'\"\\$`".toList.contains c || isGap c || beginsOperator c

/-- The tokens of what is left of a line, behind the pieces of a word that has been begun. -/
inductive Lexes : Option (List Piece) → List Char → List Token → Prop where
  | done {word : Option (List Piece)} : Lexes word [] (closeWord word [])
  | single {word : Option (List Piece)} {inner later : List Char} {ts : List Token}
      (hidden : '\'' ∉ inner) (goesOn : Lexes (some (word.getD [] ++ inner.map .quoted)) later ts) :
      Lexes word ('\'' :: (inner ++ '\'' :: later)) ts
  | double {word : Option (List Piece)} {rest later : List Char} {pieces : List Piece} {ts : List Token}
      (reads : readDouble (rest.length + 1) rest = some (pieces, later))
      (goesOn : Lexes (some (word.getD [] ++ pieces)) later ts) : Lexes word ('"' :: rest) ts
  | continued {word : Option (List Piece)} {rest : List Char} {ts : List Token}
      (goesOn : Lexes word rest ts) : Lexes word ('\\' :: '\n' :: rest) ts
  | escaped {word : Option (List Piece)} {c : Char} {rest : List Char} {ts : List Token}
      (here : c ≠ '\n') (goesOn : Lexes (some (word.getD [] ++ [.quoted c])) rest ts) :
      Lexes word ('\\' :: c :: rest) ts
  | last {word : Option (List Piece)} {ts : List Token}
      (goesOn : Lexes (some (word.getD [] ++ [.quoted '\\'])) [] ts) : Lexes word ['\\'] ts
  | expansion {word : Option (List Piece)} {rest later : List Char} {e : Expansion} {ts : List Token}
      (reads : readDollar rest = some (some e, later))
      (goesOn : Lexes (some (word.getD [] ++ [.expansion false e])) later ts) :
      Lexes word ('$' :: rest) ts
  | dollar {word : Option (List Piece)} {rest : List Char} {ts : List Token}
      (unasked : rest.head?.any isAsked = false)
      (goesOn : Lexes (some (word.getD [] ++ [.plain '$'])) rest ts) : Lexes word ('$' :: rest) ts
  | backquote {word : Option (List Piece)} {rest line later : List Char} {ts : List Token}
      (reads : readBackquote rest = some (line, later))
      (goesOn : Lexes
        (some (word.getD [] ++ [.expansion false (.command (String.ofList line))])) later ts) :
      Lexes word ('`' :: rest) ts
  | gap {word : Option (List Piece)} {c : Char} {rest : List Char} {ts : List Token}
      (parts : isGap c = true) (goesOn : Lexes none rest ts) : Lexes word (c :: rest) (closeWord word ts)
  | comment {rest : List Char} {ts : List Token} (goesOn : Lexes none (rest.dropWhile (· ≠ '\n')) ts) :
      Lexes none ('#' :: rest) ts
  | redirection {word : Option (List Piece)} {digits : List Char} {c : Char} {rest : List Char}
      {ts : List Token} (stream : streamDigits? word = some digits) (directs : c = '<' ∨ c = '>')
      (goesOn : Lexes none ((c :: rest).drop (operatorAt (c :: rest)).length) ts) :
      Lexes word (c :: rest) (.operator (String.ofList (digits ++ operatorAt (c :: rest))) :: ts)
  | operator {word : Option (List Piece)} {c : Char} {rest : List Char} {ts : List Token}
      (operates : beginsOperator c = true) (apart : streamDigits? word = none ∨ ¬ (c = '<' ∨ c = '>'))
      (goesOn : Lexes none ((c :: rest).drop (operatorAt (c :: rest)).length) ts) :
      Lexes word (c :: rest) (closeWord word (.operator (String.ofList (operatorAt (c :: rest))) :: ts))
  | ordinary {word : Option (List Piece)} {c : Char} {rest : List Char} {ts : List Token}
      (free : isRuling c = false) (inside : c = '#' → word ≠ none)
      (goesOn : Lexes (some (word.getD [] ++ [pieceOf word.isNone c])) rest ts) : Lexes word (c :: rest) ts

variable {fuel : Nat} {word : Option (List Piece)} {rest : List Char} {ts : List Token}

/-- What has been cut into tokens follows the grammar. -/
theorem Lexes.of_tokensFrom (reads : tokensFrom fuel word rest = some ts) : Lexes word rest ts := by
  fun_induction tokensFrom fuel word rest generalizing ts with
  | case1 => cases reads
  | case2 =>
    cases reads
    exact .done
  | case3 fuel word begun rest =>
    rename_i ih
    obtain ⟨⟨inner, later⟩, single, onward⟩ := Option.bind_eq_some_iff.1 reads
    obtain ⟨rfl, hidden⟩ := readSingle_eq_some_iff.1 single
    exact .single hidden (ih _ _ onward)
  | case4 fuel word begun rest =>
    rename_i ih
    obtain ⟨⟨pieces, later⟩, double, onward⟩ := Option.bind_eq_some_iff.1 reads
    exact .double double (ih _ _ onward)
  | case5 fuel word rest ih => exact .continued (ih reads)
  | case6 fuel word begun c rest here =>
    rename_i ih
    exact .escaped here (ih reads)
  | case7 fuel word begun =>
    rename_i ih
    exact .last (ih reads)
  | case8 fuel word begun rest =>
    rename_i ih
    obtain ⟨⟨found, later⟩, dollar, onward⟩ := Option.bind_eq_some_iff.1 reads
    cases found with
    | none =>
      obtain ⟨rfl, unasked⟩ := readDollar_none_iff.1 dollar
      exact .dollar unasked (ih none _ onward)
    | some e => exact .expansion dollar (ih (some e) _ onward)
  | case9 fuel word begun rest =>
    rename_i ih
    obtain ⟨⟨line, later⟩, backquote, onward⟩ := Option.bind_eq_some_iff.1 reads
    exact .backquote backquote (ih _ _ onward)
  | case10 fuel word c tail _ _ _ _ _ _ _ parts ih =>
    obtain ⟨later, onward, rfl⟩ := Option.map_eq_some_iff.1 reads
    exact .gap parts (ih onward)
  | case11 fuel word c tail _ _ _ _ _ _ _ _ comment ih =>
    obtain ⟨rfl, none⟩ := comment
    obtain rfl := Option.isNone_iff_eq_none.1 none
    exact .comment (ih reads)
  -- The digits in front of an operator belong to it if it is a redirection, and are a word otherwise.
  | case12 fuel word c tail _ _ _ _ _ _ _ _ _ operates digits stream directs operator =>
    rename_i ih
    simp only [stream, if_pos directs] at reads
    obtain ⟨later, onward, rfl⟩ := Option.map_eq_some_iff.1 reads
    exact .redirection stream directs (ih onward)
  | case13 fuel word c tail _ _ _ _ _ _ _ _ _ operates digits stream apart operator =>
    rename_i ih
    simp only [stream, if_neg apart] at reads
    obtain ⟨later, onward, rfl⟩ := Option.map_eq_some_iff.1 reads
    exact .operator operates (.inr apart) (ih onward)
  | case14 fuel word c tail _ _ _ _ _ _ _ _ _ operates stream operator =>
    rename_i ih
    simp only [stream] at reads
    obtain ⟨later, onward, rfl⟩ := Option.map_eq_some_iff.1 reads
    exact .operator operates (.inl stream) (ih onward)
  | case15 fuel word begun c tail single double _ escaped last dollar backquote gap comment operates =>
    rename_i ih
    -- A backslash has been dealt with above, whether a character stands behind it or none.
    have backslash : c ≠ '\\' := by
      rintro rfl
      cases tail with
      | nil => exact last rfl rfl
      | cons d tail => exact escaped d tail rfl rfl
    have free : isRuling c = false := by
      simp only [isRuling, Bool.or_eq_false_iff]
      exact ⟨⟨by simpa using ⟨single, double, backslash, dollar, backquote⟩, by simpa using gap⟩,
        by simpa using operates⟩
    refine .ordinary free ?_ (ih reads)
    rintro rfl rfl
    exact comment ⟨rfl, rfl⟩

/-- With enough fuel, whatever follows the grammar is cut so. -/
theorem Lexes.tokensFrom_eq (lexes : Lexes word rest ts) (enough : rest.length < fuel) :
    tokensFrom fuel word rest = some ts := by
  induction fuel generalizing word rest ts with
  | zero => exact absurd enough (Nat.not_lt_zero _)
  | succ fuel ih =>
    have shorter {later : List Char} (less : later.length < rest.length) : later.length < fuel := by omega
    cases lexes with
    | done => rfl
    | single hidden goesOn =>
      simp only [tokensFrom, readSingle_eq_some_iff.2 ⟨rfl, hidden⟩, Option.bind_some]
      exact ih goesOn (shorter (by simp; omega))
    | double reads goesOn =>
      have less := length_readDouble reads
      simp only [tokensFrom, reads, Option.bind_some]
      exact ih goesOn (shorter (by simp; omega))
    | continued goesOn => exact ih goesOn (shorter (Nat.lt_succ_of_lt (Nat.lt_succ_self _)))
    | escaped here goesOn =>
      simp only [tokensFrom]
      exact ih goesOn (shorter (Nat.lt_succ_of_lt (Nat.lt_succ_self _)))
    | last goesOn => exact ih goesOn (shorter (by simp))
    | expansion reads goesOn =>
      have less := length_readDollar reads
      simp only [tokensFrom, reads, Option.bind_some]
      exact ih goesOn (shorter (by simp; omega))
    | dollar unasked goesOn =>
      simp only [tokensFrom, readDollar_none_iff.2 ⟨rfl, unasked⟩, Option.bind_some]
      exact ih goesOn (shorter (by simp))
    | backquote reads goesOn =>
      have less := length_readBackquote reads
      simp only [tokensFrom, reads, Option.bind_some]
      exact ih goesOn (shorter (by simp; omega))
    | @gap word c rest ts parts goesOn =>
      have onward := ih goesOn (shorter (by simp))
      obtain rfl | rfl : c = ' ' ∨ c = '\t' := by simpa [isGap] using parts
      · simp [tokensFrom, isGap, onward]
      · simp [tokensFrom, isGap, onward]
    | @comment rest ts goesOn =>
      have onward := ih goesOn (shorter ((List.length_dropWhile_le ..).trans_lt (Nat.lt_succ_self _)))
      simpa [tokensFrom, isGap] using onward
    | @redirection _ digits c rest ts stream directs goesOn =>
      have onward := ih goesOn (shorter (by have := length_operatorAt_pos c rest; simp; omega))
      obtain rfl | rfl := directs
      · simp [tokensFrom, isGap, beginsOperator, stream, onward]
      · simp [tokensFrom, isGap, beginsOperator, stream, onward]
    | @operator _ c rest ts operates apart goesOn =>
      have onward := ih goesOn (shorter (by have := length_operatorAt_pos c rest; simp; omega))
      have sign : c ∈ "\n;&|<>()".toList := by simpa [beginsOperator] using operates
      simp only [String.reduceToList, List.mem_cons, List.not_mem_nil, or_false] at sign
      rcases sign with rfl | rfl | rfl | rfl | rfl | rfl | rfl | rfl
      all_goals
        cases stream : streamDigits? word with
        | none => simp [tokensFrom, isGap, beginsOperator, stream, onward]
        | some digits => simp_all [tokensFrom, isGap, beginsOperator]
    | @ordinary word c rest ts free inside goesOn =>
      have onward := ih goesOn (shorter (Nat.lt_succ_self _))
      have noComment : ¬ (c = '#' ∧ word = none) := fun both => inside both.1 both.2
      simp [isRuling] at free
      simp [tokensFrom, free, noComment, onward]

/-- **A line is cut into tokens as the grammar says**, and not at all if the grammar has no tokens for
it. -/
theorem tokens_eq_some_iff {line : String} : tokens line = some ts ↔ Lexes none line.toList ts :=
  ⟨Lexes.of_tokensFrom, fun lexes => lexes.tokensFrom_eq (String.length_toList ▸ Nat.lt_succ_self _)⟩

end Muster.Shell
