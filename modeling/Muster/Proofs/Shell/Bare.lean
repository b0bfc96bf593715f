import Muster.Proofs.Shell.Quote

/-!
# Bare words

A line has as many characters as its tokens need at the least: one for each piece and one behind each
word (`Lexes.weight_le`). Texts that are joined by blanks and are read as themselves leave none over, so
no rule that takes a character and gives none back has been used, and every character of theirs stands
for itself. Hence such texts are read as themselves exactly if they are bare (`literalWords?_join_iff`).
-/

set_option autoImplicit false

namespace Muster.Shell

variable {word : Option (List Piece)} {begun pieces : List Piece} {c : Char} {text rest tail : List Char}
  {ts : List Token}

/-! ### Nothing is made up -/

/-- The characters that a token takes at the least; a word takes one more, behind it. -/
def Token.weight : Token → Nat
  | .word pieces => pieces.length + 1
  | .operator _ => 0

/-- The characters that tokens take at the least. -/
def weight : List Token → Nat
  | [] => 0
  | t :: ts => t.weight + weight ts

@[simp] theorem weight_nil : weight [] = 0 := rfl

@[simp] theorem weight_cons (t : Token) (ts : List Token) : weight (t :: ts) = t.weight + weight ts := rfl

@[simp] theorem weight_word (pieces : List Piece) : (Token.word pieces).weight = pieces.length + 1 := rfl

@[simp] theorem weight_operator (text : String) : (Token.operator text).weight = 0 := rfl

theorem weight_closeWord_le (word : Option (List Piece)) (ts : List Token) :
    weight (closeWord word ts) ≤ (word.getD []).length + 1 + weight ts := by
  cases word <;> simp [closeWord]

/-- The tokens of a line hold no more than the line does. -/
theorem Lexes.weight_le (lexes : Lexes word rest ts) :
    weight ts ≤ (word.getD []).length + rest.length + 1 := by
  induction lexes with
  | @done word => simpa using weight_closeWord_le word []
  | single _ _ ih | continued _ ih | escaped _ _ ih | last _ ih | dollar _ _ ih | ordinary _ _ _ ih =>
    simp at ih ⊢
    omega
  | double reads _ ih =>
    have taken := length_readDouble reads
    simp at ih ⊢
    omega
  | expansion reads _ ih =>
    have taken := length_readDollar reads
    simp at ih ⊢
    omega
  | backquote reads _ ih =>
    have taken := length_readBackquote reads
    simp at ih ⊢
    omega
  | @gap word c rest ts _ _ ih =>
    have ended := weight_closeWord_le word ts
    simp at ih ⊢
    omega
  | @comment rest ts _ ih =>
    have dropped : (rest.dropWhile (· ≠ '\n')).length ≤ rest.length := List.length_dropWhile_le ..
    simp only [Option.getD_none, List.length_nil, List.length_cons] at ih ⊢
    omega
  | @redirection _ digits c rest ts _ _ _ ih =>
    have taken := length_operatorAt_pos c rest
    simp at ih ⊢
    omega
  | @operator word c rest ts _ _ _ ih =>
    have ended := weight_closeWord_le word (.operator (String.ofList (operatorAt (c :: rest))) :: ts)
    have taken := length_operatorAt_pos c rest
    simp at ih ended ⊢
    omega

/-- A word that has been begun is the beginning of the first token, if that is a word. -/
theorem Lexes.begun_prefix (lexes : Lexes (some begun) rest (.word pieces :: ts)) : begun <+: pieces := by
  generalize atWord : some begun = word at lexes
  generalize atTokens : Token.word pieces :: ts = tokens at lexes
  induction lexes generalizing begun with
  | done | gap | operator =>
    subst atWord
    cases atTokens
    exact List.prefix_rfl
  | comment => cases atWord
  | redirection => cases atTokens
  | continued _ ih => exact ih atWord atTokens
  | single _ _ ih | double _ _ ih | escaped _ _ ih | last _ ih | expansion _ _ ih | dollar _ _ ih
  | backquote _ _ ih | ordinary _ _ _ ih =>
    subst atWord
    exact (List.prefix_append _ _).trans (ih rfl atTokens)

theorem Lexes.of_end (lexes : Lexes word [] ts) : ts = closeWord word [] := by
  cases lexes
  rfl

/-- A blank ends the word before it. -/
theorem Lexes.of_blank (lexes : Lexes word (' ' :: rest) ts) :
    ∃ later, Lexes none rest later ∧ ts = closeWord word later := by
  cases lexes with
  | gap _ goesOn => exact ⟨_, goesOn, rfl⟩
  | redirection _ directs => simp at directs
  | operator operates => cases operates
  | ordinary free => cases free

/-! ### Lines without slack -/

/-- What is left of a line, behind a word that may have been begun, is read as a word in which nothing is
active and as more tokens, and they take every character that is left. It does not end in a backslash,
which would stand for itself there. -/
structure Tight (word : Option (List Piece)) (rest : List Char) (pieces : List Piece) (ts : List Token) :
    Prop where
  lexes : Lexes word rest (.word pieces :: ts)
  full : weight (.word pieces :: ts) = (word.getD []).length + rest.length + 1
  literal : ∀ piece ∈ pieces, piece.literal?.isSome
  closed : ¬ ['\\'] <:+ rest

/-- Where the word leads on, a character stands for itself, because every other rule takes a character
and gives none back. -/
theorem Tight.free (tight : Tight word (c :: rest) pieces ts)
    (leadsOn : (word.getD []).length < pieces.length) :
    standsFree c rest = true ∧ (word = none → c ≠ '#' ∧ c ≠ '~') ∧
      Tight (some (word.getD [] ++ [.plain c])) rest pieces ts := by
  obtain ⟨lexes, full, literal, closed⟩ := tight
  have added {piece : Piece} {later : List Char}
      (goesOn : Lexes (some (word.getD [] ++ [piece])) later (.word pieces :: ts)) :
      piece.literal?.isSome := literal piece (goesOn.begun_prefix.subset (by simp))
  have tooFew {begun : Option (List Piece)} {later : List Char}
      (goesOn : Lexes begun later (.word pieces :: ts))
      (less : (begun.getD []).length + later.length < (word.getD []).length + (c :: rest).length) :
      False := by
    have most := goesOn.weight_le
    omega
  have onward (goesOn : Lexes (some (word.getD [] ++ [.plain c])) rest (.word pieces :: ts)) :
      Tight (some (word.getD [] ++ [.plain c])) rest pieces ts :=
    ⟨goesOn, by simp at full ⊢; omega, literal, fun ends => closed (ends.trans (List.suffix_cons c rest))⟩
  generalize atTokens : Token.word pieces :: ts = tokens at lexes
  cases lexes with
  | single hidden goesOn =>
    subst atTokens
    exact (tooFew goesOn (by simp; omega)).elim
  | double reads goesOn =>
    subst atTokens
    have taken := length_readDouble reads
    exact (tooFew goesOn (by simp; omega)).elim
  | continued goesOn =>
    subst atTokens
    exact (tooFew goesOn (by simp only [List.length_cons]; omega)).elim
  | escaped _ goesOn =>
    subst atTokens
    exact (tooFew goesOn (by simp; omega)).elim
  | last goesOn => exact absurd List.suffix_rfl closed
  | expansion reads goesOn =>
    subst atTokens
    cases added goesOn
  | dollar unasked goesOn =>
    subst atTokens
    exact ⟨by simpa [standsFree] using unasked, fun _ => ⟨by decide, by decide⟩, onward goesOn⟩
  | backquote reads goesOn =>
    subst atTokens
    cases added goesOn
  | gap _ goesOn =>
    cases word with
    | none =>
      subst atTokens
      exact (tooFew goesOn (by simp)).elim
    | some begun =>
      cases atTokens
      exact absurd leadsOn (Nat.lt_irrefl _)
  | comment goesOn =>
    subst atTokens
    have dropped : (rest.dropWhile (· ≠ '\n')).length ≤ rest.length := List.length_dropWhile_le ..
    exact (tooFew goesOn (by simp only [Option.getD_none, List.length_nil, List.length_cons]; omega)).elim
  | redirection => cases atTokens
  | operator _ _ goesOn =>
    cases word with
    | none => cases atTokens
    | some begun =>
      cases atTokens
      exact absurd leadsOn (Nat.lt_irrefl _)
  | ordinary free inside goesOn =>
    subst atTokens
    obtain ⟨noPattern, noTilde⟩ := inactive_of_isSome (added goesOn)
    rw [pieceOf_eq_plain noPattern noTilde] at goesOn
    have noDollar : c ≠ '$' := by
      rintro rfl
      cases free
    exact ⟨by simp [standsFree, noDollar, free, noPattern],
      fun fresh => ⟨fun sharp => inside sharp fresh, noTilde (Option.isNone_iff_eq_none.2 fresh)⟩,
      onward goesOn⟩

/-- The rest of a word stands for itself, up to its last character. -/
theorem Tight.allFree (tight : Tight (some begun) (text ++ tail) pieces ts)
    (long : begun.length + text.length = pieces.length) (unasked : tail.head?.any isAsked = false) :
    allFree text = true ∧ ∃ whole, Tight (some whole) tail pieces ts := by
  induction text generalizing begun with
  | nil => exact ⟨rfl, begun, tight⟩
  | cons c text ih =>
    obtain ⟨here, -, onward⟩ := tight.free (by simp at long ⊢; omega)
    obtain ⟨later, whole⟩ := ih onward (by simp at long ⊢; omega)
    exact ⟨Bool.and_eq_true_iff.2 ⟨standsFree_append unasked ▸ here, later⟩, whole⟩

/-- A text that is read as itself, at the end of a line or in front of a blank, is bare. -/
theorem Tight.isBare (tight : Tight none (text ++ tail) pieces ts) (isText : IsText pieces text)
    (parted : tail = [] ∨ ∃ later, tail = ' ' :: later) :
    isBare text = true ∧ ∃ whole, Tight (some whole) tail pieces ts := by
  have long := isText.length_eq
  cases text with
  | nil =>
    -- An empty text is not read as a word: the blank behind it would be one character too many.
    rcases parted with rfl | ⟨rest, rfl⟩
    · cases tight.lexes.of_end
    · obtain ⟨later, goesOn, same⟩ := tight.lexes.of_blank
      have most := goesOn.weight_le
      have full := tight.full
      rw [same] at full
      simp [closeWord] at most full
      omega
  | cons c text =>
    have unasked : tail.head?.any isAsked = false := by
      rcases parted with rfl | ⟨rest, rfl⟩ <;> rfl
    obtain ⟨here, first, onward⟩ := tight.free (by simp [long])
    obtain ⟨later, whole⟩ := onward.allFree (by simp [long]; omega) unasked
    exact ⟨Bool.and_eq_true_iff.2
      ⟨by simpa using first rfl, Bool.and_eq_true_iff.2 ⟨standsFree_append unasked ▸ here, later⟩⟩, whole⟩

/-! ### Texts that are joined by blanks -/

/-- The first of the tokens that have these texts. -/
theorem exists_word_of_texts {w : String} {ws : List String}
    (texts : ts.map Token.literal? = (w :: ws).map some) :
    ∃ pieces later, ts = .word pieces :: later ∧ IsText pieces w.toList ∧
      later.map Token.literal? = ws.map some := by
  cases ts with
  | nil => cases texts
  | cons t later =>
    rw [List.map_cons, List.map_cons, List.cons.injEq] at texts
    obtain ⟨pieces, rfl, isText⟩ := Token.literal?_eq_some_iff.1 texts.1
    exact ⟨pieces, later, rfl, isText, texts.2⟩

/-- Tokens that are texts take as many characters as the texts joined by blanks have. -/
theorem weight_of_texts {w : String} {ws : List String}
    (texts : ts.map Token.literal? = (w :: ws).map some) :
    weight ts = (Text.join " " (w :: ws)).toList.length + 1 := by
  induction ws generalizing w ts with
  | nil =>
    obtain ⟨pieces, later, rfl, isText, nothing⟩ := exists_word_of_texts texts
    obtain rfl := List.map_eq_nil_iff.1 nothing
    simp [Text.join, isText.length_eq]
  | cons v ws ih =>
    obtain ⟨pieces, later, rfl, isText, behind⟩ := exists_word_of_texts texts
    have rest := ih behind
    simp [Text.join, isText.length_eq] at rest ⊢
    omega

/-- Texts that are joined by blanks and are read as themselves are bare. -/
theorem Lexes.isBare_of_texts {ws : List String} (lexes : Lexes none (Text.join " " ws).toList ts)
    (texts : ts.map Token.literal? = ws.map some) (closed : ¬ ['\\'] <:+ (Text.join " " ws).toList) :
    ∀ w ∈ ws, isBare w.toList = true := by
  induction ws generalizing ts with
  | nil => simp
  | cons w ws ih =>
    have full := weight_of_texts texts
    obtain ⟨pieces, later, rfl, isText, behind⟩ := exists_word_of_texts texts
    have tight : Tight none (Text.join " " (w :: ws)).toList pieces later :=
      ⟨lexes, by simpa using full, fun _ => isText.isSome, closed⟩
    cases ws with
    | nil =>
      have line : (Text.join " " [w]).toList = w.toList ++ [] := by simp [Text.join]
      rw [line] at tight
      simpa using (tight.isBare isText (.inl rfl)).1
    | cons v ws =>
      have line : (Text.join " " (w :: v :: ws)).toList =
          w.toList ++ ' ' :: (Text.join " " (v :: ws)).toList := by simp [Text.join]
      rw [line] at tight closed
      obtain ⟨bare, whole, onward⟩ := tight.isBare isText (.inr ⟨_, rfl⟩)
      obtain ⟨more, goesOn, same⟩ := onward.lexes.of_blank
      cases same
      have others := ih goesOn behind fun ends =>
        closed (ends.trans ((List.suffix_cons ' ' _).trans (List.suffix_append w.toList _)))
      exact List.forall_mem_cons.2 ⟨bare, others⟩

/-- Bare texts that are joined by blanks are the words of their line. -/
theorem literalWords?_join_of_isBare {ws : List String} (bare : ∀ w ∈ ws, isBare w.toList = true) :
    literalWords? (Text.join " " ws) = some ws := by
  have joined : literalWords? (Text.join " " (ws.map id)) = some (ws.map id) :=
    literalWords?_join (fun w member => readsAs_of_isBare (bare w member)) fun w _ => isText_plain w.toList
  rwa [List.map_id] at joined

/-- **Words without quotes.** Texts that are joined by blanks are the words of their line exactly if each
of them is bare. Lines that end in a backslash are left out: it hides nothing, so it stands for itself. -/
theorem literalWords?_join_iff {ws : List String} (closed : ¬ ['\\'] <:+ (Text.join " " ws).toList) :
    literalWords? (Text.join " " ws) = some ws ↔ ∀ w ∈ ws, isBare w.toList = true := by
  refine ⟨fun reads => ?_, literalWords?_join_of_isBare⟩
  obtain ⟨ts, lexes, texts⟩ := literalWords?_eq_some_iff.1 reads
  exact lexes.isBare_of_texts texts closed

end Muster.Shell
