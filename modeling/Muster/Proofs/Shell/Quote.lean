import Muster.Proofs.Shell.Token
import Muster.Shell.Quote

/-!
# Words of a command line

A text may be put into a command line bare, if each of its characters stands for itself there, or quoted.
Either way it is read as one word, whatever stands behind it (`ReadsAs`), so texts that are joined by
blanks are read one by one. Texts of plain characters are bare; of all others a single quote ends the
quotes, is written behind a backslash and begins them again, which the reader undoes for any number of
them in a row. `quoted_words_read_back` states that every list of texts is read back from its quoted
words.
-/

set_option autoImplicit false

namespace Muster.Shell

/-! ### Words in which nothing is active -/

theorem mapM_eq_some_iff {α β : Type} {f : α → Option β} {as : List α} {bs : List β} :
    as.mapM f = some bs ↔ as.map f = bs.map some := by
  induction as generalizing bs with
  | nil => cases bs <;> simp
  | cons a as ih =>
    rw [List.mapM_cons]
    cases here : f a with
    | none => cases bs <;> simp [here]
    | some b =>
      cases later : as.mapM f with
      | none => cases bs <;> simp_all
      | some cs => cases bs <;> simp_all

/-- These pieces are this text, and nothing in them is active. -/
def IsText (pieces : List Piece) (text : List Char) : Prop := pieces.map Piece.literal? = text.map some

theorem IsText.length_eq {pieces : List Piece} {text : List Char} (isText : IsText pieces text) :
    pieces.length = text.length := by
  simpa using congrArg List.length isText

theorem IsText.isSome {pieces : List Piece} {text : List Char} (isText : IsText pieces text) {piece : Piece}
    (member : piece ∈ pieces) : piece.literal?.isSome := by
  have here := List.mem_map_of_mem (f := Piece.literal?) member
  rw [isText] at here
  obtain ⟨c, -, same⟩ := List.mem_map.1 here
  simp [← same]

theorem Token.literal?_eq_some_iff {t : Token} {w : String} :
    t.literal? = some w ↔ ∃ pieces, t = .word pieces ∧ IsText pieces w.toList := by
  cases t with
  | operator text => simp [Token.literal?]
  | word pieces =>
    rw [Token.literal?, Option.map_eq_some_iff]
    constructor
    · rintro ⟨text, found, rfl⟩
      exact ⟨pieces, rfl, by rw [String.toList_ofList]; exact mapM_eq_some_iff.1 found⟩
    · rintro ⟨_, same, isText⟩
      cases same
      exact ⟨w.toList, mapM_eq_some_iff.2 isText, String.ofList_toList⟩

theorem literalWords?_eq_some_iff {line : String} {ws : List String} :
    literalWords? line = some ws ↔
      ∃ ts, Lexes none line.toList ts ∧ ts.map Token.literal? = ws.map some := by
  simp only [literalWords?, Option.bind_eq_some_iff, tokens_eq_some_iff, mapM_eq_some_iff]

/-- At the start of a word this text is read as these pieces, whatever stands behind it; only a dollar
sign at its end must not be made to ask for something. -/
def ReadsAs (text : List Char) (pieces : List Piece) : Prop :=
  ∀ rest ts, rest.head?.any isAsked = false → Lexes (some pieces) rest ts → Lexes none (text ++ rest) ts

/-- **Texts that are joined by blanks are read one by one.** -/
theorem Lexes.join {α : Type} {text : α → String} {pieces : α → List Piece} {as : List α}
    (reads : ∀ a ∈ as, ReadsAs (text a).toList (pieces a)) :
    Lexes none (Text.join " " (as.map text)).toList (as.map fun a => .word (pieces a)) := by
  induction as with
  | nil => exact .done
  | cons a as ih =>
    have onward := ih fun b member => reads b (List.mem_cons_of_mem a member)
    have here := reads a List.mem_cons_self
    cases as with
    | nil => simpa [Text.join, closeWord] using here [] _ rfl .done
    | cons b as =>
      have parted : Lexes (some (pieces a)) (' ' :: (Text.join " " ((b :: as).map text)).toList) _ :=
        .gap rfl onward
      simpa [Text.join, closeWord] using here _ _ rfl parted

/-- Texts that are joined by blanks are the words of the line, if each of them is read as itself. -/
theorem literalWords?_join {α : Type} {text : α → String} {pieces : α → List Piece} {value : α → String}
    {as : List α} (reads : ∀ a ∈ as, ReadsAs (text a).toList (pieces a))
    (isText : ∀ a ∈ as, IsText (pieces a) (value a).toList) :
    literalWords? (Text.join " " (as.map text)) = some (as.map value) := by
  refine literalWords?_eq_some_iff.2 ⟨_, .join reads, ?_⟩
  rw [List.map_map, List.map_map]
  exact List.map_congr_left fun a member => Token.literal?_eq_some_iff.2 ⟨_, rfl, isText a member⟩

/-! ### Bare words -/

/-- Whether a character begins a pattern of file names. -/
def isPattern (c : Char) : Bool := c = '*' || c = '?' || c = '['

/-- Whether a character in front of these stands for itself inside a word. -/
def standsFree (c : Char) (rest : List Char) : Bool :=
  if c = '$' then !rest.head?.any isAsked else !isRuling c && !isPattern c

/-- Whether all characters stand for themselves inside a word. -/
def allFree : List Char → Bool
  | [] => true
  | c :: rest => standsFree c rest && allFree rest

/-- Whether a text is read as one word of its own characters, without any quote. -/
def isBare (text : List Char) : Bool := text.head?.any (fun c => c ≠ '#' && c ≠ '~') && allFree text

/-- What stands behind a text that it does not make ask for anything leaves its characters as they are. -/
theorem standsFree_append {c : Char} {rest tail : List Char} (unasked : tail.head?.any isAsked = false) :
    standsFree c (rest ++ tail) = standsFree c rest := by
  cases rest with
  | cons d rest => rfl
  | nil => simp [standsFree, unasked]

theorem pieceOf_eq_plain {first : Bool} {c : Char} (noPattern : isPattern c = false)
    (noTilde : first = true → c ≠ '~') : pieceOf first c = .plain c := by
  have apart : ¬ (c = '*' ∨ c = '?' ∨ c = '[') := by simpa [isPattern, and_assoc] using noPattern
  rw [pieceOf, if_neg apart, if_neg fun both => noTilde both.2 both.1]

/-- Outside quotes a character is active that begins a pattern, and so is a leading tilde. -/
theorem inactive_of_isSome {first : Bool} {c : Char} (literal : (pieceOf first c).literal?.isSome) :
    isPattern c = false ∧ (first = true → c ≠ '~') := by
  rw [pieceOf] at literal
  split at literal
  · cases literal
  · next apart =>
    split at literal
    · cases literal
    · next tilde => exact ⟨by simpa [isPattern, and_assoc] using apart, fun fresh same => tilde ⟨same, fresh⟩⟩

/-- A character that stands for itself is added to the word. -/
theorem Lexes.cons_free {word : Option (List Piece)} {c : Char} {rest : List Char} {ts : List Token}
    (free : standsFree c rest = true) (first : word = none → c ≠ '#' ∧ c ≠ '~')
    (goesOn : Lexes (some (word.getD [] ++ [.plain c])) rest ts) : Lexes word (c :: rest) ts := by
  rw [standsFree] at free
  split at free
  · next dollar =>
    subst dollar
    exact .dollar (by simpa using free) goesOn
  · simp only [Bool.and_eq_true, Bool.not_eq_true'] at free
    have plain : pieceOf word.isNone c = .plain c :=
      pieceOf_eq_plain free.2 fun fresh => (first (Option.isNone_iff_eq_none.1 fresh)).2
    exact .ordinary free.1 (fun sharp fresh => (first fresh).1 sharp) (plain ▸ goesOn)

theorem Lexes.append_free {begun : List Piece} {text rest : List Char} {ts : List Token}
    (free : allFree text = true) (unasked : rest.head?.any isAsked = false)
    (goesOn : Lexes (some (begun ++ text.map .plain)) rest ts) : Lexes (some begun) (text ++ rest) ts := by
  induction text generalizing begun with
  | nil => simpa using goesOn
  | cons c text ih =>
    obtain ⟨here, later⟩ := Bool.and_eq_true_iff.1 free
    refine .cons_free ((standsFree_append unasked).trans here) nofun (ih later ?_)
    simpa using goesOn

/-- A bare text is read as its characters. -/
theorem readsAs_of_isBare {text : List Char} (bare : isBare text = true) :
    ReadsAs text (text.map .plain) := by
  intro rest ts unasked goesOn
  cases text with
  | nil => cases bare
  | cons c text =>
    obtain ⟨first, free⟩ := Bool.and_eq_true_iff.1 bare
    obtain ⟨here, later⟩ := Bool.and_eq_true_iff.1 free
    refine .cons_free ((standsFree_append unasked).trans here) (fun _ => by simpa using first)
      (.append_free later unasked ?_)
    simpa using goesOn

theorem isText_plain (text : List Char) : IsText (text.map .plain) text := by
  simp [IsText, Piece.literal?, Function.comp_def]

/-! ### Quoted words -/

theorem standsFree_of_isPlain {c : Char} (plain : isPlain c = true) (rest : List Char) :
    standsFree c rest = true := by
  have active : ∀ d ∈ "$'\"\\` \t\n;&|<>()*?[".toList, isPlain d = false := by simp [isPlain]
  have other : c ∉ "$'\"\\` \t\n;&|<>()*?[".toList := fun here => by simp [active c here] at plain
  simp at other
  simp [standsFree, isRuling, isGap, beginsOperator, isPattern, other]

theorem allFree_of_isPlain {text : List Char} (plain : ∀ c ∈ text, isPlain c = true) :
    allFree text = true := by
  induction text with
  | nil => rfl
  | cons c text ih =>
    exact Bool.and_eq_true_iff.2 ⟨standsFree_of_isPlain (plain c List.mem_cons_self) text,
      ih fun d member => plain d (List.mem_cons_of_mem c member)⟩

theorem isBare_of_isPlain {text : List Char} (some : text ≠ []) (plain : ∀ c ∈ text, isPlain c = true) :
    isBare text = true := by
  have active : ∀ d ∈ ['#', '~'], isPlain d = false := by simp [isPlain]
  obtain ⟨c, text, rfl⟩ := List.exists_cons_of_ne_nil some
  have here := plain c List.mem_cons_self
  have first : c ∉ ['#', '~'] := fun member => by simp [active c member] at here
  simpa [isBare, allFree_of_isPlain plain] using first

/-- Between single quotes everything stands for itself; a single quote is written outside of them. -/
theorem Lexes.quoted {word : Option (List Piece)} {inner text rest : List Char} {ts : List Token}
    (hidden : '\'' ∉ inner)
    (goesOn : Lexes (some (word.getD [] ++ (inner ++ text).map .quoted)) rest ts) :
    Lexes word ('\'' :: (inner ++ (text.flatMap quotedChar ++ '\'' :: rest))) ts := by
  induction text generalizing word inner with
  | nil => exact .single hidden (by simpa using goesOn)
  | cons c text ih =>
    by_cases quote : c = '\''
    · subst quote
      have again : Lexes (some (word.getD [] ++ inner.map .quoted ++ [.quoted '\'']))
          ('\'' :: ([] ++ (text.flatMap quotedChar ++ '\'' :: rest))) ts :=
        ih List.not_mem_nil (by simpa using goesOn)
      have closed : Lexes word ('\'' :: (inner ++ '\'' ::
          '\\' :: '\'' :: '\'' :: (text.flatMap quotedChar ++ '\'' :: rest))) ts :=
        .single hidden (.escaped (by decide) again)
      simpa [quotedChar] using closed
    · have longer : '\'' ∉ inner ++ [c] := by simp [hidden, Ne.symm quote]
      have onward : Lexes word ('\'' :: (inner ++ [c] ++ (text.flatMap quotedChar ++ '\'' :: rest))) ts :=
        ih longer (by simpa using goesOn)
      simpa [quotedChar, quote] using onward

/-- The pieces that a quoted text is read as. -/
def quotedPieces (arg : List Char) : List Piece :=
  if !arg.isEmpty && arg.all isPlain then arg.map .plain else arg.map .quoted

/-- **A quoted text is read as itself**, whatever it is and whatever stands behind it. -/
theorem readsAs_quoteChars (arg : List Char) : ReadsAs (quoteChars arg) (quotedPieces arg) := by
  rw [quoteChars, quotedPieces]
  split
  · next plain =>
    simp only [Bool.and_eq_true, Bool.not_eq_true', List.isEmpty_eq_false_iff, List.all_eq_true] at plain
    exact readsAs_of_isBare (isBare_of_isPlain plain.1 plain.2)
  · intro rest ts _ goesOn
    have quoted : Lexes none ('\'' :: ([] ++ (arg.flatMap quotedChar ++ '\'' :: rest))) ts :=
      .quoted List.not_mem_nil (by simpa using goesOn)
    simpa using quoted

theorem isText_quotedPieces (arg : List Char) : IsText (quotedPieces arg) arg := by
  rw [quotedPieces]
  split <;> simp [IsText, Piece.literal?, Function.comp_def]

/-- **Quoted words are read back.** Whatever the texts are, their quoted words are cut into one word for
each of them, in order, and those are the texts, with no operator between them and nothing active in
them. A single text that is quoted is the one word of its line. -/
theorem quoted_words_read_back (args : List String) :
    tokens (wordList args) = some (args.map fun arg => .word (quotedPieces arg.toList)) ∧
    literalWords? (wordList args) = some args ∧
    ∀ arg, literalWords? (quote arg) = some [arg] := by
  have reads (arg : String) : ReadsAs (quote arg).toList (quotedPieces arg.toList) := by
    rw [quote, String.toList_ofList]
    exact readsAs_quoteChars arg.toList
  have words (args : List String) : literalWords? (wordList args) = some args := by
    have joined : literalWords? (wordList args) = some (args.map fun arg => arg) :=
      literalWords?_join (fun arg _ => reads arg) fun arg _ => isText_quotedPieces arg.toList
    rwa [List.map_id'] at joined
  exact ⟨tokens_eq_some_iff.2 (.join fun arg _ => reads arg), words args, fun arg => words [arg]⟩

example : wordList ["", "it's", "a.b", "$x; y"] = "'' 'it'\\''s' a.b '$x; y'" := by decide

end Muster.Shell
