import Mathlib.Data.List.Chain
import Mathlib.Data.List.DropRight
import Muster.Text.Blank

/-!
# Words and lines of a text

The pieces of a text are what the library calls its splitting, so a text that is joined from words or
from lines is cut into them again. Words do not depend on how many blanks part them (`wordsOf_append`,
`wordsOf_gap_append`, `wordsOf_append_gap`), nor on blanks around the text.
-/

set_option autoImplicit false

namespace Muster.Text

variable {p : Char → Bool} {c : Char} {s t gap w : List Char} {line text : String}

/-! ### Pieces -/

theorem pieces_eq_splitOnP (p : Char → Bool) (s : List Char) : pieces p s = s.splitOnP p := by
  induction s with
  | nil => rfl
  | cons c s ih =>
    rw [pieces, ih, List.splitOnP_cons_eq_if_modifyHead]
    cases cut : List.splitOnP p s with
    | nil => exact absurd cut (List.splitOnP_ne_nil p s)
    | cons first others => rfl

/-- A separator ends a piece and begins another one. -/
theorem pieces_append (s t : List Char) (sep : p c = true) :
    pieces p (s ++ c :: t) = pieces p s ++ pieces p t := by
  simp only [pieces_eq_splitOnP, List.splitOnP_append_cons s t sep]

theorem pieces_of_forall (solid : ∀ x ∈ s, p x = false) : pieces p s = [s] := by
  rw [pieces_eq_splitOnP, List.splitOnP_eq_singleton solid]

theorem eq_false_of_mem_pieces (piece : w ∈ pieces p s) : ∀ x ∈ w, p x = false := by
  induction s generalizing w with
  | nil => simp_all [pieces]
  | cons c s ih =>
    rw [pieces] at piece
    split at piece
    · rcases List.mem_cons.1 piece with rfl | piece
      · simp
      · exact ih piece
    · next plain =>
      cases later : pieces p s with
      | nil => exact absurd later (pieces_ne_nil p s)
      | cons first others =>
        rw [later] at piece ih
        rcases List.mem_cons.1 piece with rfl | piece
        · exact List.forall_mem_cons.2 ⟨by simpa using plain, ih List.mem_cons_self⟩
        · exact ih (List.mem_cons_of_mem first piece)

/-- Pieces are made of the characters of the text. -/
theorem mem_of_mem_pieces (piece : w ∈ pieces p s) (member : c ∈ w) : c ∈ s := by
  induction s generalizing w with
  | nil =>
    obtain rfl : w = [] := by simpa [pieces] using piece
    cases member
  | cons d s ih =>
    rw [pieces] at piece
    split at piece
    · rcases List.mem_cons.1 piece with rfl | later
      · cases member
      · exact List.mem_cons_of_mem d (ih later member)
    · cases cut : pieces p s with
      | nil => exact absurd cut (pieces_ne_nil p s)
      | cons first others =>
        rw [cut] at piece ih
        rcases List.mem_cons.1 piece with rfl | later
        · rcases List.mem_cons.1 member with rfl | inFirst
          · exact List.mem_cons_self
          · exact List.mem_cons_of_mem d (ih List.mem_cons_self inFirst)
        · exact List.mem_cons_of_mem d (ih (List.mem_cons_of_mem first later) member)

/-- What is no separator is added to the last piece. -/
theorem pieces_concat (s : List Char) (plain : p c = false) :
    ∃ before last, pieces p s = before ++ [last] ∧ pieces p (s ++ [c]) = before ++ [last ++ [c]] := by
  induction s with
  | nil => exact ⟨[], [], rfl, by simp [pieces, plain]⟩
  | cons d s ih =>
    obtain ⟨before, last, whole, longer⟩ := ih
    by_cases sep : p d = true
    · exact ⟨[] :: before, last, by simp [pieces, sep, whole], by simp [pieces, sep, longer]⟩
    · cases before with
      | nil => exact ⟨[], d :: last, by simp [pieces, sep, whole], by simp [pieces, sep, longer]⟩
      | cons first before =>
        exact ⟨(d :: first) :: before, last, by simp [pieces, sep, whole], by simp [pieces, sep, longer]⟩

/-! ### Joining -/

theorem join_eq_intercalate (separator : String) (ws : List String) :
    join separator ws = separator.intercalate ws := by
  induction ws with
  | nil => rw [join, String.intercalate_nil]
  | cons w ws ih => cases ws <;> simp_all [join]

theorem toList_join (separator : String) (ws : List String) :
    (join separator ws).toList = separator.toList.intercalate (ws.map String.toList) := by
  rw [join_eq_intercalate, String.toList_intercalate]

theorem join_append {separator : String} {vs ws : List String} (left : vs ≠ []) (right : ws ≠ []) :
    join separator (vs ++ ws) = join separator vs ++ separator ++ join separator ws := by
  simp only [join_eq_intercalate, String.intercalate_append_of_ne_nil left right]

/-- What is joined in the middle stands between two texts that do not depend on it; with nothing in the
middle, a separator less is there. -/
theorem join_splice (separator : String) {vs : List String} (us : List String) (ne : vs ≠ []) :
    ∃ before after, (∀ ws, ws ≠ [] → join separator (vs ++ (ws ++ us)) = before ++ join separator ws ++ after) ∧
      (join separator (vs ++ us)).length + separator.length = before.length + after.length := by
  by_cases ends : us = []
  · refine ⟨join separator vs ++ separator, "", fun ws middle => ?_, by simp [ends]⟩
    rw [ends, List.append_nil, join_append ne middle, String.append_empty]
  · refine ⟨join separator vs ++ separator, separator ++ join separator us, fun ws middle => ?_, ?_⟩
    · rw [join_append ne (List.append_ne_nil_of_left_ne_nil middle us), join_append middle ends]
      simp only [String.append_assoc]
    · simp only [join_append ne ends, String.length_append]
      omega

/-- A joined text is made of the separator and the texts. -/
theorem mem_join {separator : String} {ws : List String} (member : c ∈ (join separator ws).toList) :
    c ∈ separator.toList ∨ ∃ w ∈ ws, c ∈ w.toList := by
  induction ws with
  | nil => simp [join] at member
  | cons w ws ih =>
    cases ws with
    | nil => exact .inr ⟨w, List.mem_cons_self, member⟩
    | cons v ws =>
      rw [join, String.toList_append, String.toList_append] at member
      · rcases List.mem_append.1 member with first | later
        · rcases List.mem_append.1 first with inWord | between
          · exact .inr ⟨w, List.mem_cons_self, inWord⟩
          · exact .inl between
        · rcases ih later with between | ⟨other, listed, inOther⟩
          · exact .inl between
          · exact .inr ⟨other, List.mem_cons_of_mem w listed, inOther⟩
      · exact List.cons_ne_nil v ws

/-- Texts that are joined by line feeds are cut apart again, if none of them holds one. -/
theorem pieces_join {ls : List String} (ne : ls ≠ []) (single : ∀ l ∈ ls, '\n' ∉ l.toList) :
    pieces (· == '\n') (join "\n" ls).toList = ls.map String.toList := by
  rw [toList_join, pieces_eq_splitOnP]
  refine List.splitOn_intercalate '\n' ?_ (by simpa using ne)
  simpa using single

/-! ### Words -/

/-- A text of blanks only. -/
def IsGap (gap : List Char) : Prop := ∀ x ∈ gap, isBlank x = true

/-- A text that is one word. -/
structure IsWord (w : List Char) : Prop where
  ne_nil : w ≠ []
  solid : ∀ x ∈ w, isBlank x = false

theorem isWord_iff : IsWord w ↔ w ≠ [] ∧ (w.all fun x => !isBlank x) = true := by
  rw [List.all_eq_true]
  exact ⟨fun word => ⟨word.ne_nil, fun x member => by simp [word.solid x member]⟩,
    fun ⟨ne, solid⟩ => ⟨ne, fun x member => by simpa using solid x member⟩⟩

instance : DecidablePred IsWord := fun _ => decidable_of_iff _ isWord_iff.symm

/-- A blank parts the words before it from those behind it. -/
theorem wordsOf_append (s t : List Char) (blank : isBlank c = true) :
    wordsOf (s ++ c :: t) = wordsOf s ++ wordsOf t := by
  rw [wordsOf, pieces_append s t blank, List.filter_append]
  rfl

theorem wordsOf_cons (s : List Char) (blank : isBlank c = true) : wordsOf (c :: s) = wordsOf s :=
  wordsOf_append [] s blank

theorem wordsOf_gap_append (isGap : IsGap gap) (s : List Char) : wordsOf (gap ++ s) = wordsOf s := by
  induction gap with
  | nil => rfl
  | cons c gap ih =>
    obtain ⟨blank, later⟩ := List.forall_mem_cons.1 isGap
    rw [List.cons_append, wordsOf_cons _ blank, ih later]

theorem wordsOf_append_gap (isGap : IsGap gap) (s : List Char) : wordsOf (s ++ gap) = wordsOf s := by
  cases gap with
  | nil => rw [List.append_nil]
  | cons c gap =>
    obtain ⟨blank, later⟩ := List.forall_mem_cons.1 isGap
    have nothing : wordsOf gap = [] := by simpa [wordsOf, pieces] using wordsOf_gap_append later []
    rw [wordsOf_append s gap blank, nothing, List.append_nil]

theorem IsWord.wordsOf_eq (word : IsWord w) : wordsOf w = [w] := by
  simp [wordsOf, pieces_of_forall word.solid, word.ne_nil]

theorem isWord_of_mem_wordsOf (member : w ∈ wordsOf s) : IsWord w := by
  obtain ⟨piece, kept⟩ := List.mem_filter.1 member
  exact ⟨by simpa using kept, eq_false_of_mem_pieces piece⟩

/-! ### Trimming -/

theorem mem_of_mem_dropTrailing {x : Char} (member : x ∈ dropTrailing p s) : x ∈ s :=
  (List.rdropWhile_prefix p s).subset member

theorem dropTrailing_concat (s : List Char) (drops : p c = true) :
    dropTrailing p (s ++ [c]) = dropTrailing p s :=
  List.rdropWhile_concat_pos p s c drops

/-- What is left does not end in a character that is dropped. -/
theorem getLast?_dropTrailing (last : (dropTrailing p s).getLast? = some c) : p c = false := by
  have kept := List.head?_dropWhile_not p s.reverse
  rw [dropTrailing, List.getLast?_reverse] at last
  simpa [last] using kept

/-- A text that does not end in a character that is dropped stays as it is. -/
theorem dropTrailing_eq_self (closed : ∀ c ∈ s.getLast?, p c = false) : dropTrailing p s = s :=
  List.rdropWhile_eq_self_iff.2 fun ne => by
    simp [closed _ (List.getLast_mem_getLast? ne)]

/-- What ends in a character that is not dropped stays at the front. -/
theorem prefix_dropTrailing (closed : ∀ c ∈ w.getLast?, p c = false) (front : w <+: s) :
    w <+: dropTrailing p s := by
  obtain ⟨t, rfl⟩ := front
  rw [dropTrailing, List.reverse_append, List.dropWhile_append]
  split
  · have same : (w.reverse.dropWhile p).reverse = w := dropTrailing_eq_self closed
    simp only [same, List.prefix_rfl]
  · rw [List.reverse_append, List.reverse_reverse]
    exact List.prefix_append w _

theorem strip_concat (s : List Char) (blank : isBlank c = true) : strip (s ++ [c]) = strip s := by
  rw [strip, strip, dropLeading, dropLeading, List.dropWhile_append]
  split
  · next nothing =>
    rw [List.isEmpty_iff.1 nothing, List.dropWhile_cons_of_pos blank]
    rfl
  · exact dropTrailing_concat _ blank

/-- What is at the front behind the leading characters stays there if something follows. -/
theorem prefix_dropLeading_append (ne : w ≠ []) (front : w <+: dropLeading p s) (t : List Char) :
    w <+: dropLeading p (s ++ t) := by
  rw [dropLeading, List.dropWhile_append]
  split
  · next nothing =>
    rw [dropLeading, List.isEmpty_iff.1 nothing] at front
    exact absurd (List.prefix_nil.1 front) ne
  · exact front.trans (List.prefix_append _ t)

theorem toList_trimStart (s : List Char) : (trimStart (String.ofList s)).toList = dropLeading isBlank s := by
  rw [trimStart, String.toList_ofList, String.toList_ofList]

theorem toList_trim (s : List Char) : (trim (String.ofList s)).toList = strip s := by
  rw [trim, String.toList_ofList, String.toList_ofList]

theorem startsWith_iff {head s : String} : startsWith head s = true ↔ head.toList <+: s.toList :=
  List.isPrefixOf_iff_prefix

/-- What stands around a text when its blanks are taken off are blanks. -/
theorem exists_strip (s : List Char) :
    ∃ before after, s = before ++ strip s ++ after ∧ IsGap before ∧ IsGap after := by
  refine ⟨s.takeWhile isBlank, (dropLeading isBlank s).rtakeWhile isBlank, ?_,
    fun x => List.mem_takeWhile_imp, fun x => List.mem_rtakeWhile_imp⟩
  rw [List.append_assoc]
  have behind : strip s ++ (dropLeading isBlank s).rtakeWhile isBlank = dropLeading isBlank s :=
    List.rdropWhile_append_rtakeWhile
  rw [behind]
  exact (List.takeWhile_append_dropWhile).symm

theorem wordsOf_strip (s : List Char) : wordsOf (strip s) = wordsOf s := by
  obtain ⟨before, after, same, gapBefore, gapAfter⟩ := exists_strip s
  conv_rhs => rw [same]
  rw [wordsOf_append_gap gapAfter, wordsOf_gap_append gapBefore]

theorem toList_join_cons {v w : String} {ws : List String} :
    (join " " (w :: v :: ws)).toList = w.toList ++ ' ' :: (join " " (v :: ws)).toList := by
  simp [join]

/-- The words of texts that are joined by spaces are those of the texts, one after the other. -/
theorem wordsOf_join (ws : List String) :
    wordsOf (join " " ws).toList = ws.flatMap fun w => wordsOf w.toList := by
  induction ws with
  | nil => rfl
  | cons w ws ih =>
    cases ws with
    | nil => simp [join]
    | cons v ws =>
      rw [toList_join_cons, wordsOf_append _ _ (by decide), ih]
      rfl

/-- Words that are joined by spaces are read again. -/
theorem words_join {ws : List String} (isWord : ∀ w ∈ ws, IsWord w.toList) : words (join " " ws) = ws := by
  have alone : ∀ w ∈ ws, (wordsOf w.toList).map String.ofList = [w] := fun w member => by
    simp [(isWord w member).wordsOf_eq]
  rw [words, wordsOf_join, List.map_flatMap, List.flatMap_congr alone, List.flatMap_singleton']

/-! ### Lines -/

theorem withoutReturn_concat (s : List Char) : withoutReturn (s ++ ['\r']) = s := by
  simp [withoutReturn]

theorem withoutReturn_eq_self (other : s.getLast? ≠ some '\r') : withoutReturn s = s := by
  rw [withoutReturn]
  split
  · next return_ => exact absurd return_ other
  · rfl

/-- A line is its text without a carriage return, or with one behind it. -/
theorem withoutReturn_cases (s : List Char) : s = withoutReturn s ∨ s = withoutReturn s ++ ['\r'] := by
  by_cases last : s.getLast? = some '\r'
  · obtain ⟨before, rfl⟩ := List.getLast?_eq_some_iff.1 last
    exact .inr (by rw [withoutReturn_concat])
  · exact .inl (withoutReturn_eq_self last).symm

/-- A line is completed on its own; only an empty one that ends the text is dropped. -/
theorem closeLines_cons (line : List Char) (rest : List (List Char)) :
    (line = [] ∧ closeLines (line :: rest) = closeLines rest) ∨
    ∃ text, (line = text ∨ line = text ++ ['\r']) ∧ closeLines (line :: rest) = text :: closeLines rest := by
  cases rest with
  | nil =>
    by_cases empty : line = []
    · exact .inl ⟨empty, by simp [closeLines, empty]⟩
    · exact .inr ⟨line, .inl rfl, by simp [closeLines, empty]⟩
  | cons next rest => exact .inr ⟨withoutReturn line, withoutReturn_cases line, rfl⟩

/-- Lines that are joined by line feeds are read again, but for carriage returns. -/
theorem lines_join {ls : List String} (single : ∀ l ∈ ls, '\n' ∉ l.toList) :
    lines (join "\n" ls) = (closeLines (ls.map String.toList)).map String.ofList := by
  cases ls with
  | nil => rfl
  | cons l ls => rw [lines, linesOf, pieces_join (List.cons_ne_nil l ls) single]

theorem withoutReturn_prefix (s : List Char) : withoutReturn s <+: s := by
  rcases withoutReturn_cases s with same | longer
  · exact ⟨[], by rw [List.append_nil, ← same]⟩
  · exact ⟨['\r'], longer.symm⟩

theorem exists_prefix_of_mem_closeLines {pieces : List (List Char)} (member : w ∈ closeLines pieces) :
    ∃ piece ∈ pieces, w <+: piece := by
  induction pieces with
  | nil => cases member
  | cons piece rest ih =>
    cases rest with
    | nil =>
      rw [closeLines] at member
      split at member
      · cases member
      · obtain rfl := List.mem_singleton.1 member
        exact ⟨w, List.mem_singleton_self w, List.prefix_rfl⟩
    | cons next rest =>
      rw [closeLines] at member
      · rcases List.mem_cons.1 member with rfl | later
        · exact ⟨piece, List.mem_cons_self, withoutReturn_prefix piece⟩
        · obtain ⟨other, listed, front⟩ := ih later
          exact ⟨other, List.mem_cons_of_mem piece listed, front⟩
      · exact List.cons_ne_nil next rest

/-- Lines are made of the characters of the text, and hold no line feed. -/
theorem mem_of_mem_lines (listed : line ∈ lines text) (member : c ∈ line.toList) : c ∈ text.toList ∧ c ≠ '\n' := by
  obtain ⟨chars, closed, rfl⟩ := List.mem_map.1 listed
  obtain ⟨piece, cut, front⟩ := exists_prefix_of_mem_closeLines closed
  rw [String.toList_ofList] at member
  have inPiece := front.subset member
  exact ⟨mem_of_mem_pieces cut inPiece, by simpa using eq_false_of_mem_pieces cut c inPiece⟩

/-- The text of lines that each end in a line feed is cut into them, and nothing is behind the last. -/
theorem pieces_closed {ls : List String} (single : ∀ l ∈ ls, '\n' ∉ l.toList) :
    pieces (· == '\n') (String.join (ls.map fun l => l ++ "\n")).toList = ls.map String.toList ++ [[]] := by
  rw [String.toList_join]
  induction ls with
  | nil => rfl
  | cons l ls ih =>
    obtain ⟨here, later⟩ := List.forall_mem_cons.1 single
    have solid : ∀ x ∈ l.toList, (x == '\n') = false := by
      intro x member
      cases same : x == '\n' with
      | true => exact absurd (eq_of_beq same ▸ member) here
      | false => rfl
    have ends : "\n".toList = ['\n'] := by decide
    rw [List.map_cons, List.flatMap_cons, String.toList_append, List.append_assoc, ends, List.singleton_append,
      pieces_append l.toList _ (by decide), pieces_of_forall solid, ih later]
    rfl

theorem splitOn_closed {ls : List String} (single : ∀ l ∈ ls, '\n' ∉ l.toList) :
    splitOn '\n' (String.join (ls.map fun l => l ++ "\n")) = ls ++ [""] := by
  rw [splitOn, pieces_closed single]
  simp

theorem closeLines_concat_nil (ls : List (List Char)) : closeLines (ls ++ [[]]) = ls.map withoutReturn := by
  induction ls with
  | nil => rfl
  | cons l ls ih =>
    rw [List.map_cons, ← ih, List.cons_append, closeLines]
    exact List.append_ne_nil_of_right_ne_nil ls (List.cons_ne_nil [] [])

/-- The line without a carriage return at its end. -/
def unreturned (line : String) : String := String.ofList (withoutReturn line.toList)

/-- Lines that each end in a line feed are read again, but for carriage returns. -/
theorem lines_closed {ls : List String} (single : ∀ l ∈ ls, '\n' ∉ l.toList) :
    lines (String.join (ls.map fun l => l ++ "\n")) = ls.map unreturned := by
  rw [lines, linesOf, pieces_closed single, closeLines_concat_nil, List.map_map, List.map_map]
  rfl

theorem unreturned_eq_self (none : '\r' ∉ line.toList) : unreturned line = line := by
  rw [unreturned, withoutReturn_eq_self, String.ofList_toList]
  intro last
  exact none (List.mem_of_mem_getLast? last)

/-- A carriage return at the end of a line is blank. -/
theorem trim_unreturned (line : String) : trim (unreturned line) = trim line := by
  rw [trim, trim, unreturned, String.toList_ofList]
  rcases withoutReturn_cases line.toList with same | longer
  · rw [← same]
  · conv_rhs => rw [longer, strip_concat _ (by decide)]

/-! ### Texts in which single spaces part the words -/

/-- No blank stands at either end or next to another one, and all blanks are spaces. -/
structure Spaced (s : List Char) : Prop where
  head : ∀ c ∈ s.head?, isBlank c = false
  last : ∀ c ∈ s.getLast?, isBlank c = false
  single : s.IsChain fun x y => isBlank x = true → isBlank y = false
  space : ∀ c ∈ s, isBlank c = true → c = ' '

/-- Without a separator at either end or next to another one there is no empty piece. -/
theorem nil_not_mem_pieces : ∀ {s : List Char}, s ≠ [] → (∀ c ∈ s.head?, p c = false) →
    (∀ c ∈ s.getLast?, p c = false) → (s.IsChain fun x y => p x = true → p y = false) → [] ∉ pieces p s
  | [], ne, _, _, _ => absurd rfl ne
  | [c], _, head, _, _ => by simp [pieces, head c rfl]
  | c :: d :: s, _, head, last, single => by
    obtain ⟨-, later⟩ := List.isChain_cons.1 single
    obtain ⟨next, onward⟩ := List.isChain_cons.1 later
    rw [pieces, if_neg (by simp [head c rfl])]
    by_cases sep : p d = true
    · -- A separator behind the first character: it is not the last one, and no other one follows it.
      have ne : s ≠ [] := by
        rintro rfl
        simp [last d rfl] at sep
      have rest := nil_not_mem_pieces ne (fun e first => next e first sep)
        (fun e final => last e (by rw [List.getLast?_cons_cons, List.getLast?_cons, final]; rfl)) onward
      simpa [pieces, sep] using rest
    · have plain : p d = false := by simpa using sep
      have rest := nil_not_mem_pieces (List.cons_ne_nil d s) (fun e first => by cases first; exact plain)
        (fun e final => last e (by rw [List.getLast?_cons_cons]; exact final)) later
      cases cut : pieces p (d :: s) with
      | nil => exact absurd cut (pieces_ne_nil p _)
      | cons first others =>
        rw [cut] at rest
        exact fun member => rest (List.mem_cons_of_mem first (by simpa using member))

theorem pieces_congr {q : Char → Bool} (same : ∀ c ∈ s, p c = q c) : pieces p s = pieces q s := by
  induction s with
  | nil => rfl
  | cons c s ih =>
    obtain ⟨here, later⟩ := List.forall_mem_cons.1 same
    rw [pieces, pieces, here, ih later]

/-- If single spaces part the words, the text is its words joined by spaces. -/
theorem Spaced.join_words {s : String} (spaced : Spaced s.toList) : join " " (words s) = s := by
  have spaces : pieces isBlank s.toList = s.toList.splitOn ' ' := by
    rw [List.splitOn_eq_splitOnP, ← pieces_eq_splitOnP]
    refine pieces_congr fun c member => ?_
    cases blank : isBlank c with
    | true => simp [spaced.space c member blank]
    | false =>
      have other : c ≠ ' ' := by
        rintro rfl
        exact absurd blank (by decide)
      simp [other]
  have chars : " ".toList.intercalate (wordsOf s.toList) = s.toList := by
    by_cases ne : s.toList = []
    · rw [ne]
      rfl
    · have whole : wordsOf s.toList = pieces isBlank s.toList :=
        List.filter_eq_self.2 fun piece member => by
          have notNil : piece ≠ [] := by
            rintro rfl
            exact nil_not_mem_pieces ne spaced.head spaced.last spaced.single member
          simpa using notNil
      rw [whole, spaces]
      exact List.intercalate_splitOn ' '
  rw [← String.toList_inj, toList_join, words, List.map_map]
  simpa using chars

theorem IsWord.spaced (word : IsWord w) : Spaced w where
  head c first := word.solid c (List.mem_of_mem_head? first)
  last c final := word.solid c (List.mem_of_mem_getLast? final)
  single := List.isChain_iff_forall_rel_of_append_cons_cons.2 fun _ y _ _ same _ =>
    word.solid y (by simp [same])
  space c member blank := by simp [word.solid c member] at blank

theorem Spaced.cons (word : IsWord w) (ne : t ≠ []) (spaced : Spaced t) : Spaced (w ++ ' ' :: t) where
  head c first := word.spaced.head c (by
    rwa [List.head?_append_of_ne_nil _ word.ne_nil] at first)
  last c final := spaced.last c (by
    rw [List.getLast?_append, List.getLast?_cons, List.getLast?_eq_getLast_of_ne_nil ne] at final
    simpa [List.getLast?_eq_getLast_of_ne_nil ne] using final)
  single := by
    refine word.spaced.single.append (List.isChain_cons.2 ⟨fun y first _ => spaced.head y first,
      spaced.single⟩) fun x final y _ blank => ?_
    rw [word.spaced.last x final] at blank
    cases blank
  space c member blank := by
    rcases List.mem_append.1 member with inWord | behind
    · exact word.spaced.space c inWord blank
    · rcases List.mem_cons.1 behind with rfl | later
      · rfl
      · exact spaced.space c later blank

/-- In a text that is joined from words by spaces, single spaces part the words. -/
theorem spaced_join {ws : List String} (isWord : ∀ w ∈ ws, IsWord w.toList) :
    Spaced (join " " ws).toList := by
  induction ws with
  | nil => exact ⟨nofun, nofun, .nil, nofun⟩
  | cons w ws ih =>
    obtain ⟨word, later⟩ := List.forall_mem_cons.1 isWord
    cases ws with
    | nil => simpa [join] using word.spaced
    | cons v ws =>
      have ne : (join " " (v :: ws)).toList ≠ [] := by
        have := (List.forall_mem_cons.1 later).1.ne_nil
        cases ws <;> simp_all [join]
      rw [toList_join_cons]
      exact .cons word ne (ih later)

end Muster.Text
