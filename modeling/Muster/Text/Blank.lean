/-!
# Blank characters, lines and words

`isBlank` is the Unicode property White_Space. Trimming, splitting a text into its
words and cutting it into lines all rest on it (lines on the line feed alone). Everything is
stated on lists of characters first and carried to `String` by `toList`.
-/

set_option autoImplicit false

namespace Muster.Text

/-- The characters of the Unicode property White_Space. -/
def isBlank (c : Char) : Bool :=
  let n := c.toNat
  (0x9 ≤ n && n ≤ 0xD) || n == 0x20 || n == 0x85 || n == 0xA0 || n == 0x1680
    || (0x2000 ≤ n && n ≤ 0x200A) || n == 0x2028 || n == 0x2029 || n == 0x202F
    || n == 0x205F || n == 0x3000

/-- The text without the leading characters that satisfy `p`. -/
def dropLeading (p : Char → Bool) (s : List Char) : List Char :=
  s.dropWhile p

/-- The text without the trailing characters that satisfy `p`. -/
def dropTrailing (p : Char → Bool) (s : List Char) : List Char :=
  (s.reverse.dropWhile p).reverse

/-- The text without blank characters at either end. -/
def strip (s : List Char) : List Char :=
  dropTrailing isBlank (dropLeading isBlank s)

/-- The pieces between the characters that satisfy `p`: one more than there are such characters. -/
def pieces (p : Char → Bool) : List Char → List (List Char)
  | [] => [[]]
  | c :: rest =>
    if p c then [] :: pieces p rest
    else
      match pieces p rest with
      | [] => [[c]]
      | head :: tail => (c :: head) :: tail

theorem pieces_ne_nil (p : Char → Bool) (s : List Char) : pieces p s ≠ [] := by
  cases s with
  | nil => simp [pieces]
  | cons c rest =>
    simp only [pieces]
    split
    · simp
    · split <;> simp

/-- The words of a text: its longest runs of characters that are not blank. -/
def wordsOf (s : List Char) : List (List Char) :=
  (pieces isBlank s).filter fun piece => !piece.isEmpty

/-- A line without the carriage return that stood before its line feed. -/
def withoutReturn (line : List Char) : List Char :=
  match line.getLast? with
  | some '\r' => line.dropLast
  | _ => line

/-- Completes the pieces between line feeds: every piece but the last ended in a line feed, and
an empty last piece is no line. -/
def closeLines : List (List Char) → List (List Char)
  | [] => []
  | [last] => if last.isEmpty then [] else [last]
  | line :: rest => withoutReturn line :: closeLines rest

/-- The lines of a text, without their line feeds and without a carriage return before one. -/
def linesOf (s : List Char) : List (List Char) :=
  closeLines (pieces (· == '\n') s)

/-- The text without blank characters at either end. -/
def trim (s : String) : String := String.ofList (strip s.toList)

/-- The text without blank characters at its start. -/
def trimStart (s : String) : String := String.ofList (dropLeading isBlank s.toList)

/-- The text without blank characters at its end. -/
def trimEnd (s : String) : String := String.ofList (dropTrailing isBlank s.toList)

/-- The text without the character `c` at its start. -/
def trimStartOf (c : Char) (s : String) : String := String.ofList (dropLeading (· == c) s.toList)

/-- The text without the character `c` at its end. -/
def trimEndOf (c : Char) (s : String) : String := String.ofList (dropTrailing (· == c) s.toList)

/-- The words of a text. -/
def words (s : String) : List String := (wordsOf s.toList).map String.ofList

/-- The lines of a text. -/
def lines (s : String) : List String := (linesOf s.toList).map String.ofList

/-- The pieces of a text between the occurrences of `c`. -/
def splitOn (c : Char) (s : String) : List String := (pieces (· == c) s.toList).map String.ofList

/-- Whether `s` begins with `head`. -/
def startsWith (head s : String) : Bool := head.toList.isPrefixOf s.toList

/-- Whether `part` occurs in `s`, on lists of characters. -/
def occursIn (part : List Char) : List Char → Bool
  | [] => part.isEmpty
  | c :: rest => part.isPrefixOf (c :: rest) || occursIn part rest

/-- Whether `part` occurs in `s`. -/
def contains (part s : String) : Bool := occursIn part.toList s.toList

/-- The text before and after the first `c`, if there is one. -/
def splitFirst (c : Char) (s : String) : Option (String × String) :=
  let chars := s.toList
  match chars.dropWhile (· != c) with
  | [] => none
  | _ :: after => some (String.ofList (chars.takeWhile (· != c)), String.ofList after)

/-- ASCII capitals become small letters; every other character stays. -/
def lowerAscii (s : String) : String := String.ofList (s.toList.map Char.toLower)

/-- The texts joined by `separator`. -/
def join (separator : String) : List String → String
  | [] => ""
  | [last] => last
  | head :: tail => head ++ separator ++ join separator tail

end Muster.Text
