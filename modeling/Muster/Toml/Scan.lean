import Muster.Text.Decimal
import Muster.Toml.Basic

/-!
# Words of a settings document

Readers of the smallest parts of a settings document: blanks, comments, keys, texts, numbers and
moments. A reader takes the characters from its place on and gives what it read and what remains, or
`none` where the grammar is broken.
-/

set_option autoImplicit false

namespace Muster.Toml

/-- What a reader gives: a value and the characters behind it. -/
abbrev Scan (α : Type) := Option (α × List Char)

/-- Whether a character is a blank within a line. -/
def isGap (c : Char) : Bool := c = ' ' || c = '\t'

/-- Whether a character may stand as it is in comments and texts of one line. -/
def isShown (c : Char) : Bool := c = '\t' || 0x20 ≤ c.toNat && c.toNat ≠ 0x7F

/-- What remains behind blanks within a line. -/
def skipGap (rest : List Char) : List Char := rest.dropWhile isGap

/-- What remains behind the end of a line, if one stands here. -/
def newline? : List Char → Option (List Char)
  | '\n' :: rest => some rest
  | '\r' :: '\n' :: rest => some rest
  | _ => none

/-- What remains behind a comment, if one stands here. -/
def skipComment : List Char → List Char
  | '#' :: rest => rest.dropWhile isShown
  | rest => rest

/-- What remains behind the end of a line or at the end of the document. -/
def lineEnd : List Char → Option (List Char)
  | [] => some []
  | rest => newline? rest

/-- What remains behind blanks, a comment and the end of a line. -/
def skipLine (rest : List Char) : Option (List Char) := lineEnd (skipComment (skipGap rest))

/-- What remains behind blanks, comments and ends of lines. -/
def skipSpace : (fuel : Nat) → List Char → List Char
  | 0, rest => rest
  | fuel + 1, rest =>
    match rest with
    | '#' :: _ => skipSpace fuel (skipComment rest)
    | c :: tail =>
      if isGap c then skipSpace fuel tail
      else
        match newline? rest with
        | some rest => skipSpace fuel rest
        | none => rest
    | [] => []

/-- The value of a hexadecimal digit. -/
def digit? (c : Char) : Option Nat :=
  if '0' ≤ c ∧ c ≤ '9' then some (c.toNat - 48)
  else if 'a' ≤ c ∧ c ≤ 'f' then some (c.toNat - 87)
  else if 'A' ≤ c ∧ c ≤ 'F' then some (c.toNat - 55)
  else none

/-- Whether a character is a digit to a base. -/
def isDigitTo (base : Nat) (c : Char) : Bool :=
  match digit? c with
  | some d => d < base
  | none => false

/-- The number of a run of digits to a base. -/
def numberTo (base : Nat) (run : List Char) : Nat :=
  run.foldl (fun n c => n * base + (digit? c).getD 0) 0

/-! ## Texts -/

/-- A character given by `count` hexadecimal digits. -/
def readCode (count : Nat) (rest : List Char) : Scan Char :=
  let run := rest.take count
  let code := numberTo 16 run
  if run.length = count ∧ run.all (isDigitTo 16) ∧ code.isValidChar then
    some (Char.ofNat code, rest.drop count)
  else none

/-- The character of an escape, read behind its backslash. -/
def readEscape : List Char → Scan Char
  | 'b' :: rest => some ('\x08', rest)
  | 't' :: rest => some ('\t', rest)
  | 'n' :: rest => some ('\n', rest)
  | 'f' :: rest => some ('\x0c', rest)
  | 'r' :: rest => some ('\r', rest)
  | '"' :: rest => some ('"', rest)
  | '\\' :: rest => some ('\\', rest)
  | 'u' :: rest => readCode 4 rest
  | 'U' :: rest => readCode 8 rest
  | _ => none

/-- Reads a text of one line up to its closing double quote. -/
def readBasic : (fuel : Nat) → (done : List Char) → List Char → Scan String
  | 0, _, _ => none
  | fuel + 1, done, rest =>
    match rest with
    | '"' :: rest => some (String.ofList done.reverse, rest)
    | '\\' :: rest =>
      match readEscape rest with
      | some (c, rest) => readBasic fuel (c :: done) rest
      | none => none
    | c :: rest => if isShown c then readBasic fuel (c :: done) rest else none
    | [] => none

/-- Up to two more quotes in front of the end of a text of several lines. -/
def readClosing (quote : Char) (done : List Char) : List Char → String × List Char
  | a :: b :: rest =>
    if a = quote ∧ b = quote then (String.ofList (quote :: quote :: done).reverse, rest)
    else if a = quote then (String.ofList (quote :: done).reverse, b :: rest)
    else (String.ofList done.reverse, a :: b :: rest)
  | [a] =>
    if a = quote then (String.ofList (quote :: done).reverse, [])
    else (String.ofList done.reverse, [a])
  | [] => (String.ofList done.reverse, [])

/-- What remains behind blanks and ends of lines. -/
def skipBlankLines : (fuel : Nat) → List Char → List Char
  | 0, rest => rest
  | fuel + 1, rest =>
    match newline? (skipGap rest) with
    | some rest => skipBlankLines fuel rest
    | none => skipGap rest

/-- Reads a text of several lines up to its three closing double quotes. -/
def readLong : (fuel : Nat) → (done : List Char) → List Char → Scan String
  | 0, _, _ => none
  | fuel + 1, done, rest =>
    match rest with
    | '"' :: '"' :: '"' :: rest => some (readClosing '"' done rest)
    | '\\' :: rest =>
      match newline? (skipGap rest) with
      | some rest => readLong fuel done (skipBlankLines (rest.length + 1) rest)
      | none =>
        match readEscape rest with
        | some (c, rest) => readLong fuel (c :: done) rest
        | none => none
    | c :: tail =>
      match newline? rest with
      | some rest => readLong fuel ('\n' :: done) rest
      | none => if isShown c then readLong fuel (c :: done) tail else none
    | [] => none

/-- Reads a text without escapes up to its closing single quote. -/
def readLiteral : (done : List Char) → List Char → Scan String
  | done, '\'' :: rest => some (String.ofList done.reverse, rest)
  | done, c :: rest => if isShown c then readLiteral (c :: done) rest else none
  | _, [] => none

/-- Reads a text of several lines without escapes up to its three closing single quotes. -/
def readLongLiteral : (fuel : Nat) → (done : List Char) → List Char → Scan String
  | 0, _, _ => none
  | fuel + 1, done, rest =>
    match rest with
    | '\'' :: '\'' :: '\'' :: rest => some (readClosing '\'' done rest)
    | c :: tail =>
      match newline? rest with
      | some rest => readLongLiteral fuel ('\n' :: done) rest
      | none => if isShown c then readLongLiteral fuel (c :: done) tail else none
    | [] => none

/-- What remains behind an end of line right behind the opening quotes of a text. -/
def skipFirstNewline (rest : List Char) : List Char := (newline? rest).getD rest

/-- Reads a text from its opening quote on. -/
def readText (rest : List Char) : Scan String :=
  match rest with
  | '"' :: '"' :: '"' :: rest => readLong (rest.length + 1) [] (skipFirstNewline rest)
  | '"' :: rest => readBasic (rest.length + 1) [] rest
  | '\'' :: '\'' :: '\'' :: rest => readLongLiteral (rest.length + 1) [] (skipFirstNewline rest)
  | '\'' :: rest => readLiteral [] rest
  | _ => none

/-! ## Keys -/

/-- Whether a character may stand in a key without quotes. -/
def isBare (c : Char) : Bool :=
  ('a' ≤ c && c ≤ 'z') || ('A' ≤ c && c ≤ 'Z') || ('0' ≤ c && c ≤ '9') || c = '-' || c = '_'

/-- Reads one key; a quoted one has to end in its line. -/
def readKey (rest : List Char) : Scan String :=
  match rest with
  | '"' :: rest => readBasic (rest.length + 1) [] rest
  | '\'' :: rest => readLiteral [] rest
  | _ =>
    match rest.takeWhile isBare with
    | [] => none
    | run => some (String.ofList run, rest.dropWhile isBare)

/-- Reads keys with points between them; `fuel` bounds their number. -/
def readKeys : (fuel : Nat) → List Char → Scan (List String)
  | 0, _ => none
  | fuel + 1, rest =>
    match readKey (skipGap rest) with
    | none => none
    | some (key, rest) =>
      match skipGap rest with
      | '.' :: rest => (readKeys fuel rest).map fun (keys, rest) => (key :: keys, rest)
      | rest => some ([key], rest)

/-- How deep lists, tables between braces and keys with points may go. -/
def depthBound : Nat := 79

/-! ## Numbers -/

/-- Reads the digits behind the first; a single underscore may stand in front of each. -/
def readMoreDigits (base : Nat) : List Char → Scan (List Char)
  | '_' :: c :: rest =>
    if isDigitTo base c then (readMoreDigits base rest).map fun (run, rest) => (c :: run, rest)
    else none
  | ['_'] => none
  | c :: rest =>
    if isDigitTo base c then (readMoreDigits base rest).map fun (run, rest) => (c :: run, rest)
    else some ([], c :: rest)
  | [] => some ([], [])

/-- Reads one or more digits. -/
def readDigits (base : Nat) : List Char → Scan (List Char)
  | c :: rest =>
    if isDigitTo base c then (readMoreDigits base rest).map fun (run, rest) => (c :: run, rest)
    else none
  | [] => none

/-- Reads the integral digits of a number: a zero stands alone. -/
def readIntegral : List Char → Scan (List Char)
  | '0' :: rest => some (['0'], rest)
  | rest => readDigits 10 rest

/-- Reads the fraction of a number from its point on, if there is one. -/
def readFraction : List Char → Scan (Option (List Char))
  | '.' :: rest => (readDigits 10 rest).map fun (run, rest) => (some run, rest)
  | rest => some (none, rest)

/-- Reads an exponent behind its letter. -/
def readPower (rest : List Char) : Scan (Option (Bool × List Char)) :=
  let (below, rest) := match rest with
    | '+' :: rest => (false, rest)
    | '-' :: rest => (true, rest)
    | rest => (false, rest)
  (readDigits 10 rest).map fun (run, rest) => (some (below, run), rest)

/-- Reads the exponent of a number, if there is one. -/
def readExponent : List Char → Scan (Option (Bool × List Char))
  | 'e' :: rest => readPower rest
  | 'E' :: rest => readPower rest
  | rest => some (none, rest)

/-- Whether a number is too large for a floating point number of sixty-four bits: its digits without
the point, and the power of ten that they count. -/
def overflows (digits : List Char) (power : Int) : Bool :=
  let size := numberTo 10 digits
  let bound := Nat.pow 2 1024 - Nat.pow 2 970
  if size = 0 then false
  else if 400 < power then true
  else if power + digits.length < 300 then false
  else if 0 ≤ power then bound ≤ size * Nat.pow 10 power.toNat
  else bound * Nat.pow 10 power.natAbs ≤ size

/-- The value of a number that is read as sign, integral digits, fraction and exponent. -/
def numberValue (negative : Bool) (integral : List Char) (fraction : Option (List Char))
    (exponent : Option (Bool × List Char)) : Option Toml :=
  let sign := if negative then ['-'] else []
  match fraction, exponent with
  | none, none =>
    let size := numberTo 10 integral
    let value : Int := if negative then -size else size
    let bound : Int := (UInt64.size / 2 : Nat)
    if -bound ≤ value ∧ value < bound then some (.integer value) else none
  | _, _ =>
    let digits := integral ++ fraction.getD []
    let power : Int := match exponent with
      | none => 0
      | some (true, run) => -(numberTo 10 run : Int)
      | some (false, run) => numberTo 10 run
    if !negative && overflows digits (power - (fraction.getD []).length) then none
    else
      let behind := match fraction with
        | none => []
        | some run => '.' :: run
      let raised := match exponent with
        | none => []
        | some (below, run) => 'e' :: ((if below then ['-'] else []) ++ run)
      some (.real (String.ofList (sign ++ integral ++ behind ++ raised)))

/-- Reads a number behind its sign. -/
def readMagnitude (negative : Bool) (rest : List Char) : Option (Toml × List Char) :=
  match rest with
  | 'i' :: 'n' :: 'f' :: rest => some (.real (if negative then "-inf" else "inf"), rest)
  | 'n' :: 'a' :: 'n' :: rest => some (.real "nan", rest)
  | _ => do
    let (integral, rest) ← readIntegral rest
    let (fraction, rest) ← readFraction rest
    let (exponent, rest) ← readExponent rest
    let value ← numberValue negative integral fraction exponent
    return (value, rest)

/-- Reads a number to another base than ten, behind the letter that names the base. -/
def readBased (base : Nat) (rest : List Char) : Scan Toml :=
  match readDigits base rest with
  | none => none
  | some (run, rest) =>
    let value := numberTo base run
    if value < UInt64.size / 2 then some (.integer value, rest) else none

/-- Reads a number. -/
def readNumber : List Char → Scan Toml
  | '+' :: rest => readMagnitude false rest
  | '-' :: rest => readMagnitude true rest
  | '0' :: 'x' :: rest => readBased 16 rest
  | '0' :: 'o' :: rest => readBased 8 rest
  | '0' :: 'b' :: rest => readBased 2 rest
  | rest => readMagnitude false rest

/-! ## Moments -/

/-- Reads a number of exactly `count` digits. -/
def readFixed (count : Nat) (rest : List Char) : Scan Nat :=
  let run := rest.take count
  if run.length = count ∧ run.all (isDigitTo 10) then some (numberTo 10 run, rest.drop count)
  else none

/-- Reads a number of exactly `count` digits within bounds. -/
def readWithin (count low high : Nat) (rest : List Char) : Scan Nat :=
  (readFixed count rest).filter fun (n, _) => low ≤ n ∧ n ≤ high

/-- Reads one certain character. -/
def readMark (mark : Char) : List Char → Scan Unit
  | c :: rest => if c = mark then some ((), rest) else none
  | [] => none

/-- The number of days of a month. -/
def daysOf (year month : Nat) : Nat :=
  if month = 2 then
    if year % 4 = 0 ∧ (year % 100 ≠ 0 ∨ year % 400 = 0) then 29 else 28
  else if month = 4 ∨ month = 6 ∨ month = 9 ∨ month = 11 then 30
  else 31

/-- What remains behind a date. -/
def skipDate (rest : List Char) : Option (List Char) := do
  let (year, rest) ← readFixed 4 rest
  let ((), rest) ← readMark '-' rest
  let (month, rest) ← readWithin 2 1 12 rest
  let ((), rest) ← readMark '-' rest
  let (_, rest) ← readWithin 2 1 (daysOf year month) rest
  return rest

/-- What remains behind a time of day. -/
def skipTime (rest : List Char) : Option (List Char) := do
  let (_, rest) ← readWithin 2 0 23 rest
  let ((), rest) ← readMark ':' rest
  let (_, rest) ← readWithin 2 0 59 rest
  let ((), rest) ← readMark ':' rest
  let (_, rest) ← readWithin 2 0 60 rest
  match rest with
  | '.' :: rest =>
    match rest.takeWhile (isDigitTo 10) with
    | [] => none
    | run => some (rest.drop run.length)
  | rest => some rest

/-- What remains behind the offset of a time, if there is one. -/
def skipOffset : List Char → Option (List Char)
  | 'Z' :: rest => some rest
  | 'z' :: rest => some rest
  | '+' :: rest => hours rest
  | '-' :: rest => hours rest
  | rest => some rest
where
  /-- Hours and minutes behind the sign. -/
  hours (rest : List Char) : Option (List Char) := do
    let (_, rest) ← readWithin 2 0 23 rest
    let ((), rest) ← readMark ':' rest
    let (_, rest) ← readWithin 2 0 59 rest
    return rest

/-- Whether a character may stand between a date and a time. -/
def isBetween (c : Char) : Bool := c = 'T' || c = 't' || c = ' '

/-- What remains behind a date and what belongs to it. -/
def skipMoment (rest : List Char) : Option (List Char) := do
  let rest ← skipDate rest
  match rest with
  | c :: tail =>
    if isBetween c then
      match skipTime tail with
      | some tail => skipOffset tail
      | none => some rest
    else some rest
  | [] => some []

/-- Reads a date, a time of day or both. -/
def readMoment (rest : List Char) : Scan Toml :=
  ((skipMoment rest).orElse fun _ => skipTime rest).map fun left =>
    (.moment (String.ofList (rest.take (rest.length - left.length))), left)

end Muster.Toml
