import Muster.Text.Blank
import Muster.Text.Decimal
import Muster.Toml.Basic

/-!
# Writing settings documents

A text is written in the first of these ways that can hold it: between double quotes, between single
quotes, between three double quotes, between three single quotes; and with escapes when none of them
can hold it without.
-/

set_option autoImplicit false

namespace Muster.Toml

/-- The length of the longest run of a character. -/
def longestRun (c : Char) (s : List Char) : Nat :=
  (s.foldl (fun (longest, run) d =>
    let run := if d = c then run + 1 else 0
    (max longest run, run)) (0, 0)).1

/-- Whether a character can only be written by an escape. -/
def needsEscape (c : Char) : Bool :=
  c ≠ '\t' && c ≠ '\n' && (c.toNat < 0x20 || c.toNat = 0x7F)

/-- The escape of a character by four hexadecimal digits. -/
def codeEscape (c : Char) : List Char :=
  let digits := (Nat.toDigits 16 c.toNat).map Char.toUpper
  '\\' :: 'u' :: (List.replicate (4 - digits.length) '0' ++ digits)

/-- A character between double quotes; `long` says that there are three of them on each side. -/
def escaped (long : Bool) (c : Char) : List Char :=
  match c with
  | '\x08' => ['\\', 'b']
  | '\t' => ['\\', 't']
  | '\n' => if long then ['\n'] else ['\\', 'n']
  | '\x0c' => ['\\', 'f']
  | '\r' => ['\\', 'r']
  | '\\' => ['\\', '\\']
  | c => if needsEscape c then codeEscape c else [c]

/-- The characters of a text between double quotes; `quotes` of them in a row may stand there
without an escape, of which `run` have gone by. -/
def writeEscaped (long : Bool) (quotes : Nat) : (run : Nat) → List Char → List Char
  | _, [] => []
  | run, '"' :: rest =>
    if run < quotes then '"' :: writeEscaped long quotes (run + 1) rest
    else '\\' :: '"' :: writeEscaped long quotes 0 rest
  | _, c :: rest => escaped long c ++ writeEscaped long quotes 0 rest

/-- A text with its quotes. -/
def writeText (value : String) : String :=
  let s := value.toList
  let several := s.contains '\n'
  let hidden := s.any needsEscape
  let slashed := s.contains '\\'
  let singles := longestRun '\'' s
  let doubles := longestRun '"' s
  let start := if several then "\n" else ""
  if !hidden && !slashed && doubles = 0 && !several then
    "\"" ++ String.ofList (writeEscaped false 0 0 s) ++ "\""
  else if !hidden && singles = 0 && !several then "'" ++ value ++ "'"
  else if !hidden && !slashed && doubles ≤ 2 then
    "\"\"\"" ++ start ++ String.ofList (writeEscaped true 2 0 s) ++ "\"\"\""
  else if !hidden && singles ≤ 2 then "'''" ++ start ++ value ++ "'''"
  else if several then
    "\"\"\"" ++ start ++ String.ofList (writeEscaped true 2 0 s) ++ "\"\"\""
  else "\"" ++ String.ofList (writeEscaped false 0 0 s) ++ "\""

/-- A plain value: a text, a number or a Boolean. Other values are not written. -/
def writePlain : Toml → String
  | .text s => writeText s
  | .integer n => if n < 0 then "-" ++ Text.decimal n.natAbs else Text.decimal n.natAbs
  | .boolean b => if b then "true" else "false"
  | .real lexeme | .moment lexeme => lexeme
  | .array _ | .tables _ | .table _ _ => ""

/-- The lines of a table with a header and plain values. -/
def writeSection (name : String) (entries : Entries) : String :=
  "[" ++ name ++ "]\n"
    ++ Text.join "" (entries.map fun (key, value) => key ++ " = " ++ writePlain value ++ "\n")

end Muster.Toml
