import Muster.Text.Decimal

/-!
# JSON documents that are written

`Json` holds what the records of this library are made of: texts, natural numbers below `2 ^ 64`,
Booleans, lists and objects whose members keep their order. `compact` writes a document without
blanks and `pretty` writes one member to a line.
-/

set_option autoImplicit false

namespace Muster

/-- A document to be written. -/
inductive Json where
  | null
  | bool (value : Bool)
  | nat (value : UInt64)
  | str (value : String)
  | arr (items : List Json)
  | obj (members : List (String × Json))
  deriving Repr, Inhabited

namespace Json

/-- The escape of a character inside a JSON text. -/
def escaped (c : Char) : List Char :=
  match c with
  | '"' => ['\\', '"']
  | '\\' => ['\\', '\\']
  | '\x08' => ['\\', 'b']
  | '\x0c' => ['\\', 'f']
  | '\n' => ['\\', 'n']
  | '\r' => ['\\', 'r']
  | '\t' => ['\\', 't']
  | _ =>
    if c.toNat < 16 then ['\\', 'u', '0', '0', '0', Nat.digitChar c.toNat]
    else if c.toNat < 32 then ['\\', 'u', '0', '0', '1', Nat.digitChar (c.toNat - 16)]
    else [c]

/-- The escapes of the characters, in front of `rest`. -/
def writeChars : List Char → List Char → List Char
  | [], rest => rest
  | c :: cs, rest => escaped c ++ writeChars cs rest

/-- A quoted text in front of `rest`. -/
def writeText (s : String) (rest : List Char) : List Char :=
  '"' :: writeChars s.toList ('"' :: rest)

mutual

/-- The compact form of a document in front of `rest`. -/
def write : Json → List Char → List Char
  | .null, rest => 'n' :: 'u' :: 'l' :: 'l' :: rest
  | .bool true, rest => 't' :: 'r' :: 'u' :: 'e' :: rest
  | .bool false, rest => 'f' :: 'a' :: 'l' :: 's' :: 'e' :: rest
  | .nat n, rest => Text.digits n.toNat ++ rest
  | .str s, rest => writeText s rest
  | .arr items, rest => '[' :: writeItems items rest
  | .obj members, rest => '\x7b' :: writeMembers members rest

/-- The items of a list, in front of its closing bracket and `rest`. -/
def writeItems : List Json → List Char → List Char
  | [], rest => ']' :: rest
  | [last], rest => write last (']' :: rest)
  | item :: items, rest => write item (',' :: writeItems items rest)

/-- The members of an object, in front of its closing brace and `rest`. -/
def writeMembers : List (String × Json) → List Char → List Char
  | [], rest => '\x7d' :: rest
  | [(key, last)], rest => writeText key (':' :: write last ('\x7d' :: rest))
  | (key, value) :: members, rest =>
    writeText key (':' :: write value (',' :: writeMembers members rest))

end

/-- The compact text of a document. -/
def compact (j : Json) : String := String.ofList (j.write [])

/-- A line feed and the indentation of `depth` levels, in front of `rest`. -/
def indent (depth : Nat) (rest : List Char) : List Char :=
  '\n' :: (List.replicate (2 * depth) ' ' ++ rest)

mutual

/-- The form with one member to a line, at `depth` levels, in front of `rest`. -/
def writePretty (depth : Nat) : Json → List Char → List Char
  | .arr [], rest => '[' :: ']' :: rest
  | .arr items, rest => '[' :: writePrettyItems depth items rest
  | .obj [], rest => '\x7b' :: '\x7d' :: rest
  | .obj members, rest => '\x7b' :: writePrettyMembers depth members rest
  | .null, rest => 'n' :: 'u' :: 'l' :: 'l' :: rest
  | .bool true, rest => 't' :: 'r' :: 'u' :: 'e' :: rest
  | .bool false, rest => 'f' :: 'a' :: 'l' :: 's' :: 'e' :: rest
  | .nat n, rest => Text.digits n.toNat ++ rest
  | .str s, rest => writeText s rest

/-- The items of a list with one to a line. -/
def writePrettyItems (depth : Nat) : List Json → List Char → List Char
  | [], rest => indent depth (']' :: rest)
  | [last], rest => indent (depth + 1) (writePretty (depth + 1) last (indent depth (']' :: rest)))
  | item :: items, rest =>
    indent (depth + 1) (writePretty (depth + 1) item (',' :: writePrettyItems depth items rest))

/-- The members of an object with one to a line. -/
def writePrettyMembers (depth : Nat) : List (String × Json) → List Char → List Char
  | [], rest => indent depth ('\x7d' :: rest)
  | [(key, last)], rest =>
    indent (depth + 1) (writeText key (':' :: ' ' ::
      writePretty (depth + 1) last (indent depth ('\x7d' :: rest))))
  | (key, value) :: members, rest =>
    indent (depth + 1) (writeText key (':' :: ' ' ::
      writePretty (depth + 1) value (',' :: writePrettyMembers depth members rest)))

end

/-- The text of a document with one member to a line. -/
def pretty (j : Json) : String := String.ofList (j.writePretty 0 [])

end Json

end Muster
