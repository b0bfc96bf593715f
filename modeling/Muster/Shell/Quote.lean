import Muster.Text.Blank

/-!
# Words of a shell command

A text becomes one word of a shell command by being quoted. Texts made of letters, digits and a few
harmless signs stay as they are; every other text stands between single quotes, and a single quote in
it is written outside of them, behind a backslash.
-/

set_option autoImplicit false

namespace Muster.Shell

/-- The characters that mean themselves anywhere in a shell command. -/
def isPlain (c : Char) : Bool :=
  ('a' ≤ c && c ≤ 'z') || ('A' ≤ c && c ≤ 'Z') || ('0' ≤ c && c ≤ '9')
    || "_@%+=:,./-".toList.contains c

/-- A character between single quotes. -/
def quotedChar (c : Char) : List Char :=
  if c = '\'' then ['\'', '\\', '\'', '\''] else [c]

/-- A text as one word of a shell command, on lists of characters. -/
def quoteChars (arg : List Char) : List Char :=
  if !arg.isEmpty && arg.all isPlain then arg
  else '\'' :: (arg.flatMap quotedChar ++ ['\''])

/-- A text as one word of a shell command. -/
def quote (arg : String) : String := String.ofList (quoteChars arg.toList)

/-- Texts as the words of a shell command. -/
def wordList (args : List String) : String := Text.join " " (args.map quote)

end Muster.Shell
