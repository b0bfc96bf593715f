import Muster.Text.Printable

/-!
# Quoted texts in messages

A message that names a text puts it between double quotes, so that blanks and controls in it can be
seen. The quote, the backslash and four controls have short escapes, other characters without a
visible form are written by their code point.
-/

set_option autoImplicit false

namespace Muster.Text

/-- The hexadecimal digits of a number, small letters, no leading zeros. -/
def hexNumber (n : Nat) : String := String.ofList (Nat.toDigits 16 n)

/-- How one character stands in a quoted text. -/
def quotedChar (c : Char) : String :=
  match c with
  | '"' => "\\\""
  | '\\' => "\\\\"
  | '\n' => "\\n"
  | '\r' => "\\r"
  | '\t' => "\\t"
  | '\x00' => "\\0"
  | _ => if isShown c then String.singleton c else "\\u\x7b" ++ hexNumber c.toNat ++ "\x7d"

/-- The text between double quotes, with escapes for what cannot be seen. -/
def quoted (s : String) : String :=
  "\"" ++ String.join (s.toList.map quotedChar) ++ "\""

end Muster.Text
