import Muster.Text.Blank
import Muster.Text.Decimal

/-!
# The network of a machine

Which addresses a machine can listen on and which ones it can reach. An isolated machine can listen
on its own addresses and reaches nobody.
-/

set_option autoImplicit false

namespace Muster

/-- What a machine can do with addresses of the form `host:port`. -/
structure Network where
  canListen : String → Bool
  canReach : String → Bool

namespace Network

/-- The value of a part of a numeric address: digits without a leading zero, up to 255. -/
def octet? (s : String) : Option Nat :=
  match Text.natOf? 255 s with
  | some n => if Text.decimal n = s then some n else none
  | none => none

/-- Whether the host of an address is every address of the machine or its own. -/
def isOwnHost (host : String) : Bool :=
  match (Text.splitOn '.' host).mapM octet? with
  | some [0, 0, 0, 0] => true
  | some [127, _, _, _] => true
  | _ => host = "[::]" || host = "[::1]"

/-- Whether a text is the number of a port. -/
def isPort (s : String) : Bool := s.toList.all Text.isDigit && (Text.natOf? 65535 s).isSome

/-- Whether an address is one of the machine's own. -/
def isOwn (address : String) : Bool :=
  match (Text.splitOn ':' address).reverse with
  | port :: rest => isPort port && isOwnHost (Text.join ":" rest.reverse)
  | [] => false

/-- The network of a machine that reaches nobody. -/
def isolated : Network := ⟨isOwn, fun _ => false⟩

end Network

end Muster
