import Muster.Host.FileTree
import Muster.Json.Decode

/-!
# Why the program gives up

Each failure says what was being done; the causes below it are counted, as they are listed when the
program ends.
-/

set_option autoImplicit false

namespace Muster

/-- Why the program ends in a failure. -/
inductive DaemonError where
  | unknownMode (mode : String)
  /-- The file of the request to submit is not named. -/
  | noRequest
  | cannotListen (address : String)
  | unreadableRequest (path : String) (cause : FileError)
  | invalidRequest (path : String) (cause : Json.Mismatch)
  | unreachableServer (address : String)
  /-- The server did not take the request. -/
  | rejected (reason : String)
  deriving DecidableEq, Repr

namespace DaemonError

/-- The wording of a failure. -/
def message : DaemonError → String
  | .unknownMode mode => "unknown mode " ++ Text.quoted mode ++ ", expected server, agent or submit"
  | .noRequest => "usage: fleetd submit <request.json>"
  | .cannotListen address => "failed to bind bus hub on " ++ address
  | .unreadableRequest path _ => "failed to read " ++ path
  | .invalidRequest path _ => "invalid request in " ++ path
  | .unreachableServer address => "failed to reach server at " ++ address
  | .rejected reason => "server rejected request: " ++ reason

/-- The number of causes below a failure: that of a connection has one of its own. -/
def causes : DaemonError → Nat
  | .unknownMode _ | .noRequest | .rejected _ => 0
  | .cannotListen _ | .unreadableRequest _ _ | .invalidRequest _ _ => 1
  | .unreachableServer _ => 2

/-- The first line that the program ends with. -/
def report (e : DaemonError) : String := (Text.lines ("Error: " ++ e.message)).headD ""

end DaemonError

end Muster
