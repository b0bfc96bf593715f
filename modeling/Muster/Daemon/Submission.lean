import Muster.Daemon.Error
import Muster.Daemon.Network
import Muster.Operation

/-!
# Submissions

A request for an operation is read from a file and handed to the server, which answers with the id
of the operation or with its reason for not taking it.
-/

set_option autoImplicit false

namespace Muster.Submission

/-- The answer of the server to a request. -/
inductive Response where
  | accepted (operationId : String)
  | rejected (error : String)
  deriving DecidableEq, Repr

/-- The document of an answer. -/
def Response.write : Response → Json
  | .accepted id => .obj [("result", .str "accepted"), ("operation_id", .str id)]
  | .rejected error => .obj [("result", .str "rejected"), ("error", .str error)]

/-- The request in a file. -/
def read (files : FileTree) (path : String) : Except DaemonError OperationRequest :=
  match files.read path with
  | .error cause => .error (.unreadableRequest path cause)
  | .ok data => (OperationRequest.codec.decode data).mapError (.invalidRequest path)

/-- The request in a file, once the server at an address is there to take it: the file is read
before the server is sought. -/
def prepare (net : Network) (server : String) (files : FileTree) (path : String) :
    Except DaemonError OperationRequest := do
  let request ← read files path
  if net.canReach server then return request else .error (.unreachableServer server)

end Muster.Submission
