import Muster.Host.Script

/-!
# Starting and joining clusters with kubeadm

Commands that start or join a cluster are tried again after a reset, up to a number of attempts. The
join commands that kubeadm prints are spread over lines; they are gathered, brought into a normal
form of words parted by single spaces, and their endpoint can be replaced.
-/

set_option autoImplicit false

namespace Muster.Kubeadm

/-- How often and how patiently a command is tried. -/
structure RetryPolicy where
  attempts : Nat
  backoffMs : Nat
  deriving DecidableEq, Repr, Inhabited

/-- Five attempts, three seconds apart. -/
def RetryPolicy.standard : RetryPolicy := ⟨5, 3000⟩

/-- The command that takes back a failed attempt. -/
def reset : String := "kubeadm reset -f"

/-- Tries once and, while attempts are `left`, again after a reset and a pause; `n` is the number of
the attempt. -/
def retryFrom (backoffMs : Nat) (attempt : Procedure CommandOutput) :
    (left n : Nat) → Procedure (CommandOutput × Nat)
  | 0, n => do
    let output ← attempt
    return (output, n)
  | left + 1, n => do
    match ← attempt.attempt with
    | .ok output => return (output, n)
    | .error _ =>
      Procedure.runAnyway reset none
      Procedure.pause backoffMs
      retryFrom backoffMs attempt left (n + 1)

/-- Tries until an attempt succeeds, and gives its output and its number; when all attempts fail, the
failure of the last one stands. -/
def retry (policy : RetryPolicy) (attempt : Procedure CommandOutput) :
    Procedure (CommandOutput × Nat) :=
  retryFrom policy.backoffMs attempt (policy.attempts - 1) 1

/-- A command in normal form: its words without the backslashes at their ends, joined by spaces. -/
def normalize (raw : String) : String :=
  let words := (Text.words raw).map (Text.trimEndOf '\\')
  Text.join " " (words.filter fun word => !word.isEmpty)

/-- The words of a join command with the one behind the first `join` replaced, unless that is an
option. -/
def replaceEndpoint (endpoint : String) : List String → List String
  | [] => []
  | word :: rest =>
    if word = "join" then
      match rest with
      | [] => [word]
      | next :: more => if Text.startsWith "--" next then word :: next :: more else word :: endpoint :: more
    else word :: replaceEndpoint endpoint rest

/-- A join command with another endpoint. -/
def rewriteEndpoint (command endpoint : String) : String :=
  Text.join " " (replaceEndpoint endpoint (Text.words command))

/-- The join commands that starting a cluster prints. -/
structure JoinCommands where
  controlPlane : Option String
  worker : Option String
  deriving DecidableEq, Repr, Inhabited

namespace JoinCommands

/-- Takes in a complete command; of each kind the first one stays. -/
def add (found : JoinCommands) (raw : String) : JoinCommands :=
  let command := normalize raw
  if Text.contains "--control-plane" command then
    { found with controlPlane := found.controlPlane.or (some command) }
  else { found with worker := found.worker.or (some command) }

/-- Whether the next line belongs to a command. -/
def continues (raw : String) : Bool :=
  (Text.trimEnd raw).toList.getLast? = some '\\'

/-- Takes in the lines of an output; `open_` is a command that waits for its next line. -/
def gather (found : JoinCommands) (open_ : Option String) : List String → JoinCommands
  | [] =>
    match open_ with
    | none => found
    | some raw => found.add raw
  | line :: rest =>
    let raw? := match open_ with
      | some raw => some (raw ++ "\n" ++ line)
      | none =>
        if Text.startsWith "kubeadm join" (Text.trimStart line) then some (Text.trim line) else none
    match raw? with
    | none => gather found none rest
    | some raw =>
      if continues raw then gather found (some raw) rest
      else gather (found.add raw) none rest

/-- The join commands in an output. -/
def parse (output : String) : JoinCommands := gather ⟨none, none⟩ none (Text.lines output)

end JoinCommands

/-- The document that sets up a cluster. -/
def clusterConfiguration (name version endpoint podCidr serviceCidr : String) : String :=
  "apiVersion: kubeadm.k8s.io/v1beta3\n" ++
  "kind: ClusterConfiguration\n" ++
  "clusterName: " ++ name ++ "\n" ++
  "kubernetesVersion: " ++ version ++ "\n" ++
  "controlPlaneEndpoint: " ++ endpoint ++ "\n" ++
  "networking:\n" ++
  "  podSubnet: " ++ podCidr ++ "\n" ++
  "  serviceSubnet: " ++ serviceCidr ++ "\n"

/-- The document that starts the first master. -/
def initConfiguration (address : String) (port : UInt16) (name : String) : String :=
  "apiVersion: kubeadm.k8s.io/v1beta3\n" ++
  "kind: InitConfiguration\n" ++
  "localAPIEndpoint:\n" ++
  "  advertiseAddress: " ++ address ++ "\n" ++
  "  bindPort: " ++ Text.decimal port.toNat ++ "\n" ++
  "nodeRegistration:\n" ++
  "  name: " ++ name ++ "\n"

end Muster.Kubeadm
