import Muster.Host.FileTree
import Muster.Identifier
import Muster.Operation

/-!
# The store

`Records` is what an orchestrator remembers: operations, clusters, and every machine it has heard of.
What is known of a machine's agent belongs to the machine, not to a cluster: saving a cluster never
changes it. A `Store` may keep its records in a file as well; the file is written anew after every
change and moved into place, so that it always holds one whole state.
-/

set_option autoImplicit false

namespace Muster

open Json (Codec Record)

/-- What an orchestrator remembers, each by id. -/
structure Records where
  operations : Dict Operation
  clusters : Dict Cluster
  machines : Dict Machine
  deriving DecidableEq

namespace Records

/-- Nothing is remembered. -/
def empty : Records := ⟨.empty, .empty, .empty⟩

/-- The members of a record file. -/
def record : Record Records Records :=
  Records.mk
    <$> .member "operations" (.dict Operation.codec) operations
    <*> .member "clusters" (.dict Cluster.codec) clusters
    <*> .member "nodes" (.dict Machine.codec) machines

/-- The content of a record file. -/
def codec : Codec Records := record.codec "Snapshot"

/-- The bytes of a record file. -/
def encode (r : Records) : ByteArray := (codec.write r).pretty.toUTF8

/-- Keeps an operation in place of an earlier record of it. -/
def saveOperation (r : Records) (op : Operation) : Records :=
  { r with operations := r.operations.insert op.id op }

/-- The machine with what is known of its agent. -/
def known (machines : Dict Machine) (m : Machine) : Machine :=
  match machines.get? m.id with
  | some old => m.withAgentStatus old.agentStatus
  | none => m

/-- Keeps machines; what is known of their agents stays. -/
def addMachines (machines : Dict Machine) : List Machine → List Machine × Dict Machine
  | [] => ([], machines)
  | m :: rest =>
    let m := known machines m
    let (later, machines) := addMachines (machines.insert m.id m) rest
    (m :: later, machines)

/-- Keeps a cluster in place of an earlier record of it, and its machines. -/
def saveCluster (r : Records) (c : Cluster) : Records :=
  let (kept, machines) := addMachines r.machines c.machines
  { r with clusters := r.clusters.insert c.id { c with machines := kept }, machines }

/-- The machines with the first one of an id changed. -/
def modifyFirst (id : String) (f : Machine → Machine) : List Machine → List Machine
  | [] => []
  | m :: rest => if m.id = id then f m :: rest else m :: modifyFirst id f rest

/-- Notes what is known of the agent of a machine, if there is such a machine. -/
def setAgentStatus? (r : Records) (id : String) (status : AgentStatus) : Option Records :=
  if r.machines.contains id then
    some
      { r with
        machines := r.machines.modify id fun m => m.withAgentStatus status
        clusters := r.clusters.map fun c =>
          { c with machines := modifyFirst id (fun m => m.withAgentStatus status) c.machines } }
  else none

/-- Every machine, ordered by id. -/
def allMachines (r : Records) : List Machine :=
  r.machines.values.mergeSort fun a b => decide (a.id ≤ b.id)

/-- Whether the agent of a machine is known to be unreachable. -/
def isUnreachable (r : Records) (id : String) : Bool :=
  match r.machines.get? id with
  | some m => m.agentStatus = .unreachable
  | none => false

end Records

/-- Why a change was not made or not kept. -/
inductive StoreError where
  | unknownMachine (id : String)
  /-- The change was made; the file could not be written. -/
  | io (cause : FileError)
  deriving DecidableEq, Repr

namespace StoreError

/-- The wording of a failure. -/
def message : StoreError → String
  | .unknownMachine id => "unknown node " ++ id
  | .io cause => cause.message

end StoreError

/-- Records, and the file that they are kept in, if any. -/
structure Store where
  records : Records
  path : Option String
  identifiers : Identifiers

namespace Store

/-- A store that keeps nothing beyond its own life. -/
def inMemory : Store := ⟨.empty, none, ⟨0⟩⟩

/-- The records in a file; a file that is missing or cannot be read counts as empty. -/
def load (t : FileTree) (path : String) : Records :=
  match t.readText path with
  | .error _ => .empty
  | .ok text =>
    match Records.codec.decode text.toUTF8 with
    | .ok records => records
    | .error _ => .empty

/-- A store that keeps its records in a file and begins with those that are there. -/
def atPath (t : FileTree) (path : String) : Store := ⟨load t path, some path, ⟨0⟩⟩

/-- Writes bytes to a file of a fresh name and moves it to its place. -/
def replaceFile (t : FileTree) (fresh path : String) (data : ByteArray) :
    Except FileError Unit × FileTree :=
  let (made, t) := match Path.parent? path with
    | some parent => t.makeDirectories parent
    | none => (.ok (), t)
  match made with
  | .error e => (.error e, t)
  | .ok () =>
    match t.write fresh data with
    | .error e => (.error e, t)
    | .ok t =>
      match t.rename fresh path with
      | .ok t => (.ok (), t)
      | .error e =>
        match t.remove fresh with
        | .ok t => (.error e, t)
        | .error _ => (.error e, t)

/-- Keeps new records, in the file too if there is one. -/
def keep (s : Store) (t : FileTree) (records : Records) : Except StoreError Unit × Store × FileTree :=
  match s.path with
  | none => (.ok (), { s with records }, t)
  | some path =>
    let (id, identifiers) := s.identifiers.fresh
    let fresh := Path.withExtension path ("json." ++ id ++ ".tmp")
    let (outcome, t) := replaceFile t fresh path records.encode
    (outcome.mapError .io, { s with records, identifiers }, t)

/-- Saves an operation. -/
def saveOperation (s : Store) (t : FileTree) (op : Operation) :
    Except StoreError Unit × Store × FileTree :=
  s.keep t (s.records.saveOperation op)

/-- Saves a cluster. -/
def saveCluster (s : Store) (t : FileTree) (c : Cluster) :
    Except StoreError Unit × Store × FileTree :=
  s.keep t (s.records.saveCluster c)

/-- Notes what is known of the agent of a machine. -/
def setAgentStatus (s : Store) (t : FileTree) (id : String) (status : AgentStatus) :
    Except StoreError Unit × Store × FileTree :=
  match s.records.setAgentStatus? id status with
  | some records => s.keep t records
  | none => (.error (.unknownMachine id), s, t)

end Store

end Muster
