import Muster.Config
import Muster.Daemon.Submission
import Muster.Engine
import Muster.Plan
import Muster.Store

/-!
# The server

A server listens, keeps its records in a file, drives the operations that it takes in, and looks
after the agents of the machines it knows.
-/

set_option autoImplicit false

namespace Muster

open Engine (Scene Effect)

/-- A running server. -/
structure Server where
  config : Config
  engine : Engine
  store : Store

namespace Server

/-- Starts a server on a machine of the given name: it has to be able to listen, and goes on with
the records that its file holds. -/
def start (net : Network) (machine : String) (c : Config) (files : FileTree) :
    Except DaemonError Server :=
  if net.canListen c.bus.listenAddress then
    let host := if c.server.host.isEmpty then machine else c.server.host
    .ok ⟨c, .started (c.engineSettings host), .atPath files c.server.statePath⟩
  else .error (.cannotListen c.bus.listenAddress)

/-- Looks after the agents of all machines once, if the server is to do so. The file is written only
if there is news. -/
def sweep (net : Network) (s : Server) (files : FileTree) : Server × FileTree :=
  if s.config.liveness.enabled then
    let (report, records) :=
      Liveness.sweep s.config.livenessSettings net.canReach (fun _ => false) s.store.records
    if report.markedUnreachable = 0 ∧ report.recovered = 0 then (s, files)
    else
      let (_, store, files) := s.store.keep files records
      ({ s with store }, files)
  else (s, files)

/-- Takes in a request: it is decoded and planned, its cluster is saved, and an operation of the
given id is started. A refusal says what was wrong first. -/
def intake (scene : Scene) (id : String) (s : Server) (files : FileTree) (payload : ByteArray) :
    Submission.Response × Server × FileTree × List Effect :=
  match OperationRequest.codec.decode payload with
  | .error _ => (.rejected "malformed operation request", s, files, [])
  | .ok request =>
    match Plan.ofRequest request with
    | .error e => (.rejected e.message, s, files, [])
    | .ok steps =>
      match s.store.saveCluster files request.cluster with
      | (.error e, store, files) =>
        (.rejected (EngineError.store e.message).message, { s with store }, files, [])
      | (.ok (), store, files) =>
        let op := Operation.create id request.name request.type request.cluster.id
          request.parameters scene.now.toUInt64
        match s.engine.submit scene op request.cluster steps with
        | .error e => (.rejected e.message, { s with store }, files, [])
        | .ok (engine, effects) => (.accepted id, { s with store, engine }, files, effects)

end Server

end Muster
