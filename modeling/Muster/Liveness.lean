import Muster.Store

/-!
# Liveness

A sweep asks every known machine whether its agent answers and notes what has changed. Sweeps repeat
at an interval; one that comes late pushes those after it back. Nothing but the status of agents is
ever touched.
-/

set_option autoImplicit false

namespace Muster.Liveness

/-- How agents are probed. -/
structure Settings where
  /-- The milliseconds between two sweeps. -/
  interval : Nat
  /-- The milliseconds that an agent has to answer. -/
  probeTimeout : Nat
  /-- The port that agents answer on. -/
  signalPort : UInt16
  deriving DecidableEq, Repr

/-- What a sweep found. -/
structure Report where
  probed : Nat
  markedUnreachable : Nat
  recovered : Nat
  deriving DecidableEq, Repr

/-- The address that the agent of a machine answers at. -/
def address (s : Settings) (m : Machine) : String := m.ip ++ ":" ++ Text.decimal s.signalPort.toNat

/-- The status of an agent that has just answered or not, where that is news. -/
def transition? (alive : Bool) (status : AgentStatus) : Option AgentStatus :=
  match alive, status with
  | false, .unreachable => none
  | true, .running => none
  | false, _ => some .unreachable
  | true, _ => some .running

namespace Report

/-- Counts a change of status. -/
def count (r : Report) : AgentStatus → Report
  | .unreachable => { r with markedUnreachable := r.markedUnreachable + 1 }
  | .running => { r with recovered := r.recovered + 1 }
  | .unknown => r

end Report

/-- Notes what became of machines; `refuses` says whose status cannot be written. -/
def note (s : Settings) (answers refuses : String → Bool) (report : Report) (records : Records) :
    List Machine → Report × Records
  | [] => (report, records)
  | m :: rest =>
    match transition? (answers (address s m)) m.agentStatus with
    | none => note s answers refuses report records rest
    | some status =>
      if refuses m.id then note s answers refuses report records rest
      else
        match records.setAgentStatus? m.id status with
        | none => note s answers refuses report records rest
        | some records => note s answers refuses (report.count status) records rest

/-- Probes every machine and notes what has changed. -/
def sweep (s : Settings) (answers refuses : String → Bool) (records : Records) : Report × Records :=
  let machines := records.allMachines
  note s answers refuses ⟨machines.length, 0, 0⟩ records machines

/-- The addresses that a sweep probes. -/
def probed (s : Settings) (records : Records) : List String := records.allMachines.map (address s)

/-- A sweep that comes more than so many milliseconds late sets the clock for those after it. -/
def tolerance : Nat := 5

/-- When the sweep after one is due that was due at `due` and was begun at `begun`. -/
def nextDue (s : Settings) (due begun : Nat) : Nat :=
  if due + tolerance < begun then begun + s.interval else due + s.interval

/-- A sweep as it was begun: the moment and the addresses. -/
structure Sweep where
  time : Nat
  addresses : List String
  deriving DecidableEq, Repr

/-- Sweeps until a shutdown: the detector is free at `free` and the next sweep is due at `due`. A
sweep begun at a moment takes `duration` milliseconds if there is anything to probe, and is finished
even when the shutdown comes meanwhile. `fuel` bounds the number of sweeps. -/
def runFrom (s : Settings) (answers refuses : String → Bool) (duration : Nat → Nat) (stop : Nat) :
    (fuel : Nat) → (free due : Nat) → Records → List Sweep × Records
  | 0, _, _, records => ([], records)
  | fuel + 1, free, due, records =>
    let begun := max free due
    if stop ≤ begun then ([], records)
    else
      let addresses := probed s records
      let (_, swept) := sweep s answers refuses records
      let free := if addresses.isEmpty then begun else begun + duration begun
      let (later, last) :=
        runFrom s answers refuses duration stop fuel free (nextDue s due begun) swept
      (⟨begun, addresses⟩ :: later, last)

/-- Sweeps from `start` until a shutdown at `stop`; the first sweep is due at once. -/
def run (s : Settings) (answers refuses : String → Bool) (duration : Nat → Nat) (start stop : Nat)
    (records : Records) : List Sweep × Records :=
  runFrom s answers refuses duration stop (stop - start + 1) start start records

end Muster.Liveness
