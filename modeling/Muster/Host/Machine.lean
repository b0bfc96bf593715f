import Muster.Host.Script

/-!
# Machines with a rehearsed shell

A `HostState` is a machine whose commands answer by rules instead of being run: the first rule that
fits a command and may still be used says how long it takes and how it ends. Scripts are carried out
on it up to the next moment at which time has to pass, so that several machines can share one clock.
-/

set_option autoImplicit false

namespace Muster

/-- How a rehearsed command ends. -/
inductive Rehearsed where
  | output (o : CommandOutput)
  /-- The shell cannot be started. -/
  | noShell
  /-- The command takes too long. -/
  | timeout (secs : Nat)
  deriving DecidableEq, Repr

/-- A rule of a rehearsal: the commands that begin with `head` take `delayMs` and end with
`outcome`. -/
structure Rule where
  head : String
  /-- How often the rule may still be used, if that is limited. -/
  left : Option Nat
  delayMs : Nat
  outcome : Rehearsed
  deriving DecidableEq, Repr

/-- A command as it was logged when it was started. -/
structure LogEntry where
  time : Nat
  command : String
  limit : Option Nat
  deriving DecidableEq, Repr

/-- A machine with its files, the rules for its commands, and the commands started so far. -/
structure HostState where
  files : FileTree
  rules : List Rule
  log : List LogEntry
  deriving DecidableEq

namespace HostState

/-- Uses the first rule that fits a command. -/
def useRule (command : String) : List Rule → Option Rule × List Rule
  | [] => (none, [])
  | rule :: rest =>
    if Text.startsWith rule.head command && rule.left ≠ some 0 then
      (some rule, { rule with left := rule.left.map (· - 1) } :: rest)
    else
      let (used, rest) := useRule command rest
      (used, rule :: rest)

/-- Starts a command: how long it takes, how it ends, and the machine afterwards. -/
def start (h : HostState) (now : Nat) (command : String) (limit : Option Nat) :
    Nat × Except ProviderError CommandOutput × HostState :=
  let (used, rules) := useRule command h.rules
  let h := { h with rules, log := h.log ++ [⟨now, command, limit⟩] }
  match used with
  | none => (0, .ok ⟨0, "", ""⟩, h)
  | some rule =>
    let outcome := match rule.outcome with
      | .output o => .ok o
      | .noShell => .error (.spawn command "no shell")
      | .timeout secs => .error (.commandTimeout command secs)
    (rule.delayMs, outcome, h)

end HostState

/-- How far a script has got. -/
inductive Progress (α : Type) where
  | done (result : α)
  /-- Time has to pass until `due` before the script goes on. -/
  | waiting (due : Nat) (rest : Script α)

namespace Script

variable {α : Type}

/-- Carries out a script at time `now` as far as no time has to pass. -/
def advance (now : Nat) (h : HostState) : Script α → Progress α × HostState
  | .done a => (.done a, h)
  | .run command limit next =>
    let (delay, outcome, h) := h.start now command limit
    if delay = 0 then advance now h (next outcome) else (.waiting (now + delay) (next outcome), h)
  | .pause ms next =>
    if ms = 0 then advance now h (next ()) else (.waiting (now + ms) (next ()), h)
  | .file request next =>
    let (answer, files) := h.files.perform request
    advance now { h with files } (next answer)

/-- Carries out a script from time `now` to its end. -/
def complete (now : Nat) (h : HostState) : Script α → α × Nat × HostState
  | .done a => (a, now, h)
  | .run command limit next =>
    let (delay, outcome, h) := h.start now command limit
    complete (now + delay) h (next outcome)
  | .pause ms next => complete (now + ms) h (next ())
  | .file request next =>
    let (answer, files) := h.files.perform request
    complete now { h with files } (next answer)

end Script

end Muster
