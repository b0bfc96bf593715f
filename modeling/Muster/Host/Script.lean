import Muster.Bytes
import Muster.Host.FileTree
import Muster.Provider.Error
import Muster.Text.Blank

/-!
# Scripts

A `Script` is what a task does on its machine, as a tree: it runs commands, pauses and touches files,
and goes on by the answers it gets. Nothing in a script decides what a command does, so a property of
a script holds whatever the commands print and however they end.
-/

set_option autoImplicit false

namespace Muster

/-- What a command left behind. -/
structure CommandOutput where
  code : Int
  stdout : String
  stderr : String
  deriving DecidableEq, Repr, Inhabited

namespace CommandOutput

/-- Whether the command ended with code 0. -/
def success (o : CommandOutput) : Bool := o.code = 0

/-- What the command has to say: its error output, or its output when there is none. -/
def diagnostic (o : CommandOutput) : String :=
  let errors := Text.trim o.stderr
  if errors.isEmpty then Text.trim o.stdout else errors

/-- The output of a command that has to end with code 0. -/
def checked (command : String) (o : CommandOutput) : Except ProviderError CommandOutput :=
  if o.success then .ok o else .error (.commandFailed command o.code o.diagnostic)

end CommandOutput

/-- What a script asks of the files of its machine. -/
inductive FileRequest where
  /-- Writes a file, making the directories above it, and sets its mode if one is given. -/
  | write (path : String) (data : ByteArray) (mode : Option UInt32)
  /-- Removes a file if it is there. -/
  | remove (path : String)
  /-- Makes a symbolic link in place of what stands there. -/
  | link (path target : String)
  /-- Reads a text. -/
  | readText (path : String)
  deriving DecidableEq

namespace FileTree

/-- Writes a file as a request asks. -/
def performWrite (t : FileTree) (path : String) (data : ByteArray) (mode : Option UInt32) :
    Except FileError Unit × FileTree :=
  let (made, t) := match Path.parent? path with
    | some parent => t.makeDirectories parent
    | none => (.ok (), t)
  match made with
  | .error e => (.error e, t)
  | .ok () =>
    match t.write path data with
    | .error e => (.error e, t)
    | .ok t =>
      match mode with
      | none => (.ok (), t)
      | some mode =>
        match t.setMode path mode with
        | .error e => (.error e, t)
        | .ok t => (.ok (), t)

/-- Removes a file as a request asks. -/
def performRemove (t : FileTree) (path : String) : Except FileError Unit × FileTree :=
  match t.remove path with
  | .ok t => (.ok (), t)
  | .error .notFound => (.ok (), t)
  | .error e => (.error e, t)

/-- Makes a link as a request asks. -/
def performLink (t : FileTree) (path target : String) : Except FileError Unit × FileTree :=
  let (made, t) := match Path.parent? path with
    | some parent => t.makeDirectories parent
    | none => (.ok (), t)
  match made with
  | .error e => (.error e, t)
  | .ok () =>
    let cleared := if t.occupied path then t.remove path else .ok t
    match cleared with
    | .error e => (.error e, t)
    | .ok t =>
      match t.makeLink path target with
      | .error e => (.error e, t)
      | .ok t => (.ok (), t)

/-- Does what a request asks; only reading has a text to give back. -/
def perform (t : FileTree) : FileRequest → Except FileError String × FileTree
  | .write path data mode =>
    let (outcome, t) := t.performWrite path data mode
    (outcome.map fun _ => "", t)
  | .remove path =>
    let (outcome, t) := t.performRemove path
    (outcome.map fun _ => "", t)
  | .link path target =>
    let (outcome, t) := t.performLink path target
    (outcome.map fun _ => "", t)
  | .readText path => (t.readText path, t)

end FileTree

/-- What a task does on its machine, up to a result. -/
inductive Script (α : Type) where
  /-- The result. -/
  | done (result : α)
  /-- Runs a command; `limit` is the time in milliseconds that it is given. -/
  | run (command : String) (limit : Option Nat)
      (next : Except ProviderError CommandOutput → Script α)
  /-- Waits for some milliseconds. -/
  | pause (ms : Nat) (next : Unit → Script α)
  /-- Touches files. -/
  | file (request : FileRequest) (next : Except FileError String → Script α)

namespace Script

variable {α β : Type}

/-- Goes on with the result of a script. -/
def bind : Script α → (α → Script β) → Script β
  | .done a, f => f a
  | .run command limit next, f => .run command limit fun answer => bind (next answer) f
  | .pause ms next, f => .pause ms fun answer => bind (next answer) f
  | .file request next, f => .file request fun answer => bind (next answer) f

instance : Monad Script where
  pure := .done
  bind := bind

end Script

/-- A script that may fail. -/
abbrev Procedure (α : Type) := ExceptT ProviderError Script α

namespace Procedure

variable {α : Type}

/-- Ends a procedure in a failure. -/
def fail (e : ProviderError) : Procedure α := ExceptT.mk (.done (.error e))

/-- Runs a command and takes whatever it leaves behind. -/
def run (command : String) (limit : Option Nat) : Procedure CommandOutput :=
  ExceptT.mk (.run command limit .done)

/-- Runs a command and fails unless it ends with code 0. -/
def runChecked (command : String) (limit : Option Nat) : Procedure CommandOutput := do
  let output ← run command limit
  ExceptT.mk (.done (output.checked command))

/-- Runs a command whose outcome does not matter. -/
def runAnyway (command : String) (limit : Option Nat) : Procedure Unit :=
  ExceptT.mk (.run command limit fun _ => .done (.ok ()))

/-- Waits for some milliseconds. -/
def pause (ms : Nat) : Procedure Unit :=
  ExceptT.mk (.pause ms fun _ => .done (.ok ()))

/-- Touches files; a failure names `path`. -/
def file (path : String) (request : FileRequest) : Procedure String :=
  ExceptT.mk (.file request fun
    | .ok text => .done (.ok text)
    | .error e => .done (.error (.io path e.message)))

/-- Reads a text and takes a failure as a value. -/
def readText (path : String) : Procedure (Except FileError String) :=
  ExceptT.mk (.file (.readText path) fun answer => .done (.ok answer))

/-- The outcome of a procedure as a value, so that a failure does not end what follows. -/
def attempt (p : Procedure α) : Procedure (Except ProviderError α) :=
  ExceptT.mk (Script.bind (ExceptT.run p) fun outcome => .done (.ok outcome))

end Procedure

end Muster
