import Muster.Text.Decimal

/-!
# Failures on a machine

What can go wrong while a task runs. The wording reaches the operator as it is.
-/

set_option autoImplicit false

namespace Muster

/-- Why a task failed on its machine. -/
inductive ProviderError where
  /-- Nobody knows how to do tasks on this platform. -/
  | unsupportedPlatform (vendor version : String)
  /-- The platform is known, the operation is not done on it. -/
  | notImplemented (platform operation : String)
  /-- A command ended with a code other than 0. -/
  | commandFailed (command : String) (code : Int) (output : String)
  /-- A command or a task took too long. -/
  | commandTimeout (command : String) (secs : Nat)
  /-- A command could not be started. -/
  | spawn (command cause : String)
  /-- A file could not be read or written. -/
  | io (path cause : String)
  /-- The task asks for something that makes no sense. -/
  | invalidTask (reason : String)
  deriving DecidableEq, Repr

namespace ProviderError

/-- The decimal text of a whole number. -/
def integer (n : Int) : String :=
  if n < 0 then "-" ++ Text.decimal n.natAbs else Text.decimal n.natAbs

/-- The wording of a failure. -/
def message : ProviderError → String
  | .unsupportedPlatform vendor version => "unsupported platform " ++ vendor ++ " " ++ version
  | .notImplemented platform operation => operation ++ " is not implemented on " ++ platform
  | .commandFailed command code output =>
    "command `" ++ command ++ "` exited with " ++ integer code ++ ": " ++ output
  | .commandTimeout command secs =>
    "command `" ++ command ++ "` timed out after " ++ Text.decimal secs ++ "s"
  | .spawn command cause => "failed to spawn `" ++ command ++ "`: " ++ cause
  | .io path cause => "io error on " ++ path ++ ": " ++ cause
  | .invalidTask reason => "invalid task: " ++ reason

end ProviderError

end Muster
