import Muster.Config
import Muster.Host.FileTree

/-!
# The settings file

The configuration is read from the file that the environment names, and the standard one is written
there when nothing stands in its place.
-/

set_option autoImplicit false

namespace Muster

/-- Why the settings file is of no use. -/
inductive ConfigError where
  | readFailed (path : String) (cause : FileError)
  /-- The file holds no settings, or settings of the wrong kind. -/
  | parseFailed (path : String)
  | writeFailed (path : String) (cause : FileError)
  deriving DecidableEq, Repr

namespace Config

/-- The configuration in a file. -/
def ofFile (env : Environment) (files : FileTree) (path : String) : Except ConfigError Config :=
  match files.readText path with
  | .error cause => .error (.readFailed path cause)
  | .ok s =>
    match ofText? env s with
    | none => .error (.parseFailed path)
    | some c => .ok c

/-- The configuration of the environment: its file if there is one, and what it overrides. -/
def load (env : Environment) (files : FileTree) : Except ConfigError Config :=
  let path := env.configFile
  if files.exists? path then (ofFile env files path).map (overridden env)
  else .ok (overridden env (standard env))

/-- Writes the standard configuration if nothing stands in the place of the settings file. -/
def writeStandard (env : Environment) (files : FileTree) : Except ConfigError Unit × FileTree :=
  let path := env.configFile
  if files.exists? path then (.ok (), files)
  else
    let (made, files) := match Path.parent? path with
      | some parent => files.makeDirectories parent
      | none => (.ok (), files)
    match made with
    | .error cause => (.error (.writeFailed path cause), files)
    | .ok () =>
      match files.write path (standard env).text.toUTF8 with
      | .error cause => (.error (.writeFailed path cause), files)
      | .ok files => (.ok (), files)

/-- The configuration that a program starts with: the standard one is written where none is, and
used where none can be loaded. -/
def prepare (env : Environment) (files : FileTree) : Config × FileTree :=
  let (_, files) := writeStandard env files
  match load env files with
  | .ok c => (c, files)
  | .error _ => (standard env, files)

end Config

end Muster
