import Muster.Shell.Quote
import Muster.Host.Script

/-!
# Platforms

Which operating system a machine runs, as its release file tells, which package manager goes with
it, and how that manager is called.
-/

set_option autoImplicit false

namespace Muster

/-- An operating system: who makes it, and its major version. -/
structure Platform where
  vendor : String
  major : String
  deriving DecidableEq, Repr, Inhabited

namespace Platform

/-- A platform as messages name it. -/
def display (p : Platform) : String := p.vendor ++ " " ++ p.major

/-- A value of a release file without blanks and quotes around it. -/
def unquoted (value : String) : String :=
  let strip := fun (c : Char) (s : String) => Text.trimEndOf c (Text.trimStartOf c s)
  strip '\'' (strip '"' (Text.trim value))

/-- Takes in one line of a release file; a later line wins. -/
def readLine (found : Option String × Option String) (line : String) :
    Option String × Option String :=
  match Text.splitFirst '=' (Text.trim line) with
  | none => found
  | some (key, value) =>
    if key = "ID" then (some (Text.lowerAscii (unquoted value)), found.2)
    else if key = "VERSION_ID" then (found.1, some (unquoted value))
    else found

/-- The platform that the text of a release file names. -/
def ofRelease? (text : String) : Option Platform :=
  match (Text.lines text).foldl readLine (none, none) with
  | (some vendor, some version) => some ⟨vendor, ((Text.splitOn '.' version).head?).getD ""⟩
  | _ => none

/-- The platform that the release file at a path names. -/
def detect (files : FileTree) (path : String) : Except ProviderError Platform :=
  match files.readText path with
  | .error e => .error (.io path e.message)
  | .ok text =>
    match ofRelease? text with
    | some platform => .ok platform
    | none => .error (.unsupportedPlatform "unknown" "unknown")

end Platform

/-- The package managers. -/
inductive PackageManager where
  | yum
  | dnf
  | apt
  deriving DecidableEq, Repr

namespace PackageManager

/-- The command that installs packages. -/
def install (manager : PackageManager) (packages : List String) : String :=
  let list := Shell.wordList packages
  match manager with
  | .yum => "yum install -y " ++ list
  | .dnf => "dnf install -y " ++ list
  | .apt => "apt-get update -q && DEBIAN_FRONTEND=noninteractive apt-get install -y " ++ list

/-- The command that removes packages. -/
def remove (manager : PackageManager) (packages : List String) : String :=
  let list := Shell.wordList packages
  match manager with
  | .yum => "yum remove -y " ++ list
  | .dnf => "dnf remove -y " ++ list
  | .apt => "DEBIAN_FRONTEND=noninteractive apt-get purge -y " ++ list

/-- The command that fetches a package into a directory without installing it. -/
def download (manager : PackageManager) (package directory : String) : String :=
  let package := Shell.quote package
  let directory := Shell.quote directory
  match manager with
  | .yum => "yum install -y --downloadonly --downloaddir=" ++ directory ++ " " ++ package
  | .dnf => "dnf download --resolve --destdir=" ++ directory ++ " " ++ package
  | .apt => "cd " ++ directory ++ " && apt-get download " ++ package

/-- The name of a package at a version. -/
def pinned (manager : PackageManager) (package version : String) : String :=
  if version.isEmpty then package
  else
    match manager with
    | .yum => package ++ "-" ++ version
    | .dnf => package ++ "-" ++ version
    | .apt => package ++ "=" ++ version ++ "*"

end PackageManager

/-- How far a known platform is supported. -/
inductive Support where
  | supported (manager : PackageManager)
  | experimental
  deriving DecidableEq, Repr

namespace Platform

/-- The known platforms. -/
def known : List (Platform × Support) :=
  [(⟨"centos", "7"⟩, .supported .yum),
    (⟨"centos", "8"⟩, .supported .dnf),
    (⟨"rocky", "8"⟩, .supported .dnf),
    (⟨"rocky", "9"⟩, .supported .dnf),
    (⟨"kylin", "10"⟩, .supported .yum),
    (⟨"ubuntu", "20"⟩, .supported .apt),
    (⟨"ubuntu", "22"⟩, .supported .apt),
    (⟨"ubuntu", "24"⟩, .experimental)]

/-- How far a platform is supported, if it is known. -/
def support? (p : Platform) : Option Support :=
  (known.find? fun row => row.1 = p).map Prod.snd

end Platform

end Muster
