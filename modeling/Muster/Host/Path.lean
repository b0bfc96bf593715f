import Muster.Text.Blank

/-!
# Paths

A path is a text; slashes part its names. Joining, taking the directory part and replacing the
extension work on the text alone and never look at files.
-/

set_option autoImplicit false

namespace Muster.Path

/-- The path of `name` below `directory`; an absolute `name` stands for itself. -/
def join (directory name : String) : String :=
  if Text.startsWith "/" name then name
  else if directory.isEmpty then name
  else if directory.toList.getLast? = some '/' then directory ++ name
  else directory ++ "/" ++ name

/-- Whether the path starts at the root. -/
def isAbsolute (path : String) : Bool := Text.startsWith "/" path

/-- The names of a path without empty ones and without `.` behind the first place. -/
def names (path : String) : List String :=
  let all := (Text.splitOn '/' path).filter fun name => !name.isEmpty
  match all with
  | [] => []
  | first :: rest =>
    let rest := rest.filter (· ≠ ".")
    if isAbsolute path && first = "." then rest else first :: rest

/-- The path of a list of names. -/
def ofNames (absolute : Bool) (names : List String) : String :=
  (if absolute then "/" else "") ++ Text.join "/" names

/-- The directory part of a path: the path without its last name. -/
def parent? (path : String) : Option String :=
  match names path with
  | [] => none
  | all => some (ofNames (isAbsolute path) all.dropLast)

/-- The last name of a path, unless it leads upwards. -/
def fileName? (path : String) : Option String :=
  match (names path).getLast? with
  | some ".." => none
  | other => other

/-- A name without its extension: what stands before its last point, unless that begins the name. -/
def stem (name : String) : String :=
  let chars := name.toList
  match (chars.reverse.dropWhile (· != '.')) with
  | [] => name
  | [_] => name
  | _ :: before => String.ofList before.reverse

/-- The path with another extension; a path without a last name stays. -/
def withExtension (path extension : String) : String :=
  match fileName? path with
  | none => path
  | some name =>
    let all := (names path).dropLast ++ [stem name ++ "." ++ extension]
    ofNames (isAbsolute path) all

end Muster.Path
