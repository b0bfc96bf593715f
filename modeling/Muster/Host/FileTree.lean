import Muster.Bytes
import Muster.Dict
import Muster.Host.Path

/-!
# Files

A `FileTree` maps absolute paths in plain form (one slash before each name) to files, symbolic links
and directories; the root directory is always there. Paths given to operations are walked name by
name: `.` stays, `..` goes up, links are followed up to a limit, and every name but the last has to
be a directory. Each operation says exactly which error it ends in, and leaves a tree behind even
then, because directories made on the way stay.

There is room for every file, and everybody may do everything: no operation fails because a disk is full
or a permission is missing, and a write that fails has written nothing.
-/

set_option autoImplicit false

namespace Muster

/-- Why an operation on files fails. -/
inductive FileError where
  | notFound
  | exists
  | notDirectory
  | isDirectory
  | nameTooLong
  | linkLoop
  | notEmpty
  /-- The path holds a NUL character. -/
  | nulInPath
  /-- The file is to be read as text and is none. -/
  | notText
  deriving DecidableEq, Repr

/-- The wording of a file error. -/
def FileError.message : FileError → String
  | .notFound => "No such file or directory (os error 2)"
  | .exists => "File exists (os error 17)"
  | .notDirectory => "Not a directory (os error 20)"
  | .isDirectory => "Is a directory (os error 21)"
  | .nameTooLong => "File name too long (os error 36)"
  | .linkLoop => "Too many levels of symbolic links (os error 40)"
  | .notEmpty => "Directory not empty (os error 39)"
  | .nulInPath => "file name contained an unexpected NUL byte"
  | .notText => "stream did not contain valid UTF-8"

/-- What a path leads to. -/
inductive FileEntry where
  | file (mode : UInt32) (data : ByteArray)
  | link (target : String)
  | directory
  deriving DecidableEq

/-- The files of a machine, by absolute path in plain form. -/
structure FileTree where
  entries : Dict FileEntry
  deriving DecidableEq

namespace FileTree

/-- No files at all. -/
def empty : FileTree := ⟨.empty⟩

instance : Inhabited FileTree := ⟨empty⟩

/-- A place in plain form: the names from the root on. -/
abbrev Place := List String

/-- The path of a place. -/
def Place.path (place : Place) : String := Path.ofNames true place

/-- What stands at a place. -/
def at? (t : FileTree) (place : Place) : Option FileEntry :=
  match place with
  | [] => some .directory
  | _ => t.entries.get? (Place.path place)

/-- The tree with an entry at a place. -/
def put (t : FileTree) (place : Place) (entry : FileEntry) : FileTree :=
  ⟨t.entries.insert (Place.path place) entry⟩

/-- The tree without the entry at a place. -/
def drop (t : FileTree) (place : Place) : FileTree :=
  ⟨t.entries.erase (Place.path place)⟩

/-- The names to walk for a path; a slash at the end asks for a directory, as `.` does. -/
def steps (path : String) : List String :=
  let names := (Text.splitOn '/' path).filter fun name => !name.isEmpty
  if path.toList.getLast? = some '/' && !names.isEmpty then names ++ ["."] else names

/-- Whether the text of a path ends in a slash behind a name. -/
def endsInSlash (path : String) : Bool :=
  path.toList.getLast? = some '/'

/-- Checks the text of a path before it is walked. -/
def checkPath (path : String) : Except FileError Unit :=
  if path.toList.contains '\x00' then .error .nulInPath
  else if path.isEmpty then .error .notFound
  else if 4095 < path.utf8ByteSize then .error .nameTooLong
  else .ok ()

/-- Walks names from a place. `follow` says whether a link in the last place is followed; `fuel`
bounds the names walked and `links` the links followed. -/
def walk (t : FileTree) (follow : Bool) : (fuel links : Nat) → Place → List String →
    Except FileError (Place × Option FileEntry)
  | 0, _, _, _ => .error .linkLoop
  | _ + 1, _, place, [] => .ok (place, some .directory)
  | fuel + 1, links, place, name :: rest =>
    if name = "." then walk t follow fuel links place rest
    else if name = ".." then walk t follow fuel links place.dropLast rest
    else if 255 < name.utf8ByteSize then .error .nameTooLong
    else
      let here := place ++ [name]
      match t.at? here with
      | none => if rest.isEmpty then .ok (here, none) else .error .notFound
      | some .directory => walk t follow fuel links here rest
      | some (.file mode data) =>
        if rest.isEmpty then .ok (here, some (.file mode data)) else .error .notDirectory
      | some (.link target) =>
        if rest.isEmpty && !follow then .ok (here, some (.link target))
        else
          match links with
          | 0 => .error .linkLoop
          | links + 1 =>
            let start := if Path.isAbsolute target then [] else place
            walk t follow fuel links start (steps target ++ rest)

/-- The place that a path leads to, and what stands there. -/
def find (t : FileTree) (follow : Bool) (path : String) :
    Except FileError (Place × Option FileEntry) :=
  match checkPath path with
  | .error e => .error e
  | .ok () => walk t follow 400000 40 [] (steps path)

/-- What a path leads to, links followed. -/
def stat (t : FileTree) (path : String) : Except FileError FileEntry :=
  match t.find true path with
  | .error e => .error e
  | .ok (_, none) => .error .notFound
  | .ok (_, some entry) => .ok entry

/-- Whether a path leads to something. -/
def exists? (t : FileTree) (path : String) : Bool :=
  match t.stat path with
  | .ok _ => true
  | .error _ => false

/-- Whether a path leads to a directory. -/
def isDirectory (t : FileTree) (path : String) : Bool :=
  match t.stat path with
  | .ok .directory => true
  | _ => false

/-- Whether a path leads to a file. -/
def isFile (t : FileTree) (path : String) : Bool :=
  match t.stat path with
  | .ok (.file _ _) => true
  | _ => false

/-- The bytes of a file. -/
def read (t : FileTree) (path : String) : Except FileError ByteArray :=
  match t.stat path with
  | .error e => .error e
  | .ok (.file _ data) => .ok data
  | .ok _ => .error .isDirectory

/-- The text of a file. -/
def readText (t : FileTree) (path : String) : Except FileError String :=
  match t.read path with
  | .error e => .error e
  | .ok data =>
    match String.fromUTF8? data with
    | some s => .ok s
    | none => .error .notText

/-- The place that a path names, and what stands there, a link counting as itself even when a slash
follows its name. -/
def named (t : FileTree) (path : String) : Except FileError (Place × Option FileEntry) :=
  match checkPath path with
  | .error e => .error e
  | .ok () => walk t false 400000 40 [] ((Text.splitOn '/' path).filter fun name => !name.isEmpty)

/-- Makes one directory. -/
def makeDirectory (t : FileTree) (path : String) : Except FileError FileTree :=
  match t.named path with
  | .error e => .error e
  | .ok (_, some _) => .error .exists
  | .ok (place, none) => .ok (t.put place .directory)

/-- Makes a directory and those above it that are missing; `fuel` bounds their number. -/
def makeDirectoriesFrom : (fuel : Nat) → FileTree → String → Except FileError Unit × FileTree
  | 0, t, _ => (.error .notFound, t)
  | fuel + 1, t, path =>
    if path.isEmpty then (.ok (), t)
    else
      match t.makeDirectory path with
      | .ok t => (.ok (), t)
      | .error .notFound =>
        match Path.parent? path with
        | none => (.error .notFound, t)
        | some parent =>
          match makeDirectoriesFrom fuel t parent with
          | (.error e, t) => (.error e, t)
          | (.ok (), t) =>
            match t.makeDirectory path with
            | .ok t => (.ok (), t)
            | .error e => if t.isDirectory path then (.ok (), t) else (.error e, t)
      | .error e => if t.isDirectory path then (.ok (), t) else (.error e, t)

/-- Makes a directory and those above it that are missing. -/
def makeDirectories (t : FileTree) (path : String) : Except FileError Unit × FileTree :=
  makeDirectoriesFrom ((Path.names path).length + 1) t path

/-- Writes a file; one that is there keeps its mode, a new one may be read by all. -/
def write (t : FileTree) (path : String) (data : ByteArray) : Except FileError FileTree :=
  match checkPath path with
  | .error e => .error e
  | .ok () =>
    match t.find true path with
    | .ok (_, some .directory) => .error .isDirectory
    | .ok (place, some (.file mode _)) =>
      if endsInSlash path then .error .isDirectory else .ok (t.put place (.file mode data))
    | .ok (_, some (.link _)) => .error .linkLoop
    | .ok (place, none) =>
      if endsInSlash path then .error .isDirectory else .ok (t.put place (.file 0o644 data))
    | .error e =>
      -- A slash behind a name that is not there asks for a directory in vain.
      if endsInSlash path then
        match t.find true (Text.trimEndOf '/' path) with
        | .ok _ => .error .isDirectory
        | .error e => .error e
      else .error e

/-- Sets the mode of a file; the mode of a directory is not kept. -/
def setMode (t : FileTree) (path : String) (mode : UInt32) : Except FileError FileTree :=
  match t.find true path with
  | .error e => .error e
  | .ok (_, none) => .error .notFound
  | .ok (place, some (.file _ data)) => .ok (t.put place (.file (mode &&& 0o7777) data))
  | .ok (_, some _) => .ok t

/-- Removes a file or a link. -/
def remove (t : FileTree) (path : String) : Except FileError FileTree :=
  match t.named path with
  | .error e => .error e
  | .ok (_, none) => .error .notFound
  | .ok (_, some .directory) => .error .isDirectory
  | .ok (place, some _) => if endsInSlash path then .error .notDirectory else .ok (t.drop place)

/-- Whether something stands at a path, a link counting as itself. -/
def occupied (t : FileTree) (path : String) : Bool :=
  match t.find false path with
  | .ok (_, some _) => true
  | _ => false

/-- Makes a symbolic link; a slash behind its name asks for a directory in vain. -/
def makeLink (t : FileTree) (path target : String) : Except FileError FileTree :=
  match checkPath target, t.named path with
  | .error e, _ => .error e
  | _, .error e => .error e
  | .ok (), .ok (_, some _) => .error .exists
  | .ok (), .ok (place, none) =>
    if endsInSlash path then .error .notFound else .ok (t.put place (.link target))

/-- Moves a file over whatever file stands at another path. -/
def rename (t : FileTree) (source target : String) : Except FileError FileTree :=
  match t.find false source with
  | .error e => .error e
  | .ok (_, none) => .error .notFound
  | .ok (here, some entry) =>
    match t.find false target with
    | .error e => .error e
    | .ok (_, some .directory) => .error .isDirectory
    | .ok (there, _) =>
      if endsInSlash target then .error .notDirectory
      else .ok ((t.drop here).put there entry)

/-- The entries below a directory, by path relative to it. -/
def below (t : FileTree) (directory : String) : List (String × FileEntry) :=
  let head := (directory ++ "/").toList
  t.entries.toList.filterMap fun (path, entry) =>
    let chars := path.toList
    if head.isPrefixOf chars then some (String.ofList (chars.drop head.length), entry) else none

/-- The entries below a directory without the directories that hold something. -/
def leaves (t : FileTree) (directory : String) : List (String × FileEntry) :=
  let all := t.below directory
  all.filter fun (path, entry) =>
    match entry with
    | .directory => !all.any fun other => Text.startsWith (path ++ "/") other.1
    | _ => true

end FileTree

end Muster
