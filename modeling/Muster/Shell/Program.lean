import Muster.Host.FileTree
import Muster.Text.Decimal
import Muster.Text.Utf8

/-!
# Programs of the shell

The programs that a command line finds on every machine, as far as they are needed: they take their
words and their input, look at files, and leave output, a code and perhaps other files behind.
-/

set_option autoImplicit false

namespace Muster.Shell

/-- A piece of output, and whether it is error output. -/
structure Chunk where
  isError : Bool
  data : ByteArray

/-- What a program leaves behind. -/
structure Exit where
  code : Nat
  output : List Chunk
  files : FileTree
  /-- The milliseconds that it took. -/
  elapsed : Nat

/-- The bytes of a line. -/
def line (s : String) : ByteArray := (s ++ "\n").toUTF8

/-- An exit with output. -/
def Exit.printing (files : FileTree) (data : ByteArray) : Exit := ⟨0, [⟨false, data⟩], files, 0⟩

/-- An exit with a line of error output. -/
def Exit.failing (files : FileTree) (code : Nat) (message : String) : Exit :=
  ⟨code, [⟨true, line message⟩], files, 0⟩

/-- An exit with a code alone. -/
def Exit.silent (files : FileTree) (code : Nat) : Exit := ⟨code, [], files, 0⟩

/-! ## Escapes -/

/-- The number of octal digits at the front, up to three. -/
def readOctal : (count n : Nat) → List Char → Nat × List Char
  | 0, n, rest => (n, rest)
  | _ + 1, n, [] => (n, [])
  | count + 1, n, c :: rest =>
    if '0' ≤ c ∧ c ≤ '7' then readOctal count (n * 8 + (c.toNat - 48)) rest else (n, c :: rest)

/-- The byte of an escape of one letter. -/
def escapeByte? (c : Char) : Option UInt8 :=
  match c with
  | 'a' => some 7
  | 'b' => some 8
  | 'f' => some 12
  | 'n' => some 10
  | 'r' => some 13
  | 't' => some 9
  | 'v' => some 11
  | '\\' => some 92
  | '"' => some 34
  | _ => none

/-- The bytes of a character. -/
def charBytes (c : Char) : ByteArray := (String.singleton c).toUTF8

/-- The bytes of an escape, read behind its backslash. -/
def readEscapeBytes (rest : List Char) : ByteArray × List Char :=
  match rest with
  | [] => (charBytes '\\', [])
  | c :: tail =>
    match escapeByte? c with
    | some b => (ByteArray.mk #[b], tail)
    | none =>
      if '0' ≤ c ∧ c ≤ '7' then
        let (n, tail) := readOctal 3 0 rest
        (ByteArray.mk #[n.toUInt8], tail)
      else (charBytes '\\' ++ charBytes c, tail)

/-- A text with its escapes carried out. -/
def unescape : (fuel : Nat) → List Char → ByteArray
  | 0, _ => .empty
  | fuel + 1, rest =>
    match rest with
    | [] => .empty
    | '\\' :: rest =>
      let (data, rest) := readEscapeBytes rest
      data ++ unescape fuel rest
    | c :: rest => charBytes c ++ unescape fuel rest

/-- One pass over a format with the arguments that are left. -/
def format : (fuel : Nat) → List Char → List String → ByteArray × List String
  | 0, _, args => (.empty, args)
  | fuel + 1, rest, args =>
    match rest with
    | [] => (.empty, args)
    | '\\' :: rest =>
      let (data, rest) := readEscapeBytes rest
      let (later, args) := format fuel rest args
      (data ++ later, args)
    | '%' :: '%' :: rest =>
      let (later, args) := format fuel rest args
      (charBytes '%' ++ later, args)
    | '%' :: c :: rest =>
      let arg := args.headD ""
      let data := match c with
        | 's' => arg.toUTF8
        | 'd' => (if arg.isEmpty then "0" else arg).toUTF8
        | 'c' => (arg.take 1).toString.toUTF8
        | 'b' => unescape (arg.length + 1) arg.toList
        | _ => charBytes '%' ++ charBytes c
      let (later, args) := format fuel rest (args.drop 1)
      (data ++ later, args)
    | c :: rest =>
      let (later, args) := format fuel rest args
      (charBytes c ++ later, args)

/-- A format used again until no argument is left. -/
def formatAll : (fuel : Nat) → List Char → List String → ByteArray
  | 0, _, _ => .empty
  | fuel + 1, pattern, args =>
    let (data, left) := format (pattern.length + 1) pattern args
    if left.isEmpty || left.length = args.length then data
    else data ++ formatAll fuel pattern left

/-! ## Sets of bytes -/

/-- The bytes of a set with its escapes and ranges. -/
def byteSet : (fuel : Nat) → List UInt8 → List UInt8
  | 0, _ => []
  | fuel + 1, rest =>
    match rest with
    | low :: 45 :: high :: rest =>
      (List.range (high.toNat + 1 - low.toNat)).map (fun i => (low.toNat + i).toUInt8)
        ++ byteSet fuel rest
    | b :: rest => b :: byteSet fuel rest
    | [] => []

/-- The bytes of a set given as a word. -/
def bytesOfSet (word : String) : List UInt8 :=
  let data := (unescape (word.length + 1) word.toList).data.toList
  byteSet (data.length + 1) data

/-- The byte that stands in the place of another; the last of a short set stands for the rest. -/
def exchange (froms tos : List UInt8) (b : UInt8) : UInt8 :=
  match froms.findIdx? (· == b) with
  | none => b
  | some i => (tos[i]?).getD (tos.getLast?.getD b)

/-! ## Programs -/

/-- The number of a word, if it is one. -/
def number? (word : String) : Option Nat := Text.natOf? (UInt64.size / 2 - 1) word

/-- The milliseconds of a word that gives seconds, with a fraction if need be. -/
def milliseconds? (word : String) : Option Nat :=
  match Text.splitOn '.' word with
  | [whole] => (number? whole).map (· * 1000)
  | [whole, fraction] =>
    match number? (if whole.isEmpty then "0" else whole), number? fraction with
    | some w, some f => some (w * 1000 + f * 1000 / Nat.pow 10 fraction.length)
    | _, _ => none
  | _ => none

/-- Writes the words with blanks between them; `-n` leaves out the end of the line. -/
def echo (args : List String) : ByteArray :=
  let (args, ending) := match args with
    | "-n" :: args => (args, "")
    | args => (args, "\n")
  let text := Text.join " " args
  unescape (text.length + 1) text.toList ++ ending.toUTF8

/-- The names in a directory, in order; those that begin with a point are hidden. -/
def namesIn (files : FileTree) (hidden : Bool) (directory : String) : List String :=
  let at_ := if directory = "/" then "" else directory
  ((files.below at_).map fun entry => ((Text.splitOn '/' entry.1).headD "")).eraseDups.filter
    fun name => hidden || !Text.startsWith "." name

/-- The short form of what went wrong with a file. -/
def reason (e : FileError) : String :=
  match Text.splitOn '(' e.message with
  | words :: _ => Text.trimEnd words
  | [] => ""

/-- Writes the content of files, or the input if none is named. -/
def cat (files : FileTree) (place : String → String) (input : ByteArray) (args : List String) : Exit :=
  if args.isEmpty then .printing files input
  else
    let parts := args.map fun arg =>
      if arg = "-" then (0, Chunk.mk false input)
      else if arg = "/dev/null" then (0, Chunk.mk false .empty)
      else
        match files.read (place arg) with
        | .ok data => (0, ⟨false, data⟩)
        | .error e => (1, ⟨true, line ("cat: " ++ arg ++ ": " ++ reason e)⟩)
    ⟨(parts.map (·.1)).foldl max 0, parts.map (·.2), files, 0⟩

/-- Lists names: `-A` the hidden ones too, and `-a` the directory itself and the one above it. -/
def list (files : FileTree) (place : String → String) (args : List String) : Exit :=
  let (options, targets) := args.partition (Text.startsWith "-")
  let target := targets.headD "."
  match files.stat (place target) with
  | .error e =>
    .failing files 2 ("ls: cannot access '" ++ target ++ "': " ++ reason e)
  | .ok .directory =>
    match files.find true (place target) with
    | .ok (found, _) =>
      let all := options.any fun option => option.toList.contains 'a'
      let hidden := all || options.any fun option => option.toList.contains 'A'
      let names := (if all then [".", ".."] else []) ++ namesIn files hidden found.path
      .printing files (Text.join "" (names.map (· ++ "\n"))).toUTF8
    | .error _ => .silent files 2
  | .ok _ => .printing files (line target)

/-- Translates or drops bytes. -/
def translate (files : FileTree) (input : ByteArray) (args : List String) : Exit :=
  match args with
  | ["-d", set] =>
    let set := bytesOfSet set
    .printing files (ByteArray.mk (input.data.filter fun b => !set.contains b))
  | [froms, tos] =>
    .printing files (ByteArray.mk (input.data.map (exchange (bytesOfSet froms) (bytesOfSet tos))))
  | _ => .failing files 1 "tr: missing operand"

/-- Whether two numbers compare as an operator says; none if it is no operator. -/
def compare? (operator : String) (m n : Nat) : Option Bool :=
  match operator with
  | "-eq" => some (m = n)
  | "-ne" => some (m ≠ n)
  | "-lt" => some (m < n)
  | "-le" => some (m ≤ n)
  | "-gt" => some (n < m)
  | "-ge" => some (n ≤ m)
  | _ => none

/-- Whether a condition on words holds; none if it makes no sense. -/
def holds? (files : FileTree) (place : String → String) : List String → Option Bool
  | [] => some false
  | [a] => some (!a.isEmpty)
  | ["!", a] => some a.isEmpty
  | ["-n", a] => some (!a.isEmpty)
  | ["-z", a] => some a.isEmpty
  | ["-e", a] => some (files.exists? (place a))
  | ["-f", a] => some (files.isFile (place a))
  | ["-d", a] => some (files.isDirectory (place a))
  | [a, "=", b] => some (a = b)
  | [a, "!=", b] => some (a ≠ b)
  | [a, operator, b] =>
    match number? a, number? b with
    | some m, some n => compare? operator m n
    | _, _ => none
  | _ => none

/-- The exit of a condition. -/
def condition (files : FileTree) (place : String → String) (args : List String) : Exit :=
  match holds? files place args with
  | some true => .silent files 0
  | some false => .silent files 1
  | none => .failing files 2 "sh: 1: test: unexpected operator"

/-- Changes files one after the other; every error is told behind `what`. -/
def changeEach (what : String) (change : FileTree → String → Except FileError FileTree) :
    FileTree → List String → Exit
  | files, [] => .silent files 0
  | files, arg :: rest =>
    match change files arg with
    | .ok files => changeEach what change files rest
    | .error e =>
      let later := changeEach what change files rest
      { later with
        code := 1
        output := ⟨true, line (what ++ " '" ++ arg ++ "': " ++ reason e)⟩ :: later.output }

/-- Removes a file; with `force` one that is not there counts as removed. -/
def removeFile (force : Bool) (place : String → String) (files : FileTree) (arg : String) :
    Except FileError FileTree :=
  match files.remove (place arg) with
  | .error .notFound => if force then .ok files else .error .notFound
  | outcome => outcome

/-- Creates a file that is not there yet. -/
def touch (place : String → String) (files : FileTree) (arg : String) :
    Except FileError FileTree :=
  if files.exists? (place arg) then .ok files else files.write (place arg) .empty

/-- The first lines or bytes of the input. -/
def head (files : FileTree) (input : ByteArray) (args : List String) : Exit :=
  match args with
  | ["-c", n] => .printing files (input.extract 0 ((number? n).getD 0))
  | ["-n", n] =>
    let lines := ((Text.lossy input).splitOn "\n").take ((number? n).getD 0)
    .printing files (Text.join "" (lines.map (· ++ "\n"))).toUTF8
  | _ => .printing files input

/-- Counts lines or bytes of the input. -/
def count (files : FileTree) (input : ByteArray) (args : List String) : Exit :=
  match args with
  | ["-l"] => .printing files (line (Text.decimal (input.data.toList.count 10)))
  | _ => .printing files (line (Text.decimal input.size))

/-- The numbers from one to another. -/
def sequenceOf (args : List String) : List Nat :=
  match args.map number? with
  | [some n] => (List.range n).map (· + 1)
  | [some a, some b] => (List.range (b + 1 - a)).map (a + ·)
  | _ => []

/-- Runs a program by its name; none if there is none of that name. `place` says where a relative
path leads. -/
def program? (name : String) (files : FileTree) (place : String → String) (input : ByteArray)
    (args : List String) : Option Exit :=
  match name with
  | "true" | ":" => some (.silent files 0)
  | "false" => some (.silent files 1)
  | "echo" => some (.printing files (echo args))
  | "printf" =>
    match args with
    | [] => some (.failing files 2 "sh: 1: printf: usage: printf format [arg ...]")
    | pattern :: rest => some (.printing files (formatAll (rest.length + 1) pattern.toList rest))
  | "cat" => some (cat files place input args)
  | "ls" => some (list files place args)
  | "tr" => some (translate files input args)
  | "test" => some (condition files place args)
  | "[" => some (condition files place args.dropLast)
  | "sleep" =>
    match milliseconds? (args.headD "") with
    | some ms => some ⟨0, [], files, ms⟩
    | none => some (.failing files 1 "sleep: missing operand")
  | "touch" => some (changeEach "touch: cannot touch" (touch place) files args)
  | "rm" =>
    some (changeEach "rm: cannot remove" (removeFile (args.contains "-f") place) files
      (args.filter (· ≠ "-f")))
  | "mkdir" =>
    if args.contains "-p" then
      some (changeEach "mkdir: cannot create directory" (fun t arg =>
        match t.makeDirectories (place arg) with
        | (.ok (), t) => .ok t
        | (.error e, _) => .error e) files (args.filter (· ≠ "-p")))
    else
      some (changeEach "mkdir: cannot create directory" (fun t arg => t.makeDirectory (place arg))
        files args)
  | "head" => some (head files input args)
  | "wc" => some (count files input args)
  | "seq" =>
    some (.printing files
      (Text.join "" ((sequenceOf args).map fun n => Text.decimal n ++ "\n")).toUTF8)
  | _ => none

end Muster.Shell
