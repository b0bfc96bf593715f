import Muster.Host.Script
import Muster.Shell.Command
import Muster.Shell.Program

/-!
# Running shell commands

A command line is carried out on the files of a machine: its words are expanded, its redirections
opened, and its programs run, with output in the order in which it was written. A shell of its own,
as in a pipe, shares files with the one it came from, but not its directory and its variables.
-/

set_option autoImplicit false

namespace Muster.Shell

/-- How a shell stands. -/
structure Session where
  files : FileTree
  directory : String
  bindings : Dict String
  /-- The code of the last command. -/
  code : Nat
  /-- The milliseconds since the start. -/
  elapsed : Nat

/-- Whether a shell goes on after a command. -/
inductive Flow where
  | continues
  | exited (code : Nat)
  /-- The shell was ended by a signal. -/
  | killed
  deriving DecidableEq, Repr

/-- What came of a command. -/
structure Result where
  session : Session
  output : List Chunk
  flow : Flow

/-- The bytes of one of the two streams. -/
def bytesOf (isError : Bool) (output : List Chunk) : ByteArray :=
  (output.filter fun chunk => chunk.isError = isError).foldl (fun data chunk => data ++ chunk.data)
    .empty

/-- The number by which a process knows its shell. -/
def processId : String := "1"

/-- Where a path leads in the directory of a shell. -/
def Session.place (s : Session) (path : String) : String := Path.join s.directory path

/-- The value of a parameter. -/
def Session.parameter (s : Session) (name : String) : String :=
  if name = "$" then processId
  else if name = "?" then Text.decimal s.code
  else if name = "#" then "0"
  else if name = "0" then "sh"
  else if name = "PWD" then s.directory
  else (s.bindings.get? name).getD ""

/-- A run of characters of an expanded word: text, or a place where the word is cut. -/
inductive Fragment where
  | char (c : Char)
  /-- A character of a value that was not quoted. -/
  | loose (c : Char)
  /-- An empty text that counts as a word. -/
  | mark
  deriving DecidableEq, Repr

/-- Cuts fragments into words at the blanks of values that were not quoted. -/
def cutWords (word : Option (List Char)) : List Fragment → List String
  | [] =>
    match word with
    | some chars => [String.ofList chars.reverse]
    | none => []
  | .mark :: rest => cutWords (some (word.getD [])) rest
  | .char c :: rest => cutWords (some (c :: word.getD [])) rest
  | .loose c :: rest =>
    if isGap c ∨ c = '\n' then
      match word with
      | some chars => String.ofList chars.reverse :: cutWords none rest
      | none => cutWords none rest
    else cutWords (some (c :: word.getD [])) rest

/-- The end of a redirection of output: a stream of the shell, or a file. -/
inductive Sink where
  | stream (isError : Bool)
  | file (path : String)
  deriving DecidableEq, Repr

/-- The redirections of a command once they are open: its input, and where its streams go. -/
structure Plumbing where
  input : ByteArray
  output : Sink
  errors : Sink

/-- Sets where a stream goes. -/
def Plumbing.set (p : Plumbing) (stream : Nat) (sink : Sink) : Plumbing :=
  if stream = 2 then { p with errors := sink } else { p with output := sink }

/-- Delivers output to where its streams go. -/
def deliver (p : Plumbing) (files : FileTree) : List Chunk → List Chunk × FileTree
  | [] => ([], files)
  | chunk :: rest =>
    match if chunk.isError then p.errors else p.output with
    | .stream isError =>
      let (later, files) := deliver p files rest
      (⟨isError, chunk.data⟩ :: later, files)
    | .file path =>
      let old := (files.read path).toOption.getD .empty
      deliver p ((files.write path (old ++ chunk.data)).toOption.getD files) rest

/-- A result with nothing but a code. -/
def Session.ended (s : Session) (code : Nat) : Result := ⟨{ s with code }, [], .continues⟩

/-- A result with a message of the shell. -/
def Session.complaining (s : Session) (code : Nat) (message : String) : Result :=
  ⟨{ s with code }, [⟨true, line ("sh: 1: " ++ message)⟩], .continues⟩

/-- Runs the commands that change the shell itself; none if the name is that of another command. -/
def builtin? (s : Session) (name : String) (args : List String) : Option Result :=
  match name with
  | "exit" =>
    match args with
    | [] => some ⟨s, [], .exited s.code⟩
    | arg :: _ =>
      match number? arg with
      | some n => some ⟨s, [], .exited (n % 256)⟩
      | none =>
        some { s.complaining 2 ("exit: Illegal number: " ++ arg) with flow := .exited 2 }
  | "cd" =>
    let target := args.headD (s.parameter "HOME")
    match s.files.find true (s.place target) with
    | .ok (place, some .directory) => some (Session.ended { s with directory := place.path } 0)
    | _ => some (s.complaining 2 ("cd: can't cd to " ++ target))
  | "pwd" => some ⟨{ s with code := 0 }, [⟨false, line s.directory⟩], .continues⟩
  | "kill" =>
    if args.getLast? ≠ some processId then some (s.complaining 1 "kill: No such process")
    else if args.contains "-0" then some (s.ended 0)
    else some ⟨s, [], .killed⟩
  | "export" =>
    let bindings := args.foldl (fun d arg =>
      match Text.splitFirst '=' arg with
      | some (name, value) => d.insert name value
      | none => d) s.bindings
    some (Session.ended { s with bindings } 0)
  | "unset" => some (Session.ended { s with bindings := args.foldl Dict.erase s.bindings } 0)
  | _ => none

/-- Runs a command by its words. -/
def runWords (s : Session) (input : ByteArray) (name : String) (args : List String) : Result :=
  match builtin? s name args with
  | some result => result
  | none =>
    match program? name s.files s.place input args with
    | none => s.complaining 127 (name ++ ": not found")
    | some exit =>
      ⟨{ s with code := exit.code, files := exit.files, elapsed := s.elapsed + exit.elapsed },
        exit.output, .continues⟩

/-- What a shell of its own leaves to the one it came from. -/
def Session.afterChild (s : Session) (child : Result) : Result :=
  let code := match child.flow with
    | .exited code => code
    | _ => child.session.code
  ⟨{ s with files := child.session.files, elapsed := child.session.elapsed, code }, child.output,
    if child.flow = .killed then .killed else .continues⟩

/-- The text of output without the ends of lines behind it. -/
def substituted (data : ByteArray) : String :=
  String.ofList (Text.dropTrailing (· = '\n') (Text.lossy data).toList)

mutual

/-- Expands the pieces of a word. -/
def expand : (fuel : Nat) → Session → Word → List Fragment × Session
  | 0, s, _ => ([], s)
  | _ + 1, s, [] => ([], s)
  | fuel + 1, s, piece :: rest =>
    let (here, s) := match piece with
      | .plain c | .pattern c => ([.char c], s)
      | .quoted c => ([.char c], s)
      | .tilde => ((s.parameter "HOME").toList.map .char, s)
      | .expansion quoted e =>
        let (value, s) := match e with
          | .parameter name => (s.parameter name, s)
          | .braced name => (s.parameter name, s)
          | .command inner =>
            let result := s.afterChild (runLine fuel s .empty inner)
            (substituted (bytesOf false result.output), result.session)
        if quoted then (.mark :: value.toList.map .char, s) else (value.toList.map .loose, s)
    let (later, s) := expand fuel s rest
    (here ++ later, s)

/-- Expands words; a word without pieces was written as an empty pair of quotes. -/
def expandAll : (fuel : Nat) → Session → List Word → List String × Session
  | 0, s, _ => ([], s)
  | _ + 1, s, [] => ([], s)
  | fuel + 1, s, word :: rest =>
    let (fragments, s) := if word.isEmpty then ([.mark], s) else expand fuel s word
    let (later, s) := expandAll fuel s rest
    (cutWords none fragments ++ later, s)

/-- Opens redirections in their order; the path of one that cannot be opened is returned. -/
def openRedirects : (fuel : Nat) → Session → Plumbing → List Redirect →
    Except String Plumbing × Session
  | 0, s, p, _ => (.ok p, s)
  | _ + 1, s, p, [] => (.ok p, s)
  | fuel + 1, s, p, redirect :: rest =>
    match redirect with
    | .input word =>
      let (words, s) := expandAll fuel s [word]
      let path := words.headD ""
      match if path = "/dev/null" then .ok .empty else s.files.read (s.place path) with
      | .ok input => openRedirects fuel s { p with input } rest
      | .error _ => (.error ("cannot open " ++ path ++ ": No such file"), s)
    | .output stream append word =>
      let (words, s) := expandAll fuel s [word]
      let path := words.headD ""
      let place := s.place path
      if path = "/dev/null" then openRedirects fuel s (p.set stream (.file path)) rest
      else
        let old := if append then (s.files.read place).toOption.getD .empty else .empty
        match s.files.write place old with
        | .ok files => openRedirects fuel { s with files } (p.set stream (.file place)) rest
        | .error .isDirectory => (.error ("cannot create " ++ path ++ ": Is a directory"), s)
        | .error _ => (.error ("cannot create " ++ path ++ ": Directory nonexistent"), s)
    | .duplicate stream word =>
      let (words, s) := expandAll fuel s [word]
      let sink := if words = ["2"] then p.errors else p.output
      openRedirects fuel s (p.set stream sink) rest

/-- Carries out a command by its words; some commands carry out a line that they are given. -/
def runNamed (fuel : Nat) (s : Session) (input : ByteArray) (name : String) (args : List String) :
    Result :=
  match fuel with
  | 0 => s.ended 2
  | fuel + 1 =>
    match name, args with
    | "sh", "-c" :: text :: _ => s.afterChild (runLine fuel { s with bindings := .empty } input text)
    | "eval", _ => runLine fuel s input (Text.join " " args)
    | "exec", name :: args =>
      let result := runNamed fuel s input name args
      if result.flow = .continues then { result with flow := .exited result.session.code } else result
    | _, _ => runWords s input name args

/-- Carries out a command with its input. -/
def run : (fuel : Nat) → Session → ByteArray → Command → Result
  | 0, s, _, _ => s.ended 2
  | fuel + 1, s, input, command =>
    match command with
    | .nothing => ⟨s, [], .continues⟩
    | .simple c =>
      let (words, s) := expandAll fuel s c.words
      let (values, s) := expandAll fuel s (c.assignments.map fun a => .quoted ' ' :: a.2)
      let assigned := (c.assignments.zip values).foldl
        (fun d (a, value) => d.insert a.1 (value.drop 1).toString) s.bindings
      let (opened, s) := openRedirects fuel s ⟨input, .stream false, .stream true⟩ c.redirects
      match opened with
      | .error message => s.complaining 2 message
      | .ok p =>
        let result := match words with
          | [] => Session.ended { s with bindings := assigned } 0
          | name :: args => runNamed fuel s p.input name args
        let (output, files) := deliver p result.session.files result.output
        { result with output, session := { result.session with files } }
    | .group apart body redirects =>
      let (opened, s) := openRedirects fuel s ⟨input, .stream false, .stream true⟩ redirects
      match opened with
      | .error message => s.complaining 2 message
      | .ok p =>
        let inner := run fuel s p.input body
        let result := if apart then s.afterChild inner else inner
        let (output, files) := deliver p result.session.files result.output
        { result with output, session := { result.session with files } }
    | .negated c =>
      let result := run fuel s input c
      { result with
        session := { result.session with code := if result.session.code = 0 then 1 else 0 } }
    | .pipe first second =>
      let left := s.afterChild (run fuel s input first)
      let piped := bytesOf false left.output
      let errors := left.output.filter (·.isError)
      if left.flow = .killed then ⟨left.session, errors, .killed⟩
      else
        let right := s.afterChild
          (run fuel { s with files := left.session.files } piped second)
        let elapsed := max left.session.elapsed right.session.elapsed
        ⟨{ right.session with elapsed }, errors ++ right.output, right.flow⟩
    | .both first second =>
      let left := run fuel s input first
      if left.flow ≠ .continues || left.session.code ≠ 0 then left
      else
        let right := run fuel left.session input second
        { right with output := left.output ++ right.output }
    | .either first second =>
      let left := run fuel s input first
      if left.flow ≠ .continues || left.session.code = 0 then left
      else
        let right := run fuel left.session input second
        { right with output := left.output ++ right.output }
    | .sequence first second =>
      let left := run fuel s input first
      if left.flow ≠ .continues then left
      else
        let right := run fuel left.session input second
        { right with output := left.output ++ right.output }

/-- Carries out a command line with its input. -/
def runLine : (fuel : Nat) → Session → ByteArray → String → Result
  | 0, s, _, _ => s.ended 2
  | fuel + 1, s, input, text =>
    match tokens text with
    | none => s.complaining 2 "Syntax error: Unterminated quoted string"
    | some ts =>
      match Command.ofTokens? ts with
      | some c => run fuel s input c
      | none => s.complaining 2 "Syntax error"

end

/-- How many steps a command line may take. -/
def stepBound (text : String) : Nat := 100 * text.length + 1000

/-- Runs a command line in a directory, which is made if need be. A command that takes longer than
its limit is ended; one that is ended by a signal has the code -1. -/
def execute (files : FileTree) (directory command : String) (limit : Option Nat) :
    Except ProviderError CommandOutput × FileTree :=
  let (_, files) := files.makeDirectories directory
  match files.find true directory with
  | .ok (place, some .directory) =>
    let start : Session := ⟨files, place.path, .empty, 0, 0⟩
    let result := runLine (stepBound command) start .empty command
    let files := result.session.files
    let code : Int := match result.flow with
      | .continues => result.session.code
      | .exited code => code
      | .killed => -1
    let output : CommandOutput :=
      ⟨code, Text.lossy (bytesOf false result.output), Text.lossy (bytesOf true result.output)⟩
    match limit with
    | some ms =>
      if ms ≤ result.session.elapsed then (.error (.commandTimeout command (ms / 1000)), files)
      else (.ok output, files)
    | none => (.ok output, files)
  | .ok (_, some _) => (.error (.spawn command FileError.notDirectory.message), files)
  | .ok (_, none) => (.error (.spawn command FileError.notFound.message), files)
  | .error e => (.error (.spawn command e.message), files)

end Muster.Shell
