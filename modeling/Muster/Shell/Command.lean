import Muster.Shell.Token

/-!
# Shell commands

The tokens of a command line form simple commands, and those are put together by pipes, conditions
and sequences. Every word is kept in its pieces, because what is active in it is only carried out
when the command is.
-/

set_option autoImplicit false

namespace Muster.Shell

/-- A word in its pieces. -/
abbrev Word := List Piece

/-- What a redirection does with a stream. -/
inductive Redirect where
  /-- Reads from a file. -/
  | input (path : Word)
  /-- Writes to a file from its start, or behind what it holds. -/
  | output (stream : Nat) (append : Bool) (path : Word)
  /-- Writes where another stream is written to. -/
  | duplicate (stream : Nat) (target : Word)
  deriving DecidableEq, Repr

/-- A simple command: assignments, words and redirections. -/
structure Simple where
  assignments : List (String × Word)
  words : List Word
  redirects : List Redirect
  deriving DecidableEq, Repr

/-- A command. -/
inductive Command where
  /-- Does nothing and succeeds. -/
  | nothing
  | simple (s : Simple)
  /-- A command in brackets, or in a shell of its own. -/
  | group (apart : Bool) (body : Command) (redirects : List Redirect)
  | negated (c : Command)
  /-- The output of the first is the input of the second. -/
  | pipe (first second : Command)
  /-- The second is carried out only if the first succeeds. -/
  | both (first second : Command)
  /-- The second is carried out only if the first fails. -/
  | either (first second : Command)
  | sequence (first second : Command)
  deriving DecidableEq, Repr

/-- The characters of a word without anything active or quoted. -/
def bareText? (word : Word) : Option String :=
  (word.mapM fun piece =>
    match piece with
    | Piece.plain c => some c
    | _ => none).map String.ofList

/-- The stream and the kind of a redirection operator. -/
def redirection? (text : String) : Option (Nat × String) :=
  let chars := text.toList
  let digits := chars.takeWhile fun c => '0' ≤ c ∧ c ≤ '9'
  let kind := String.ofList (chars.dropWhile fun c => '0' ≤ c ∧ c ≤ '9')
  let stream := digits.foldl (fun n c => n * 10 + (c.toNat - 48)) 0
  if kind = "<" then some (if digits.isEmpty then 0 else stream, kind)
  else if kind = ">" ∨ kind = ">>" ∨ kind = ">|" ∨ kind = ">&" then
    some (if digits.isEmpty then 1 else stream, kind)
  else none

/-- The redirection of an operator and the word behind it. -/
def redirectOf (stream : Nat) (kind : String) (word : Word) : Redirect :=
  if kind = "<" then .input word
  else if kind = ">&" then .duplicate stream word
  else .output stream (kind = ">>") word

/-- The redirections at the front. -/
def readRedirects : List Token → Option (List Redirect × List Token)
  | .operator text :: .word word :: rest =>
    match redirection? text with
    | some (stream, kind) =>
      (readRedirects rest).map fun (redirects, rest) =>
        (redirectOf stream kind word :: redirects, rest)
    | none => some ([], .operator text :: .word word :: rest)
  | .operator text :: rest =>
    if (redirection? text).isSome then none else some ([], .operator text :: rest)
  | rest => some ([], rest)

/-- The name and the value of a word that assigns. -/
def assignment? (word : Word) : Option (String × Word) :=
  let name := word.takeWhile fun
    | .plain c => isNameChar c
    | _ => false
  match bareText? name, word.drop name.length with
  | some text, .plain '=' :: value =>
    match text.toList with
    | c :: _ => if beginsName c then some (text, value) else none
    | [] => none
  | _, _ => none

/-- Reads the rest of a simple command. -/
def readSimple (s : Simple) : List Token → Option (Simple × List Token)
  | .word word :: rest =>
    match s.words, assignment? word with
    | [], some a => readSimple { s with assignments := s.assignments ++ [a] } rest
    | _, _ => readSimple { s with words := s.words ++ [word] } rest
  | .operator text :: rest =>
    match redirection? text, rest with
    | some (stream, kind), .word word :: rest =>
      readSimple { s with redirects := s.redirects ++ [redirectOf stream kind word] } rest
    | some _, _ => none
    | none, rest => some (s, .operator text :: rest)
  | [] => some (s, [])

/-- What remains behind ends of lines. -/
def skipNewlines : List Token → List Token
  | .operator "\n" :: rest => skipNewlines rest
  | rest => rest

/-- Whether the front closes a group. -/
def closesGroup : List Token → Bool
  | .operator text :: _ => text = ")"
  | .word word :: _ => bareText? word = some "\x7d"
  | [] => true

mutual

/-- Reads one command without pipes; `fuel` bounds the number of parts. -/
def readSingleCommand : (fuel : Nat) → List Token → Option (Command × List Token)
  | 0, _ => none
  | fuel + 1, rest =>
    match rest with
    | .operator text :: inner =>
      if text = "(" then
        match readList fuel inner with
        | some (body, .operator ")" :: rest) =>
          (readRedirects rest).map fun (redirects, rest) => (.group true body redirects, rest)
        | _ => none
      else if (redirection? text).isSome then
        (readSimple ⟨[], [], []⟩ rest).map fun (s, rest) => (.simple s, rest)
      else none
    | .word word :: inner =>
      if bareText? word = some "\x7b" then
        match readList fuel inner with
        | some (body, .word close :: rest) =>
          if bareText? close = some "\x7d" then
            (readRedirects rest).map fun (redirects, rest) => (.group false body redirects, rest)
          else none
        | _ => none
      else (readSimple ⟨[], [], []⟩ rest).map fun (s, rest) => (.simple s, rest)
    | [] => none

/-- Reads commands joined by pipes. -/
def readPipeline : (fuel : Nat) → List Token → Option (Command × List Token)
  | 0, _ => none
  | fuel + 1, rest =>
    match rest with
    | .word [.plain '!'] :: rest =>
      (readPipeline fuel rest).map fun (c, rest) => (.negated c, rest)
    | _ =>
      match readSingleCommand fuel rest with
      | some (first, .operator "|" :: rest) =>
        (readPipeline fuel (skipNewlines rest)).map fun (second, rest) =>
          (.pipe first second, rest)
      | other => other

/-- Reads the rest of pipelines joined by conditions. -/
def readConditions : (fuel : Nat) → Command → List Token → Option (Command × List Token)
  | 0, _, _ => none
  | fuel + 1, first, rest =>
    match rest with
    | .operator "&&" :: rest =>
      match readPipeline fuel (skipNewlines rest) with
      | some (second, rest) => readConditions fuel (.both first second) rest
      | none => none
    | .operator "||" :: rest =>
      match readPipeline fuel (skipNewlines rest) with
      | some (second, rest) => readConditions fuel (.either first second) rest
      | none => none
    | rest => some (first, rest)

/-- Reads a sequence of commands up to the end of its group. -/
def readList : (fuel : Nat) → List Token → Option (Command × List Token)
  | 0, _ => none
  | fuel + 1, rest =>
    let rest := skipNewlines rest
    if closesGroup rest then some (.nothing, rest)
    else
      match readPipeline fuel rest with
      | none => none
      | some (first, rest) =>
        match readConditions fuel first rest with
        | none => none
        | some (first, .operator text :: rest) =>
          if text = ";" ∨ text = "\n" ∨ text = "&" then
            (readList fuel rest).map fun (second, rest) => (.sequence first second, rest)
          else some (first, .operator text :: rest)
        | some (first, rest) => some (first, rest)

end

/-- The command that tokens form. -/
def Command.ofTokens? (ts : List Token) : Option Command :=
  match readList (4 * ts.length + 4) ts with
  | some (c, []) => some c
  | _ => none

end Muster.Shell
