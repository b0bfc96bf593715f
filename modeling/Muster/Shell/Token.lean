import Muster.Shell.Quote

/-!
# Tokens of shell commands

A shell cuts a command line into words and operators before it does anything else. `tokens` follows
its rules: blanks end words, a quote hides what is special between it and the next one, a backslash
hides the character behind it, and operators end words too. What stays active in a word stays
visible in its pieces: expansions, patterns of file names and a leading tilde. `literalWords?` gives
the words of a command line in which nothing is active.
-/

set_option autoImplicit false

namespace Muster.Shell

/-- What a dollar sign or a pair of backquotes asks for. -/
inductive Expansion where
  /-- The value of a parameter. -/
  | parameter (name : String)
  /-- What stands between braces. -/
  | braced (body : String)
  /-- The output of a command line. -/
  | command (line : String)
  deriving DecidableEq, Repr

/-- A piece of a word. -/
inductive Piece where
  /-- A character that stands for itself and had no need of a quote. -/
  | plain (c : Char)
  /-- A character that a quote or a backslash makes stand for itself. -/
  | quoted (c : Char)
  /-- An expansion; inside double quotes its value is not cut into words. -/
  | expansion (quoted : Bool) (e : Expansion)
  /-- A character of a pattern of file names. -/
  | pattern (c : Char)
  /-- A tilde at the start of a word. -/
  | tilde
  deriving DecidableEq, Repr

/-- A token of a command line. -/
inductive Token where
  | word (pieces : List Piece)
  /-- An operator; the end of a line is one. -/
  | operator (text : String)
  deriving DecidableEq, Repr

/-- Whether a character parts words. -/
def isGap (c : Char) : Bool := c = ' ' || c = '\t'

/-- Whether an operator begins with a character. -/
def beginsOperator (c : Char) : Bool := "\n;&|<>()".toList.contains c

/-- The operators of two and three characters. -/
def longOperators : List (List Char) :=
  ["<<-", "&&", "||", ";;", "<<", ">>", "<&", ">&", "<>", ">|"].map String.toList

/-- The longest operator at the front. -/
def operatorAt (rest : List Char) : List Char :=
  (longOperators.find? fun operator => operator.isPrefixOf rest).getD (rest.take 1)

/-- Whether a character may begin the name of a parameter. -/
def beginsName (c : Char) : Bool :=
  ('a' ≤ c && c ≤ 'z') || ('A' ≤ c && c ≤ 'Z') || c = '_'

/-- Whether a character may stand in the name of a parameter. -/
def isNameChar (c : Char) : Bool := beginsName c || ('0' ≤ c && c ≤ '9')

/-- Whether a character is the whole name of a parameter. -/
def isSpecialParameter (c : Char) : Bool :=
  "@*#?-$!".toList.contains c || ('0' ≤ c && c ≤ '9')

/-- What stands up to a closing single quote. -/
def readSingle : List Char → Option (List Char × List Char)
  | [] => none
  | '\'' :: rest => some ([], rest)
  | c :: rest => (readSingle rest).map fun (inner, rest) => (c :: inner, rest)

/-- What stands up to a closing bracket; `depth` more of its kind are open, and brackets inside
quotes do not count. -/
def readBracket (opening closing : Char) :
    (fuel depth : Nat) → List Char → Option (List Char × List Char)
  | 0, _, _ => none
  | fuel + 1, depth, rest =>
    match rest with
    | [] => none
    | '\\' :: c :: rest =>
      (readBracket opening closing fuel depth rest).map fun (inner, rest) =>
        ('\\' :: c :: inner, rest)
    | '\'' :: rest =>
      (readSingle rest).bind fun (hidden, rest) =>
        (readBracket opening closing fuel depth rest).map fun (inner, rest) =>
          ('\'' :: (hidden ++ '\'' :: inner), rest)
    | c :: rest =>
      if c = closing then
        match depth with
        | 0 => some ([], rest)
        | depth + 1 =>
          (readBracket opening closing fuel depth rest).map fun (inner, rest) => (c :: inner, rest)
      else
        let depth := if c = opening then depth + 1 else depth
        (readBracket opening closing fuel depth rest).map fun (inner, rest) => (c :: inner, rest)

/-- The expansion behind a dollar sign, if one stands there. -/
def readDollar (rest : List Char) : Option (Option Expansion × List Char) :=
  match rest with
  | '(' :: rest =>
    (readBracket '(' ')' (rest.length + 1) 0 rest).map fun (inner, rest) =>
      (some (.command (String.ofList inner)), rest)
  | '\x7b' :: rest =>
    (readBracket '\x7b' '\x7d' (rest.length + 1) 0 rest).map fun (inner, rest) =>
      (some (.braced (String.ofList inner)), rest)
  | c :: rest =>
    if beginsName c then
      some (some (.parameter (String.ofList (c :: rest.takeWhile isNameChar))),
        rest.dropWhile isNameChar)
    else if isSpecialParameter c then some (some (.parameter (String.singleton c)), rest)
    else some (none, c :: rest)
  | [] => some (none, [])

/-- The command line up to a closing backquote. -/
def readBackquote : List Char → Option (List Char × List Char)
  | [] => none
  | '`' :: rest => some ([], rest)
  | '\\' :: '`' :: rest => (readBackquote rest).map fun (inner, rest) => ('`' :: inner, rest)
  | '\\' :: '\\' :: rest => (readBackquote rest).map fun (inner, rest) => ('\\' :: inner, rest)
  | '\\' :: '$' :: rest => (readBackquote rest).map fun (inner, rest) => ('$' :: inner, rest)
  | c :: rest => (readBackquote rest).map fun (inner, rest) => (c :: inner, rest)

/-- Whether a backslash inside double quotes hides the character behind it. -/
def isEscapedInDouble (c : Char) : Bool := "$`\"\\".toList.contains c

/-- The pieces up to a closing double quote. -/
def readDouble : (fuel : Nat) → List Char → Option (List Piece × List Char)
  | 0, _ => none
  | fuel + 1, rest =>
    match rest with
    | [] => none
    | '"' :: rest => some ([], rest)
    | '\\' :: '\n' :: rest => readDouble fuel rest
    | '\\' :: c :: rest =>
      let here := if isEscapedInDouble c then [.quoted c] else [.quoted '\\', .quoted c]
      (readDouble fuel rest).map fun (pieces, rest) => (here ++ pieces, rest)
    | '$' :: rest =>
      (readDollar rest).bind fun (found, rest) =>
        let piece := match found with
          | some e => .expansion true e
          | none => .quoted '$'
        (readDouble fuel rest).map fun (pieces, rest) => (piece :: pieces, rest)
    | '`' :: rest =>
      (readBackquote rest).bind fun (line, rest) =>
        (readDouble fuel rest).map fun (pieces, rest) =>
          (.expansion true (.command (String.ofList line)) :: pieces, rest)
    | c :: rest => (readDouble fuel rest).map fun (pieces, rest) => (.quoted c :: pieces, rest)

/-- The token of a word that may have been begun, in front of more tokens. -/
def closeWord (word : Option (List Piece)) (later : List Token) : List Token :=
  match word with
  | some pieces => .word pieces :: later
  | none => later

/-- The digits of a word that names a stream in front of a redirection. -/
def streamDigits? (word : Option (List Piece)) : Option (List Char) :=
  match word with
  | some pieces =>
    let digits := pieces.filterMap fun
      | .plain c => if '0' ≤ c ∧ c ≤ '9' then some c else none
      | _ => none
    if digits.length = pieces.length ∧ pieces ≠ [] then some digits else none
  | none => none

/-- The piece of a character outside quotes; `first` says that it begins its word. -/
def pieceOf (first : Bool) (c : Char) : Piece :=
  if c = '*' ∨ c = '?' ∨ c = '[' then .pattern c
  else if c = '~' ∧ first then .tilde
  else .plain c

/-- The tokens from a place on; `word` holds the pieces of a word that has been begun. -/
def tokensFrom : (fuel : Nat) → (word : Option (List Piece)) → List Char → Option (List Token)
  | 0, _, _ => none
  | fuel + 1, word, rest =>
    let begun := word.getD []
    match rest with
    | [] => some (closeWord word [])
    | '\'' :: rest =>
      (readSingle rest).bind fun (inner, rest) =>
        tokensFrom fuel (some (begun ++ inner.map .quoted)) rest
    | '"' :: rest =>
      (readDouble (rest.length + 1) rest).bind fun (pieces, rest) =>
        tokensFrom fuel (some (begun ++ pieces)) rest
    | '\\' :: '\n' :: rest => tokensFrom fuel word rest
    | '\\' :: c :: rest => tokensFrom fuel (some (begun ++ [.quoted c])) rest
    | ['\\'] => tokensFrom fuel (some (begun ++ [.quoted '\\'])) []
    | '$' :: rest =>
      (readDollar rest).bind fun (found, rest) =>
        let piece := match found with
          | some e => .expansion false e
          | none => .plain '$'
        tokensFrom fuel (some (begun ++ [piece])) rest
    | '`' :: rest =>
      (readBackquote rest).bind fun (line, rest) =>
        tokensFrom fuel (some (begun ++ [.expansion false (.command (String.ofList line))])) rest
    | c :: tail =>
      if isGap c then (tokensFrom fuel none tail).map (closeWord word)
      else if c = '#' ∧ word.isNone then tokensFrom fuel none (tail.dropWhile (· ≠ '\n'))
      else if beginsOperator c then
        let operator := operatorAt rest
        let later := tokensFrom fuel none (rest.drop operator.length)
        match streamDigits? word with
        | some digits =>
          if c = '<' ∨ c = '>' then
            later.map fun later => .operator (String.ofList (digits ++ operator)) :: later
          else later.map fun later => closeWord word (.operator (String.ofList operator) :: later)
        | none => later.map fun later => closeWord word (.operator (String.ofList operator) :: later)
      else tokensFrom fuel (some (begun ++ [pieceOf word.isNone c])) tail

/-- The tokens of a command line; none if a quote or an expansion is not closed. -/
def tokens (line : String) : Option (List Token) :=
  tokensFrom (line.length + 1) none line.toList

/-- The character of a piece in which nothing is active. -/
def Piece.literal? : Piece → Option Char
  | .plain c => some c
  | .quoted c => some c
  | .expansion _ _ | .pattern _ | .tilde => none

/-- The text of a token that is a word in which nothing is active. -/
def Token.literal? : Token → Option String
  | .word pieces => (pieces.mapM Piece.literal?).map String.ofList
  | .operator _ => none

/-- The words of a command line that has no operators and in which nothing is active. -/
def literalWords? (line : String) : Option (List String) :=
  (tokens line).bind fun ts => ts.mapM Token.literal?

end Muster.Shell
