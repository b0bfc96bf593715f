import Muster.Toml.Scan

/-!
# Reading settings documents

A document is a run of lines: headers that open tables, and keys with their values. `Toml.read` gives
the entries of the whole document, or `none` where the grammar is broken or a line contradicts an
earlier one.
-/

set_option autoImplicit false

namespace Muster.Toml

/-- Reads the rest of a word. -/
def readWord (value : Toml) : List Char → List Char → Scan Toml
  | [], rest => some (value, rest)
  | c :: word, d :: rest => if c = d then readWord value word rest else none
  | _ :: _, [] => none

mutual

/-- Reads a value; `fuel` bounds the number of its parts and `room` how deep it may still go. -/
def readValue : (fuel room : Nat) → List Char → Scan Toml
  | 0, _, _ => none
  | fuel + 1, room, rest =>
    match rest with
    | '"' :: _ => (readText rest).map fun (s, rest) => (.text s, rest)
    | '\'' :: _ => (readText rest).map fun (s, rest) => (.text s, rest)
    | '[' :: rest =>
      match room with
      | 0 => none
      | room + 1 => (readItems fuel room rest).map fun (items, rest) => (.array items, rest)
    | '\x7b' :: rest =>
      match room, skipGap rest with
      | 0, _ => none
      | _ + 1, '\x7d' :: rest => some (.table .inline [], rest)
      | room + 1, _ =>
        (readPairs fuel room [] rest).map fun (entries, rest) => (.table .inline entries, rest)
    | 't' :: rest => readWord (.boolean true) ['r', 'u', 'e'] rest
    | 'f' :: rest => readWord (.boolean false) ['a', 'l', 's', 'e'] rest
    | _ => (readMoment rest).orElse fun _ => readNumber rest

/-- Reads the items of a list up to its closing bracket. -/
def readItems : (fuel room : Nat) → List Char → Scan (List Toml)
  | 0, _, _ => none
  | fuel + 1, room, rest =>
    match skipSpace (rest.length + 1) rest with
    | ']' :: rest => some ([], rest)
    | rest =>
      match readValue fuel room rest with
      | none => none
      | some (item, rest) =>
        match skipSpace (rest.length + 1) rest with
        | ',' :: rest => (readItems fuel room rest).map fun (items, rest) => (item :: items, rest)
        | ']' :: rest => some ([item], rest)
        | _ => none

/-- Reads keys with their values up to a closing brace. -/
def readPairs : (fuel room : Nat) → (entries : Entries) → List Char → Scan Entries
  | 0, _, _, _ => none
  | fuel + 1, room, entries, rest =>
    match readKeys depthBound rest with
    | some (keys, '=' :: rest) =>
      match readValue fuel room (skipGap rest) with
      | none => none
      | some (value, rest) =>
        match enterAt keys value entries with
        | none => none
        | some entries =>
          match skipGap rest with
          | ',' :: rest => readPairs fuel room entries rest
          | '\x7d' :: rest => some (entries, rest)
          | _ => none
    | _ => none

end

/-- A document while it is read: its entries, and the keys of the header that is open. -/
structure Draft where
  entries : Entries
  header : List String

/-- Reads a header behind its first bracket. -/
def readHeader (draft : Draft) (rest : List Char) : Option (Draft × List Char) :=
  match rest with
  | '[' :: rest =>
    match readKeys depthBound rest with
    | some (keys, ']' :: ']' :: rest) => do
      let rest ← skipLine rest
      let entries ← openNext keys draft.entries
      return (⟨entries, keys⟩, rest)
    | _ => none
  | rest =>
    match readKeys depthBound rest with
    | some (keys, ']' :: rest) => do
      let rest ← skipLine rest
      let entries ← openTable keys draft.entries
      return (⟨entries, keys⟩, rest)
    | _ => none

/-- Reads a key with its value. -/
def readPair (draft : Draft) (rest : List Char) : Option (Draft × List Char) :=
  match readKeys depthBound rest with
  | some (keys, '=' :: rest) => do
    let (value, rest) ← readValue (2 * rest.length + 2) depthBound (skipGap rest)
    let rest ← skipLine rest
    let entries ← underHeader (enterAt keys value) draft.header draft.entries
    return (⟨entries, draft.header⟩, rest)
  | _ => none

/-- Reads the lines of a document; `fuel` bounds their number. -/
def readLines : (fuel : Nat) → Draft → List Char → Option Entries
  | 0, _, _ => none
  | fuel + 1, draft, rest =>
    match skipGap rest with
    | [] => some draft.entries
    | '#' :: rest =>
      match skipLine ('#' :: rest) with
      | some rest => readLines fuel draft rest
      | none => none
    | '[' :: rest =>
      match readHeader draft rest with
      | some (draft, rest) => readLines fuel draft rest
      | none => none
    | rest =>
      match newline? rest with
      | some rest => readLines fuel draft rest
      | none =>
        match readPair draft rest with
        | some (draft, rest) => readLines fuel draft rest
        | none => none

/-- The entries of a document; a byte order mark at its start is passed over. -/
def read (document : String) : Option Entries :=
  let chars := match document.toList with
    | '\uFEFF' :: rest => rest
    | chars => chars
  readLines (chars.length + 1) ⟨[], []⟩ chars

end Muster.Toml
