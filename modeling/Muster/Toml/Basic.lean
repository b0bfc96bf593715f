/-!
# Settings documents

A settings document is a table whose values are texts, numbers, Booleans, moments, lists and tables
again. How a table came to be decides what a later line of the document may still do to it: a table
with a header of its own takes no second header, a table between braces is closed for good, and keys
with points reach only into tables that such keys, or headers of tables below, have made.

Every operation here gives `none` where the document contradicts itself.
-/

set_option autoImplicit false

namespace Muster

/-- How a table came to be in a document. -/
inductive Toml.Origin where
  /-- By a header of its own. -/
  | header
  /-- By the header of a table below it. -/
  | implied
  /-- By a key with points. -/
  | dotted
  /-- Between braces. -/
  | inline
  deriving DecidableEq, Repr

/-- A value of a settings document. -/
inductive Toml where
  | text (value : String)
  | integer (value : Int)
  /-- A number with a fraction or an exponent, as it is written. -/
  | real (lexeme : String)
  /-- A date, a time of day or both, as it is written. -/
  | moment (lexeme : String)
  | boolean (value : Bool)
  | array (items : List Toml)
  /-- The tables under a header in double brackets, each with its entries. -/
  | tables (items : List (List (String × Toml)))
  | table (origin : Toml.Origin) (entries : List (String × Toml))
  deriving Repr, Inhabited

namespace Toml

/-- The entries of a table in the order in which they were made. -/
abbrev Entries := List (String × Toml)

/-- Changes what stands under a key; a new key comes last. -/
def alter (key : String) (f : Option Toml → Option Toml) : Entries → Option Entries
  | [] => (f none).map fun value => [(key, value)]
  | (k, value) :: rest =>
    if k = key then (f (some value)).map fun value => (k, value) :: rest
    else (alter key f rest).map fun rest => (k, value) :: rest

/-- Changes the last of several tables. -/
def alterLast (f : Entries → Option Entries) : List Entries → Option (List Entries)
  | [] => none
  | [last] => (f last).map fun last => [last]
  | first :: rest => (alterLast f rest).map fun rest => first :: rest

/-- Changes the table that the keys of a header lead to. Missing tables on the way are implied. -/
def underHeader (f : Entries → Option Entries) : List String → Entries → Option Entries
  | [], entries => f entries
  | key :: path, entries =>
    alter key (fun
      | none => (underHeader f path []).map (.table .implied)
      | some (.table .inline _) => none
      | some (.table origin inner) => (underHeader f path inner).map (.table origin)
      | some (.tables items) => (alterLast (underHeader f path) items).map .tables
      | some _ => none) entries

/-- Changes the table that the leading keys of a key with points lead to. Missing tables on the way
are made by it, and the last of them has to be made by such a key. -/
def underKeys (f : Entries → Option Entries) : List String → Entries → Option Entries
  | [], entries => f entries
  | key :: path, entries =>
    alter key (fun
      | none => (underKeys f path []).map (.table .dotted)
      | some (.table origin inner) =>
        if origin = .dotted || origin = .implied && !path.isEmpty then
          (underKeys f path inner).map (.table origin)
        else none
      | some (.tables items) =>
        if path.isEmpty then none else (alterLast (underKeys f path) items).map .tables
      | some _ => none) entries

/-- Enters a value under a key that is still free. -/
def enter (key : String) (value : Toml) : Entries → Option Entries :=
  alter key fun
    | none => some value
    | some _ => none

/-- Enters a value under a key with points. -/
def enterAt (keys : List String) (value : Toml) (entries : Entries) : Option Entries :=
  match keys.getLast? with
  | none => none
  | some key => underKeys (enter key value) keys.dropLast entries

/-- Opens the table of a header. -/
def openTable (keys : List String) (entries : Entries) : Option Entries :=
  match keys.getLast? with
  | none => none
  | some key =>
    underHeader (alter key fun
      | none => some (.table .header [])
      | some (.table .implied inner) => some (.table .header inner)
      | some _ => none) keys.dropLast entries

/-- Opens one more table under a header in double brackets. -/
def openNext (keys : List String) (entries : Entries) : Option Entries :=
  match keys.getLast? with
  | none => none
  | some key =>
    underHeader (alter key fun
      | none => some (.tables [[]])
      | some (.tables items) => some (.tables (items ++ [[]]))
      | some _ => none) keys.dropLast entries

end Toml

end Muster
