import Muster.Toml.Basic

/-!
# Settings taken from documents

A `Setting ρ` is one setting of a record `ρ`: its name, how its value is written and how it is taken
over from a document. A record with a list of settings is taken over from a table key by key; what
the table does not name keeps its value, and keys that nobody knows are passed over. A list stands
for the values of the settings in their order, as far as it goes.
-/

set_option autoImplicit false

namespace Muster.Toml

/-- The text of a value that is one. -/
def text? : Toml → Option String
  | .text s => some s
  | _ => none

/-- The Boolean of a value that is one. -/
def boolean? : Toml → Option Bool
  | .boolean b => some b
  | _ => none

/-- The natural number of a value that is one, up to a bound. -/
def natural? (bound : Nat) : Toml → Option Nat
  | .integer n => if 0 ≤ n ∧ n.toNat ≤ bound then some n.toNat else none
  | _ => none

/-- One setting of a record. -/
structure Setting (ρ : Type) where
  name : String
  /-- The value as it is written. -/
  get : ρ → Toml
  /-- The record with a value taken over, unless it is of the wrong kind. -/
  set : Toml → ρ → Option ρ

namespace Setting

variable {ρ : Type}

/-- Takes over the entries of a table. -/
def takeEntries (settings : List (Setting ρ)) : Entries → ρ → Option ρ
  | [], r => some r
  | (key, value) :: rest, r =>
    match settings.find? fun setting => setting.name = key with
    | none => takeEntries settings rest r
    | some setting => (setting.set value r).bind (takeEntries settings rest)

/-- Takes over values in the order of the settings. -/
def takeItems : List (Setting ρ) → List Toml → ρ → Option ρ
  | setting :: settings, value :: rest, r => (setting.set value r).bind (takeItems settings rest)
  | _, _, r => some r

/-- Takes over a record. A moment counts as a table without known keys. -/
def take (settings : List (Setting ρ)) (value : Toml) (r : ρ) : Option ρ :=
  match value with
  | .table _ entries => takeEntries settings entries r
  | .array items => takeItems settings items r
  | .tables items => takeItems settings (items.map (.table .header)) r
  | .moment _ => some r
  | _ => none

/-- The entries of a record in the order of its settings. -/
def entries (settings : List (Setting ρ)) (r : ρ) : Entries :=
  settings.map fun setting => (setting.name, setting.get r)

/-- A text. -/
def text (name : String) (get : ρ → String) (set : ρ → String → ρ) : Setting ρ :=
  ⟨name, fun r => .text (get r), fun value r => value.text?.map (set r)⟩

/-- A Boolean. -/
def boolean (name : String) (get : ρ → Bool) (set : ρ → Bool → ρ) : Setting ρ :=
  ⟨name, fun r => .boolean (get r), fun value r => value.boolean?.map (set r)⟩

/-- A natural number below `2 ^ 64`. -/
def nat64 (name : String) (get : ρ → UInt64) (set : ρ → UInt64 → ρ) : Setting ρ :=
  ⟨name, fun r => .integer (get r).toNat,
    fun value r => (value.natural? (UInt64.size - 1)).map fun n => set r n.toUInt64⟩

/-- A natural number below `2 ^ 32`. -/
def nat32 (name : String) (get : ρ → UInt32) (set : ρ → UInt32 → ρ) : Setting ρ :=
  ⟨name, fun r => .integer (get r).toNat,
    fun value r => (value.natural? (UInt32.size - 1)).map fun n => set r n.toUInt32⟩

/-- A natural number below `2 ^ 16`. -/
def nat16 (name : String) (get : ρ → UInt16) (set : ρ → UInt16 → ρ) : Setting ρ :=
  ⟨name, fun r => .integer (get r).toNat,
    fun value r => (value.natural? (UInt16.size - 1)).map fun n => set r n.toUInt16⟩

/-- A record of its own with its settings. -/
def group {σ : Type} (name : String) (settings : List (Setting σ)) (get : ρ → σ)
    (set : ρ → σ → ρ) : Setting ρ :=
  ⟨name, fun r => .table .header (entries settings (get r)),
    fun value r => (take settings value (get r)).map (set r)⟩

end Setting

end Muster.Toml
