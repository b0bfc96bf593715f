/-!
# Dictionaries ordered by key

A `Dict α` holds its entries in strictly ascending key order, so it has one form for each content and
prints in key order. The order of keys is that of their code points, which is also the order of
their UTF-8 bytes. `get?_insert`, `get?_erase` and `get?_merge` are the laws by which operations are
reasoned about.
-/

set_option autoImplicit false

namespace Muster

/-- The entries, keys strictly ascending. -/
structure Dict (α : Type) where
  toList : List (String × α)
  ascending : (toList.map Prod.fst).Pairwise (· < ·)

namespace Dict

variable {α β : Type}

@[ext] theorem ext {d e : Dict α} (h : d.toList = e.toList) : d = e := by
  cases d; cases e; cases h; rfl

instance [DecidableEq α] : DecidableEq (Dict α) := fun d e =>
  if h : d.toList = e.toList then .isTrue (ext h) else .isFalse fun he => h (he ▸ rfl)

instance [Repr α] : Repr (Dict α) := ⟨fun d n => reprPrec d.toList n⟩

/-- The dictionary without entries. -/
def empty : Dict α := ⟨[], by simp⟩

instance : EmptyCollection (Dict α) := ⟨empty⟩

instance : Inhabited (Dict α) := ⟨empty⟩

/-- The keys in ascending order. -/
def keys (d : Dict α) : List String := d.toList.map Prod.fst

/-- The values in the order of their keys. -/
def values (d : Dict α) : List α := d.toList.map Prod.snd

/-- The number of entries. -/
def size (d : Dict α) : Nat := d.toList.length

/-- Whether there are no entries. -/
def isEmpty (d : Dict α) : Bool := d.toList.isEmpty

/-- The value at a key among ordered or unordered entries: the first one. -/
def lookup (key : String) : List (String × α) → Option α
  | [] => none
  | (k, v) :: rest => if k = key then some v else lookup key rest

/-- The value stored at a key. -/
def get? (d : Dict α) (key : String) : Option α := lookup key d.toList

/-- Whether the key has an entry. -/
def contains (d : Dict α) (key : String) : Bool := (d.get? key).isSome

/-- Puts an entry into ascending entries, in place of one with the same key. -/
def insertInto (key : String) (value : α) : List (String × α) → List (String × α)
  | [] => [(key, value)]
  | (k, v) :: rest =>
    if k = key then (key, value) :: rest
    else if key < k then (key, value) :: (k, v) :: rest
    else (k, v) :: insertInto key value rest

theorem fst_mem_insertInto {key k : String} {value : α} {entries : List (String × α)}
    (h : k ∈ (insertInto key value entries).map Prod.fst) :
    k = key ∨ k ∈ entries.map Prod.fst := by
  induction entries with
  | nil => simpa [insertInto] using h
  | cons entry rest ih =>
    obtain ⟨a, v⟩ := entry
    simp only [insertInto] at h
    split at h
    · simp_all
    · split at h
      · simpa using h
      · simp only [List.map_cons, List.mem_cons] at h ⊢
        rcases h with h | h
        · exact .inr (.inl h)
        · rcases ih h with h | h
          · exact .inl h
          · exact .inr (.inr h)

theorem ascending_insertInto {key : String} {value : α} {entries : List (String × α)}
    (h : (entries.map Prod.fst).Pairwise (· < ·)) :
    ((insertInto key value entries).map Prod.fst).Pairwise (· < ·) := by
  induction entries with
  | nil => simp [insertInto]
  | cons entry rest ih =>
    obtain ⟨k, v⟩ := entry
    simp only [List.map_cons, List.pairwise_cons] at h
    simp only [insertInto]
    split
    · next same => subst same; simpa using h
    · next differ =>
      split
      · next less =>
        simp only [List.map_cons, List.pairwise_cons, List.mem_cons]
        refine ⟨?_, h⟩
        rintro b (rfl | hb)
        · exact less
        · exact String.lt_trans less (h.1 b hb)
      · next notLess =>
        simp only [List.map_cons, List.pairwise_cons]
        refine ⟨?_, ih h.2⟩
        intro b hb
        rcases fst_mem_insertInto hb with rfl | hb
        · rcases Std.lt_trichotomy k b with hlt | heq | hgt
          · exact hlt
          · exact absurd heq differ
          · exact absurd hgt notLess
        · exact h.1 b hb

/-- Stores a value at a key, in place of an earlier one. -/
def insert (d : Dict α) (key : String) (value : α) : Dict α :=
  ⟨insertInto key value d.toList, ascending_insertInto d.ascending⟩

/-- Removes the entry of a key. -/
def erase (d : Dict α) (key : String) : Dict α :=
  ⟨d.toList.filter fun entry => entry.1 ≠ key,
    d.ascending.sublist ((List.filter_sublist).map Prod.fst)⟩

/-- The dictionary of a list of entries; of two with the same key the later one stays. -/
def ofList (entries : List (String × α)) : Dict α :=
  entries.foldl (fun d entry => d.insert entry.1 entry.2) empty

/-- All entries of `e` put into `d`, in place of those of `d` with the same key. -/
def merge (d e : Dict α) : Dict α :=
  e.toList.foldl (fun d entry => d.insert entry.1 entry.2) d

/-- Every value replaced by its image. -/
def map (f : α → β) (d : Dict α) : Dict β :=
  ⟨d.toList.map fun entry => (entry.1, f entry.2), by
    simpa [List.map_map, Function.comp_def] using d.ascending⟩

/-- The value at a key replaced by its image, if there is one. -/
def modify (d : Dict α) (key : String) (f : α → α) : Dict α :=
  ⟨d.toList.map fun entry => (entry.1, if entry.1 = key then f entry.2 else entry.2), by
    simpa [List.map_map, Function.comp_def] using d.ascending⟩

/-- One entry. -/
def single (key : String) (value : α) : Dict α := ⟨[(key, value)], by simp⟩

end Dict

/-- A set of names, in ascending order. -/
abbrev NameSet := Dict Unit

namespace NameSet

/-- Adds a name. -/
def add (s : NameSet) (name : String) : NameSet := Dict.insert s name ()

/-- The set of the names in a list. -/
def ofNames (names : List String) : NameSet := names.foldl add Dict.empty

end NameSet

end Muster
