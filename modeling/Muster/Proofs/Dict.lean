import Muster.Dict

/-!
# The laws of dictionaries

What a look-up finds after each operation. The order of the entries plays no part in these laws
except in `merge_get?`, where the later entry of a key has to be the only one.
-/

set_option autoImplicit false

namespace Muster

namespace Dict

variable {α β : Type}

/-! ### Looking up -/

theorem lookup_eq_none_iff {key : String} {entries : List (String × α)} :
    lookup key entries = none ↔ key ∉ entries.map Prod.fst := by
  induction entries with
  | nil => simp [lookup]
  | cons entry rest ih =>
    obtain ⟨k, v⟩ := entry
    by_cases same : k = key
    · simp [lookup, same]
    · have differ : key ≠ k := fun h => same h.symm
      simp [lookup, same, differ, ih]

theorem lookup_insertInto (key k : String) (value : α) (entries : List (String × α)) :
    lookup k (insertInto key value entries) = if k = key then some value else lookup k entries := by
  induction entries with
  | nil =>
    by_cases same : k = key
    · simp [insertInto, lookup, same]
    · have differ : key ≠ k := fun h => same h.symm
      simp [insertInto, lookup, same, differ]
  | cons entry rest ih =>
    obtain ⟨a, v⟩ := entry
    simp only [insertInto]
    by_cases same : k = key
    · subst same
      split
      · simp [lookup]
      · next other =>
        split
        · simp [lookup]
        · simpa [lookup, other] using ih
    · have differ : key ≠ k := fun h => same h.symm
      split
      · next here => subst here; simp [lookup, differ]
      · split
        · simp [lookup, differ]
        · simp only [lookup, ih, same, if_false]

@[simp] theorem get?_empty (key : String) : (empty : Dict α).get? key = none := rfl

theorem get?_insert (d : Dict α) (key k : String) (value : α) :
    (d.insert key value).get? k = if k = key then some value else d.get? k :=
  lookup_insertInto key k value d.toList

@[simp] theorem get?_insert_self (d : Dict α) (key : String) (value : α) :
    (d.insert key value).get? key = some value := by
  rw [get?_insert, if_pos rfl]

theorem get?_insert_of_ne {d : Dict α} {key k : String} {value : α} (differ : k ≠ key) :
    (d.insert key value).get? k = d.get? k := by
  rw [get?_insert, if_neg differ]

@[simp] theorem get?_single_self (key : String) (value : α) : (single key value).get? key = some value := by
  simp [single, get?, lookup]

theorem get?_erase (d : Dict α) (key k : String) :
    (d.erase key).get? k = if k = key then none else d.get? k := by
  obtain ⟨entries, ascending⟩ := d
  simp only [erase, get?]
  clear ascending
  induction entries with
  | nil => simp [lookup]
  | cons entry rest ih =>
    obtain ⟨a, v⟩ := entry
    by_cases gone : a = key
    · subst gone
      by_cases same : k = a
      · subst same
        simpa using ih
      · have differ : a ≠ k := fun h => same h.symm
        simpa [lookup, differ, same] using ih
    · simp only [List.filter_cons, ne_eq, gone, not_false_eq_true, decide_true, if_true, lookup]
      by_cases here : a = k
      · subst here
        simp [gone]
      · simpa [here] using ih

@[simp] theorem get?_erase_self (d : Dict α) (key : String) : (d.erase key).get? key = none := by
  rw [get?_erase, if_pos rfl]

theorem get?_erase_of_ne {d : Dict α} {key k : String} (differ : k ≠ key) :
    (d.erase key).get? k = d.get? k := by
  rw [get?_erase, if_neg differ]

theorem get?_map (f : α → β) (d : Dict α) (key : String) :
    (d.map f).get? key = (d.get? key).map f := by
  obtain ⟨entries, ascending⟩ := d
  simp only [map, get?]
  clear ascending
  induction entries with
  | nil => rfl
  | cons entry rest ih =>
    obtain ⟨k, v⟩ := entry
    by_cases same : k = key
    · simp [lookup, same]
    · simpa [lookup, same] using ih

theorem get?_modify (d : Dict α) (key k : String) (f : α → α) :
    (d.modify key f).get? k = if k = key then (d.get? k).map f else d.get? k := by
  obtain ⟨entries, ascending⟩ := d
  simp only [modify, get?]
  clear ascending
  induction entries with
  | nil => simp [lookup]
  | cons entry rest ih =>
    obtain ⟨a, v⟩ := entry
    by_cases here : a = k
    · subst here
      by_cases same : a = key
      · simp [lookup, same]
      · simp [lookup, same]
    · simpa [lookup, here] using ih

theorem modify_modify (d : Dict α) (key : String) (f g : α → α) :
    (d.modify key f).modify key g = d.modify key fun value => g (f value) := by
  refine ext ?_
  simp only [modify, List.map_map]
  refine List.map_congr_left fun entry _ => ?_
  by_cases same : entry.1 = key <;> simp [same]

/-- Entries in ascending order are told apart by what is looked up in them. -/
theorem eq_of_lookup {entries others : List (String × α)}
    (ascending : (entries.map Prod.fst).Pairwise (· < ·)) (ascending' : (others.map Prod.fst).Pairwise (· < ·))
    (same : ∀ key, lookup key entries = lookup key others) : entries = others := by
  induction entries generalizing others with
  | nil =>
    cases others with
    | nil => rfl
    | cons other others => simpa [lookup] using same other.1
  | cons entry entries ih =>
    obtain ⟨k, v⟩ := entry
    rw [List.map_cons, List.pairwise_cons] at ascending
    cases others with
    | nil => simpa [lookup] using same k
    | cons other others =>
      obtain ⟨k', v'⟩ := other
      rw [List.map_cons, List.pairwise_cons] at ascending'
      have absent : lookup k entries = none :=
        lookup_eq_none_iff.2 fun here => String.lt_irrefl k (ascending.1 k here)
      have absent' : lookup k' others = none :=
        lookup_eq_none_iff.2 fun here => String.lt_irrefl k' (ascending'.1 k' here)
      have first : k = k' := by
        by_cases differ : k = k'
        · exact differ
        -- The lesser of the two keys is in the one list and not in the other.
        have here := same k
        have there := same k'
        rw [lookup, lookup, if_pos rfl, if_neg (Ne.symm differ)] at here
        rw [lookup, lookup, if_pos rfl, if_neg differ] at there
        have mem : k ∈ others.map Prod.fst := by
          rw [← Decidable.not_not (p := k ∈ others.map Prod.fst), ← lookup_eq_none_iff, ← here]
          exact Option.some_ne_none v
        have mem' : k' ∈ entries.map Prod.fst := by
          rw [← Decidable.not_not (p := k' ∈ entries.map Prod.fst), ← lookup_eq_none_iff, there]
          exact Option.some_ne_none v'
        exact absurd (String.lt_trans (ascending.1 k' mem') (ascending'.1 k mem)) (String.lt_irrefl k)
      subst first
      have value : v = v' := by simpa [lookup] using same k
      subst value
      have rest : entries = others := by
        refine ih ascending.2 ascending'.2 fun key => ?_
        by_cases here : k = key
        · rw [← here, absent, absent']
        · simpa [lookup, here] using same key
      rw [rest]

/-- What is looked up is an entry. -/
theorem get?_eq_some_iff_mem {d : Dict α} {key : String} {value : α} :
    d.get? key = some value ↔ (key, value) ∈ d.toList := by
  obtain ⟨entries, ascending⟩ := d
  show lookup key entries = some value ↔ (key, value) ∈ entries
  induction entries with
  | nil => simp [lookup]
  | cons entry rest ih =>
    obtain ⟨k, v⟩ := entry
    obtain ⟨before, later⟩ := List.pairwise_cons.1 ascending
    by_cases same : k = key
    · subst same
      have none : (k, value) ∉ rest := fun member => String.lt_irrefl k (before k (List.mem_map_of_mem member))
      simp [lookup, none, eq_comm]
    · have differ : ¬ (key, value) = (k, v) := fun h => same (Prod.mk.inj h).1.symm
      rw [lookup, if_neg same, ih later, List.mem_cons, or_iff_right differ]

theorem mem_values_iff {d : Dict α} {value : α} : value ∈ d.values ↔ ∃ key, d.get? key = some value := by
  simp [values, get?_eq_some_iff_mem]

/-- A dictionary is what is looked up in it. -/
theorem ext_get? {d e : Dict α} (same : ∀ key, d.get? key = e.get? key) : d = e :=
  ext (eq_of_lookup d.ascending e.ascending same)

/-! ### Keys and sizes -/

theorem contains_iff_mem_keys {d : Dict α} {key : String} : d.contains key = true ↔ key ∈ d.keys := by
  rw [contains, Option.isSome_iff_ne_none, get?, ne_eq, lookup_eq_none_iff, Decidable.not_not, keys]

theorem keys_nodup (d : Dict α) : d.keys.Nodup :=
  d.ascending.imp fun less same => by subst same; exact String.lt_irrefl _ less

@[simp] theorem length_keys (d : Dict α) : d.keys.length = d.size := List.length_map ..

@[simp] theorem length_values (d : Dict α) : d.values.length = d.size := List.length_map ..

@[simp] theorem size_map (f : α → β) (d : Dict α) : (d.map f).size = d.size := List.length_map ..

theorem contains_insert (d : Dict α) (key k : String) (value : α) :
    (d.insert key value).contains k = (decide (k = key) || d.contains k) := by
  rw [contains, get?_insert]
  by_cases same : k = key
  · simp [same]
  · simp [same, contains]

theorem contains_erase (d : Dict α) (key k : String) :
    (d.erase key).contains k = (!decide (k = key) && d.contains k) := by
  rw [contains, get?_erase]
  by_cases same : k = key
  · simp [same]
  · simp [same, contains]

theorem length_insertInto {key : String} {entries : List (String × α)} (absent : key ∉ entries.map Prod.fst)
    (value : α) : (insertInto key value entries).length = entries.length + 1 := by
  induction entries with
  | nil => rfl
  | cons entry rest ih =>
    obtain ⟨k, v⟩ := entry
    rw [List.map_cons, List.mem_cons, not_or] at absent
    rw [insertInto, if_neg (Ne.symm absent.1)]
    split
    · rfl
    · rw [List.length_cons, ih absent.2, List.length_cons]

/-- An entry of a new key makes one more. -/
theorem size_insert_of_not_contains {d : Dict α} {key : String} (absent : d.contains key = false) (value : α) :
    (d.insert key value).size = d.size + 1 := by
  apply length_insertInto
  intro member
  rw [contains_iff_mem_keys.2 member] at absent
  cases absent

theorem isEmpty_eq_false_iff {d : Dict α} : d.isEmpty = false ↔ ∃ key, d.contains key = true := by
  obtain ⟨entries, ascending⟩ := d
  cases entries with
  | nil => simp [isEmpty, contains, get?, lookup]
  | cons entry rest =>
    refine ⟨fun _ => ⟨entry.1, ?_⟩, fun _ => rfl⟩
    rw [contains_iff_mem_keys]
    simp [keys]

/-! ### Merging -/

theorem get?_foldl_insert (entries : List (String × α)) (d : Dict α) (key : String)
    (distinct : (entries.map Prod.fst).Nodup) :
    (entries.foldl (fun d entry => d.insert entry.1 entry.2) d).get? key
      = (lookup key entries).or (d.get? key) := by
  induction entries generalizing d with
  | nil => rfl
  | cons entry rest ih =>
    obtain ⟨k, v⟩ := entry
    simp only [List.map_cons, List.nodup_cons] at distinct
    rw [List.foldl_cons, ih _ distinct.2, get?_insert]
    by_cases same : key = k
    · subst same
      simp [lookup, lookup_eq_none_iff.2 distinct.1]
    · have differ : k ≠ key := fun h => same h.symm
      simp [lookup, same, differ]

/-- A merged dictionary has the entries of the second one, and of the first one what is not there. -/
theorem get?_merge (d e : Dict α) (key : String) :
    (d.merge e).get? key = (e.get? key).or (d.get? key) :=
  get?_foldl_insert e.toList d key e.keys_nodup

/-- Of dictionaries merged one after the other the last one with an entry counts. -/
theorem get?_foldl_merge (parts : List (Dict α)) (d : Dict α) (key : String) :
    (parts.foldl merge d).get? key = (parts.reverse.findSome? fun e => e.get? key).or (d.get? key) := by
  induction parts generalizing d with
  | nil => rfl
  | cons part rest ih =>
    rw [List.foldl_cons, ih, get?_merge, List.reverse_cons, List.findSome?_append, Option.or_assoc]
    simp

end Dict

namespace NameSet

theorem contains_add (s : NameSet) (name n : String) :
    (s.add name).contains n = (decide (n = name) || s.contains n) :=
  Dict.contains_insert s name n ()

theorem contains_foldl_add (names : List String) (s : NameSet) (n : String) :
    (names.foldl add s).contains n = (decide (n ∈ names) || s.contains n) := by
  induction names generalizing s with
  | nil => simp
  | cons name rest ih =>
    rw [List.foldl_cons, ih, contains_add]
    by_cases here : n = name <;> by_cases there : n ∈ rest <;> simp [here, there]

theorem contains_ofNames {names : List String} {n : String} :
    (ofNames names).contains n = true ↔ n ∈ names := by
  rw [ofNames, contains_foldl_add]
  simp [Dict.contains]

end NameSet

end Muster
