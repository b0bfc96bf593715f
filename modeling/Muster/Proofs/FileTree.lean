import Muster.Host.FileTree
import Muster.Proofs.Dict

/-!
# Ways through a tree of files

A tree that has all that another one has (`Extends`) is walked in the same way: a walk that leads to
something leads there in the larger tree, and one that leads to a free place leads there too, whatever
stands there now (`walk_extends`). Making directories only adds to a tree, so nothing that could be read is
lost by it.

A walk that is to follow a link in the last place and one that is not differ in nothing but that link
(`walk_follows`, `walk_unfollowed`).
-/

set_option autoImplicit false

namespace Muster.FileTree

variable {t t' : FileTree} {place there : Place} {entry : FileEntry} {found : Option FileEntry}

/-! ### Single places -/

theorem at?_of_ne_nil (t : FileTree) (some : place ≠ []) : t.at? place = t.entries.get? place.path := by
  cases place with
  | nil => exact absurd rfl some
  | cons name rest => rfl

theorem ne_nil_of_at? (free : t.at? place = none) : place ≠ [] := by
  rintro rfl
  cases free

theorem at?_put (t : FileTree) (entry : FileEntry) (some : there ≠ []) :
    (t.put place entry).at? there = if there.path = place.path then Option.some entry else t.at? there := by
  rw [at?_of_ne_nil _ some, at?_of_ne_nil _ some]
  exact Dict.get?_insert ..

theorem at?_put_self (t : FileTree) (entry : FileEntry) (some : place ≠ []) :
    (t.put place entry).at? place = Option.some entry := by
  rw [at?_put t entry some, if_pos rfl]

theorem at?_put_of_ne (t : FileTree) (entry : FileEntry) (other : there.path ≠ place.path) :
    (t.put place entry).at? there = t.at? there := by
  cases there with
  | nil => rfl
  | cons name rest => rw [at?_put t entry (List.cons_ne_nil _ _), if_neg other]

theorem at?_drop_of_ne (t : FileTree) (other : there.path ≠ place.path) :
    (t.drop place).at? there = t.at? there := by
  cases there with
  | nil => rfl
  | cons name rest =>
    rw [at?_of_ne_nil _ (List.cons_ne_nil _ _), at?_of_ne_nil _ (List.cons_ne_nil _ _)]
    exact Dict.get?_erase_of_ne other

theorem entries_injective (same : t.entries = t'.entries) : t = t' := congrArg FileTree.mk same

/-- What is put into a free place and taken away again leaves no trace. -/
theorem drop_put (free : t.at? place = none) (entry : FileEntry) : (t.put place entry).drop place = t := by
  rw [at?_of_ne_nil t (ne_nil_of_at? free)] at free
  refine entries_injective (Dict.ext_get? fun key => ?_)
  show ((t.entries.insert place.path entry).erase place.path).get? key = _
  rw [Dict.get?_erase, Dict.get?_insert]
  by_cases here : key = place.path
  · rw [if_pos here, here, free]
  · rw [if_neg here, if_neg here]

theorem drop_put_drop (t : FileTree) (place : Place) (entry : FileEntry) :
    (t.put place entry).drop place = t.drop place := by
  refine entries_injective (Dict.ext_get? fun key => ?_)
  show ((t.entries.insert place.path entry).erase place.path).get? key = (t.entries.erase place.path).get? key
  rw [Dict.get?_erase, Dict.get?_erase, Dict.get?_insert]
  split <;> rfl

/-! ### Larger trees -/

/-- Whatever stands in a tree stands in the other one. -/
def Extends (t t' : FileTree) : Prop := ∀ place entry, t.at? place = some entry → t'.at? place = some entry

theorem Extends.refl (t : FileTree) : t.Extends t := fun _ _ here => here

theorem Extends.trans {t'' : FileTree} (first : t.Extends t') (second : t'.Extends t'') : t.Extends t'' :=
  fun place entry here => second place entry (first place entry here)

theorem extends_put (free : t.at? place = none) (entry : FileEntry) : t.Extends (t.put place entry) := by
  intro other standing here
  cases other with
  | nil => exact here
  | cons name rest =>
    have apart : Place.path (name :: rest) ≠ place.path := by
      intro same
      rw [at?_of_ne_nil t (List.cons_ne_nil _ _), same, ← at?_of_ne_nil t (ne_nil_of_at? free), free] at here
      cases here
    rw [at?_put_of_ne t entry apart, here]

theorem drop_extends (t : FileTree) (place : Place) : (t.drop place).Extends t := by
  intro other standing here
  cases other with
  | nil => exact here
  | cons name rest =>
    by_cases same : Place.path (name :: rest) = place.path
    · rw [at?_of_ne_nil _ (List.cons_ne_nil _ _), same] at here
      cases (Dict.get?_erase_self t.entries place.path).symm.trans here
    · rwa [at?_drop_of_ne t same] at here

theorem drop_extends_put (t : FileTree) (place : Place) (entry : FileEntry) :
    (t.drop place).Extends (t.put place entry) := by
  have smaller := (t.put place entry).drop_extends place
  rwa [drop_put_drop] at smaller

/-! ### Walks -/

/-- A name that is walked as such. -/
structure Plain (name : String) : Prop where
  stays : name ≠ "."
  climbs : name ≠ ".."
  short : ¬ 255 < name.utf8ByteSize

/-- Where a walk leads that does not fail, one constructor for each step that it may take. -/
inductive Leads (t : FileTree) (follow : Bool) (place : Place) (found : Option FileEntry) :
    (fuel links : Nat) → Place → List String → Prop where
  | done {fuel links : Nat} (here : found = some .directory) : Leads t follow place found (fuel + 1) links place []
  | stay {fuel links : Nat} {start : Place} {rest : List String}
      (later : Leads t follow place found fuel links start rest) :
      Leads t follow place found (fuel + 1) links start ("." :: rest)
  | climb {fuel links : Nat} {start : Place} {rest : List String}
      (later : Leads t follow place found fuel links start.dropLast rest) :
      Leads t follow place found (fuel + 1) links start (".." :: rest)
  | free {fuel links : Nat} {start : Place} {name : String} (plain : Plain name)
      (last : place = start ++ [name]) (here : t.at? place = none) (none : found = none) :
      Leads t follow place found (fuel + 1) links start [name]
  | descend {fuel links : Nat} {start : Place} {name : String} {rest : List String} (plain : Plain name)
      (here : t.at? (start ++ [name]) = some .directory)
      (later : Leads t follow place found fuel links (start ++ [name]) rest) :
      Leads t follow place found (fuel + 1) links start (name :: rest)
  | file {fuel links : Nat} {start : Place} {name : String} {mode : UInt32} {data : ByteArray}
      (plain : Plain name) (last : place = start ++ [name]) (here : t.at? place = found)
      (file : found = some (.file mode data)) : Leads t follow place found (fuel + 1) links start [name]
  | link {fuel links : Nat} {start : Place} {name target : String} (plain : Plain name)
      (unfollowed : follow = false) (last : place = start ++ [name]) (here : t.at? place = found)
      (link : found = some (.link target)) : Leads t follow place found (fuel + 1) links start [name]
  | through {fuel links : Nat} {start : Place} {name target : String} {rest : List String}
      (plain : Plain name) (here : t.at? (start ++ [name]) = some (.link target))
      (further : rest ≠ [] ∨ follow = true)
      (later : Leads t follow place found fuel links (if Path.isAbsolute target then [] else start)
        (steps target ++ rest)) :
      Leads t follow place found (fuel + 1) (links + 1) start (name :: rest)

section

variable {follow : Bool} {fuel links : Nat} {start : Place} {names : List String}

theorem Leads.of_walk (walked : t.walk follow fuel links start names = .ok (place, found)) :
    Leads t follow place found fuel links start names := by
  fun_induction walk t follow fuel links start names with
  | case1 => cases walked
  | case2 =>
    obtain ⟨rfl, rfl⟩ := Prod.mk.inj (Except.ok.inj walked)
    exact .done rfl
  | case3 _ _ _ _ ih => exact .stay (ih walked)
  | case4 _ _ _ _ _ ih => exact .climb (ih walked)
  | case5 => cases walked
  | case6 links fuel start name rest stays climbs short place' here last =>
    obtain ⟨rfl, rfl⟩ := Prod.mk.inj (Except.ok.inj walked)
    obtain rfl := List.isEmpty_iff.1 last
    exact .free ⟨stays, climbs, short⟩ rfl here rfl
  | case7 => cases walked
  | case8 links fuel start name rest stays climbs short place' here ih =>
    exact .descend ⟨stays, climbs, short⟩ here (ih walked)
  | case9 links fuel start name rest stays climbs short place' mode data here last =>
    obtain ⟨rfl, rfl⟩ := Prod.mk.inj (Except.ok.inj walked)
    obtain rfl := List.isEmpty_iff.1 last
    exact .file ⟨stays, climbs, short⟩ rfl here rfl
  | case10 => cases walked
  | case11 links fuel start name rest stays climbs short place' target here last =>
    obtain ⟨rfl, rfl⟩ := Prod.mk.inj (Except.ok.inj walked)
    simp only [Bool.and_eq_true, List.isEmpty_iff, Bool.not_eq_true'] at last
    obtain ⟨rfl, unfollowed⟩ := last
    exact .link ⟨stays, climbs, short⟩ unfollowed rfl here rfl
  | case12 => cases walked
  | case13 fuel start name rest stays climbs short place' target here last links start' ih =>
    refine .through ⟨stays, climbs, short⟩ here ?_ (ih walked)
    cases rest with
    | nil => exact .inr (by simpa using last)
    | cons name rest => exact .inl (List.cons_ne_nil _ _)

theorem Leads.walk (leads : Leads t follow place found fuel links start names) :
    t.walk follow fuel links start names = .ok (place, found) := by
  induction leads with
  | done here => rw [FileTree.walk, here]
  | stay later ih => rw [FileTree.walk, if_pos rfl, ih]
  | climb later ih => rw [FileTree.walk, if_neg (by decide), if_pos rfl, ih]
  | free plain last here none =>
    subst last none
    simp [FileTree.walk, plain.stays, plain.climbs, plain.short, here]
  | descend plain here later ih =>
    simp [FileTree.walk, plain.stays, plain.climbs, plain.short, here, ih]
  | file plain last here file =>
    subst last file
    simp [FileTree.walk, plain.stays, plain.climbs, plain.short, here]
  | link plain unfollowed last here link =>
    subst last link
    simp [FileTree.walk, plain.stays, plain.climbs, plain.short, here, unfollowed]
  | through plain here further later ih =>
    have goes : ∀ {names : List String}, names ≠ [] ∨ follow = true → (names.isEmpty && !follow) = false := by
      intro names further
      cases names <;> cases follow <;> simp_all
    simp [FileTree.walk, plain.stays, plain.climbs, plain.short, here, goes further, ih]

/-- **A walk in a larger tree** leads to the same place. -/
theorem Leads.extends (leads : Leads t follow place found fuel links start names) (more : t.Extends t')
    (last : found = none → t'.at? place ≠ some .directory ∧
      ∀ target, t'.at? place = some (.link target) → follow = false) :
    Leads t' follow place (found.or (t'.at? place)) fuel links start names := by
  induction leads with
  | done here => exact .done (by rw [here]; rfl)
  | stay later ih => exact .stay ih
  | climb later ih => exact .climb ih
  | free plain end' here none =>
    subst none
    obtain ⟨closed, unfollowed⟩ := last rfl
    rw [Option.none_or]
    cases standing : t'.at? place with
    | none => exact .free plain end' standing rfl
    | some entry =>
      cases entry with
      | file mode data => exact .file plain end' standing rfl
      | link target => exact .link plain (unfollowed target standing) end' standing rfl
      | directory => exact absurd standing closed
  | descend plain here later ih => exact .descend plain (more _ _ here) ih
  | file plain end' here file =>
    subst file
    exact .file plain end' (more _ _ here) rfl
  | link plain unfollowed end' here link =>
    subst link
    exact .link plain unfollowed end' (more _ _ here) rfl
  | through plain here further later ih => exact .through plain (more _ _ here) further ih

/-- What a walk finds stands at the place that it leads to, unless it is a directory. -/
theorem Leads.at? (leads : Leads t follow place found fuel links start names)
    (other : found ≠ some .directory) : t.at? place = found := by
  induction leads with
  | done here => exact absurd here other
  | stay later ih => exact ih
  | climb later ih => exact ih
  | free plain last here none => rw [here, none]
  | descend plain here later ih => exact ih
  | file plain last here file => exact here
  | link plain unfollowed last here link => exact here
  | through plain here further later ih => exact ih

/-- Places with different entries have different paths. -/
theorem path_ne_of_at? (t : FileTree) (ne : there ≠ []) (ne' : place ≠ []) (differ : t.at? there ≠ t.at? place) :
    there.path ≠ place.path := by
  intro same
  rw [at?_of_ne_nil t ne, at?_of_ne_nil t ne', same] at differ
  exact differ rfl

/-- **Where a walk leads to a file, it still does** once the file is replaced: the places on the way hold other
entries. -/
theorem Leads.replaced {mode mode' : UInt32} {data data' : ByteArray}
    (leads : Leads t follow place found fuel links start names) (file : found = some (.file mode data)) :
    Leads (t.put place (.file mode' data')) follow place (some (.file mode' data')) fuel links start names := by
  have standing : t.at? place = some (.file mode data) := file ▸ leads.at? (by simp [file])
  have placed : place ≠ [] := by
    rintro rfl
    cases standing
  have stays : ∀ {there}, there ≠ [] → t.at? there ≠ some (.file mode data) →
      (t.put place (.file mode' data')).at? there = t.at? there := by
    intro there ne other
    exact at?_put_of_ne t _ (path_ne_of_at? t ne placed (standing ▸ other))
  clear standing
  induction leads with
  | done here => simp [file] at here
  | stay later ih => exact .stay ih
  | climb later ih => exact .climb ih
  | free plain last here none => simp [file] at none
  | descend plain here later ih =>
    exact .descend plain ((stays (List.append_ne_nil_of_right_ne_nil _ (List.cons_ne_nil _ _))
      (by simp [here])).trans here) ih
  | file plain last here _ => exact .file plain last (at?_put_self t _ placed) rfl
  | link plain unfollowed last here link => simp [file] at link
  | through plain here further later ih =>
    exact .through plain ((stays (List.append_ne_nil_of_right_ne_nil _ (List.cons_ne_nil _ _))
      (by simp [here])).trans here) further ih

/-- A walk that follows no link in the last place, and finds none there, may follow one. -/
theorem Leads.follows (leads : Leads t false place found fuel links start names)
    (other : ∀ target, found ≠ some (.link target)) : Leads t true place found fuel links start names := by
  induction leads with
  | done here => exact .done here
  | stay later ih => exact .stay ih
  | climb later ih => exact .climb ih
  | free plain last here none => exact .free plain last here none
  | descend plain here later ih => exact .descend plain here ih
  | file plain last here file => exact .file plain last here file
  | link plain unfollowed last here link => exact absurd link (other _)
  | through plain here further later ih => exact .through plain here (.inr rfl) ih

/-- A walk that follows a link in the last place leads to the same without that, unless there is one. -/
theorem Leads.unfollowed (leads : Leads t true place found fuel links start names) :
    Leads t false place found fuel links start names ∨
      ∃ place' target, Leads t false place' (some (.link target)) fuel links start names := by
  induction leads with
  | done here => exact .inl (.done here)
  | stay later ih => exact ih.imp .stay fun ⟨place', target, leads⟩ => ⟨place', target, .stay leads⟩
  | climb later ih => exact ih.imp .climb fun ⟨place', target, leads⟩ => ⟨place', target, .climb leads⟩
  | free plain last here none => exact .inl (.free plain last here none)
  | descend plain here later ih =>
    exact ih.imp (.descend plain here) fun ⟨place', target, leads⟩ => ⟨place', target, .descend plain here leads⟩
  | file plain last here file => exact .inl (.file plain last here file)
  | link plain unfollowed last here link => cases unfollowed
  | @through _ _ _ _ target rest plain here further later ih =>
    cases rest with
    | nil => exact .inr ⟨_, target, .link plain rfl rfl here rfl⟩
    | cons name rest =>
      have further : name :: rest ≠ [] ∨ false = true := .inl (List.cons_ne_nil _ _)
      exact ih.imp (.through plain here further)
        fun ⟨place', target, leads⟩ => ⟨place', target, .through plain here further leads⟩

/-- A point behind the last name asks for a directory. -/
theorem Leads.directory (leads : Leads t follow place found fuel links start names)
    (point : names.getLast? = some ".") : found = some .directory := by
  induction leads with
  | done here => exact here
  | @stay _ _ _ rest later ih =>
    cases rest with
    | nil =>
      cases later with
      | done here => exact here
    | cons name rest => exact ih point
  | @climb _ _ _ rest later ih =>
    cases rest with
    | nil => exact absurd (Option.some.inj point) (by decide)
    | cons name rest => exact ih point
  | free plain last here none => exact absurd (Option.some.inj point) plain.stays
  | @descend _ _ _ _ rest plain here later ih =>
    cases rest with
    | nil => exact absurd (Option.some.inj point) plain.stays
    | cons name rest => exact ih point
  | file plain last here file => exact absurd (Option.some.inj point) plain.stays
  | link plain unfollowed last here link => exact absurd (Option.some.inj point) plain.stays
  | @through _ _ _ _ _ rest plain here further later ih =>
    cases rest with
    | nil => exact absurd (Option.some.inj point) plain.stays
    | cons name rest =>
      refine ih ?_
      have last : (name :: rest).getLast? = some "." := point
      rw [List.getLast?_append, last]
      rfl

/-- What is led to with a point behind the last name is led to without it, if links are followed. -/
theorem Leads.without_point {all : List String} (leads : Leads t true place found fuel links start all)
    (point : all = names ++ ["."]) : Leads t true place found fuel links start names := by
  induction leads generalizing names with
  | done here => cases names <;> cases point
  | @stay fuel _ _ rest later ih =>
    cases names with
    | nil =>
      obtain rfl := (List.cons.inj point).2
      cases later with
      | done here => exact .done here
    | cons name names =>
      obtain ⟨rfl, same⟩ := List.cons.inj point
      exact .stay (ih same)
  | climb later ih =>
    cases names with
    | nil => exact absurd (List.cons.inj point).1 (by decide)
    | cons name names =>
      obtain ⟨rfl, same⟩ := List.cons.inj point
      exact .climb (ih same)
  | free plain last here none => 
    cases names with
    | nil => exact absurd (List.cons.inj point).1 plain.stays
    | cons name names => cases names <;> cases (List.cons.inj point).2
  | descend plain here later ih =>
    cases names with
    | nil => exact absurd (List.cons.inj point).1 plain.stays
    | cons name names =>
      obtain ⟨rfl, same⟩ := List.cons.inj point
      exact .descend plain here (ih same)
  | file plain last here file =>
    cases names with
    | nil => exact absurd (List.cons.inj point).1 plain.stays
    | cons name names => cases names <;> cases (List.cons.inj point).2
  | link plain unfollowed last here link => cases unfollowed
  | through plain here further later ih =>
    cases names with
    | nil => exact absurd (List.cons.inj point).1 plain.stays
    | cons name names =>
      obtain ⟨rfl, same⟩ := List.cons.inj point
      refine .through plain here (.inr rfl) (ih ?_)
      rw [same]
      exact (List.append_assoc _ _ _).symm

end

/-! ### Paths -/

section

variable {follow : Bool} {path : String}

/-- The names of a path. -/
def namesOf (path : String) : List String := (Text.splitOn '/' path).filter fun name => !name.isEmpty

/-- A slash at the end of a path that has names asks for a directory. -/
theorem steps_cases (path : String) :
    (endsInSlash path = false ∧ steps path = namesOf path) ∨ (steps path = [] ∧ namesOf path = []) ∨
      steps path = namesOf path ++ ["."] := by
  have whole : steps path =
      if (endsInSlash path && !(namesOf path).isEmpty) = true then namesOf path ++ ["."] else namesOf path := rfl
  rw [whole]
  cases endsInSlash path with
  | false => exact .inl ⟨rfl, rfl⟩
  | true =>
    cases namesOf path with
    | nil => exact .inr (.inl ⟨rfl, rfl⟩)
    | cons name rest => exact .inr (.inr rfl)

theorem find_eq_ok :
    t.find follow path = .ok (place, found) ↔
      checkPath path = .ok () ∧ Leads t follow place found 400000 40 [] (steps path) := by
  rw [find]
  cases checkPath path with
  | error cause => simp
  | ok checked => exact ⟨fun walked => ⟨rfl, .of_walk walked⟩, fun leads => leads.2.walk⟩

theorem named_eq_ok :
    t.named path = .ok (place, found) ↔
      checkPath path = .ok () ∧ Leads t false place found 400000 40 [] (namesOf path) := by
  rw [named]
  cases checkPath path with
  | error cause => simp
  | ok checked => exact ⟨fun walked => ⟨rfl, .of_walk walked⟩, fun leads => leads.2.walk⟩

/-- Only a directory is found at a path that ends in a slash. -/
theorem endsInSlash_eq_false (here : t.find follow path = .ok (place, found))
    (other : found ≠ some .directory) : endsInSlash path = false ∧ steps path = namesOf path := by
  obtain ⟨checked, leads⟩ := find_eq_ok.1 here
  rcases steps_cases path with plain | ⟨nothing, -⟩ | point
  · exact plain
  · rw [nothing] at leads
    cases leads with
    | done directory => exact absurd directory other
  · rw [point] at leads
    exact absurd (leads.directory List.getLast?_concat) other

/-- **A path in a larger tree** leads to the same place. -/
theorem find_extends (more : t.Extends t') (here : t.find follow path = .ok (place, found))
    (last : found = none → t'.at? place ≠ some .directory ∧
      ∀ target, t'.at? place = some (.link target) → follow = false) :
    t'.find follow path = .ok (place, found.or (t'.at? place)) := by
  obtain ⟨checked, leads⟩ := find_eq_ok.1 here
  exact find_eq_ok.2 ⟨checked, leads.extends more last⟩

/-- What is found stands at the place that the path leads to, unless it is a directory. -/
theorem at?_of_find (here : t.find follow path = .ok (place, found)) (other : found ≠ some .directory) :
    t.at? place = found :=
  (find_eq_ok.1 here).2.at? other

/-- A free place that is free in a larger tree too is found there as such. -/
theorem find_free (more : t.Extends t') (free : t.find follow path = .ok (place, none))
    (vacant : t'.at? place = none) : t'.find follow path = .ok (place, none) := by
  have here := find_extends more free fun _ => by simp [vacant]
  rwa [vacant, Option.none_or] at here

/-- A file that stands at a free place in a larger tree is found there. -/
theorem find_file {mode : UInt32} {data : ByteArray} (more : t.Extends t')
    (free : t.find follow path = .ok (place, none)) (standing : t'.at? place = some (.file mode data)) :
    t'.find follow path = .ok (place, some (.file mode data)) := by
  have here := find_extends more free fun _ => by simp [standing]
  rwa [standing, Option.none_or] at here

theorem find_follows (here : t.find false path = .ok (place, found))
    (other : ∀ target, found ≠ some (.link target)) : t.find true path = .ok (place, found) := by
  obtain ⟨checked, leads⟩ := find_eq_ok.1 here
  exact find_eq_ok.2 ⟨checked, leads.follows other⟩

/-! ### Reading -/

theorem stat_extends (more : t.Extends t') (here : t.stat path = .ok entry) : t'.stat path = .ok entry := by
  rw [stat] at here
  split at here
  · cases here
  · cases here
  · next place standing found =>
    obtain rfl := Except.ok.inj here
    rw [stat, find_extends more found nofun]
    rfl

theorem isDirectory_iff : t.isDirectory path = true ↔ t.stat path = .ok .directory := by
  rw [isDirectory]
  split
  · next here => simp [here]
  · next other => simpa using other

theorem isDirectory_extends (more : t.Extends t') (here : t.isDirectory path = true) :
    t'.isDirectory path = true :=
  isDirectory_iff.2 (stat_extends more (isDirectory_iff.1 here))

/-- What can be read can be read in a larger tree. -/
theorem read_extends {data : ByteArray} (more : t.Extends t') (here : t.read path = .ok data) :
    t'.read path = .ok data := by
  rw [read] at here
  split at here
  · cases here
  · next mode standing found =>
    rw [read, stat_extends more found]
    exact here
  · cases here

/-! ### Directories -/

theorem makeDirectory_extends (made : t.makeDirectory path = .ok t') : t.Extends t' := by
  rw [makeDirectory] at made
  split at made
  · cases made
  · cases made
  · next place here =>
    obtain rfl := Except.ok.inj made
    have free := (named_eq_ok.1 here).2.at? nofun
    exact extends_put free _

/-- **Making directories only adds to the tree**, even where it fails in the end. -/
theorem makeDirectoriesFrom_extends (fuel : Nat) (t : FileTree) (path : String) :
    t.Extends (makeDirectoriesFrom fuel t path).2 := by
  fun_induction makeDirectoriesFrom fuel t path with
  | case3 _ t path some t' made => exact makeDirectory_extends made
  | case5 _ t path some missing parent above e t' failed ih => rwa [failed] at ih
  | case6 _ t path some missing parent above t' done t'' made ih =>
    rw [done] at ih
    exact ih.trans (makeDirectory_extends made)
  | case7 _ t path some missing parent above t' done e failed directory ih => rwa [done] at ih
  | case8 _ t path some missing parent above t' done e failed other ih => rwa [done] at ih
  | _ => exact .refl _

theorem makeDirectories_extends (t : FileTree) (path : String) : t.Extends (t.makeDirectories path).2 :=
  makeDirectoriesFrom_extends _ t path

/-- A directory that is there is not made. -/
theorem makeDirectories_of_isDirectory (here : t.isDirectory path = true) :
    t.makeDirectories path = (.ok (), t) := by
  obtain ⟨place, found⟩ : ∃ place, t.find true path = .ok (place, some .directory) := by
    have standing := isDirectory_iff.1 here
    rw [stat] at standing
    split at standing
    · cases standing
    · cases standing
    · next place entry found =>
      obtain rfl := Except.ok.inj standing
      exact ⟨place, found⟩
  obtain ⟨checked, leads⟩ := find_eq_ok.1 found
  have plainly : Leads t true place (some .directory) 400000 40 [] (namesOf path) := by
    rcases steps_cases path with ⟨-, plain⟩ | ⟨nothing, none⟩ | point
    · exact plain ▸ leads
    · rw [nothing] at leads
      rwa [none]
    · exact leads.without_point point
  obtain ⟨place', entry, named⟩ : ∃ place entry, t.named path = .ok (place, some entry) := by
    rcases plainly.unfollowed with same | ⟨place', target, link⟩
    · exact ⟨place, .directory, named_eq_ok.2 ⟨checked, same⟩⟩
    · exact ⟨place', .link target, named_eq_ok.2 ⟨checked, link⟩⟩
  have exists' : t.makeDirectory path = .error .exists := by rw [makeDirectory, named]
  rw [makeDirectories, makeDirectoriesFrom, exists']
  simp [here]

/-! ### Writing and moving -/

/-- A file that is new may be read by all. -/
theorem write_free {data : ByteArray} (free : t.find true path = .ok (place, none)) :
    t.write path data = .ok (t.put place (.file 0o644 data)) := by
  obtain ⟨slash, -⟩ := endsInSlash_eq_false free nofun
  rw [write, (find_eq_ok.1 free).1]
  simp [free, slash]

/-- A path that can be written leads somewhere. -/
theorem find_of_write {data : ByteArray} (written : t.write path data = .ok t') :
    ∃ place found, t.find true path = .ok (place, found) := by
  cases found : t.find true path with
  | ok result => exact ⟨result.1, result.2, rfl⟩
  | error e =>
    rw [write] at written
    split at written
    · cases written
    · rw [found] at written
      dsimp only at written
      split at written
      · split at written <;> cases written
      · cases written

/-- What is written where nothing stands, not even a link, is a new file. -/
theorem write_unoccupied {data : ByteArray} (unused : t.occupied path = false)
    (written : t.write path data = .ok t') :
    ∃ place, t.find false path = .ok (place, none) ∧ t' = t.put place (.file 0o644 data) := by
  have vacant : ∀ place entry, t.find false path ≠ .ok (place, some entry) := by
    intro place entry standing
    rw [occupied, standing] at unused
    cases unused
  obtain ⟨place, found', found⟩ := find_of_write written
  obtain ⟨checked, leads⟩ := find_eq_ok.1 found
  rcases leads.unfollowed with same | ⟨place', target, link⟩
  · have free := find_eq_ok.2 ⟨checked, same⟩
    cases found' with
    | some entry => exact absurd free (vacant place entry)
    | none =>
      rw [write_free found] at written
      exact ⟨place, free, (Except.ok.inj written).symm⟩
  · exact absurd (find_eq_ok.2 ⟨checked, link⟩) (vacant place' _)

/-- **What was written is read.** -/
theorem read_of_write {data : ByteArray} (written : t.write path data = .ok t') : t'.read path = .ok data := by
  have reads : ∀ {place mode}, t'.find true path = .ok (place, some (.file mode data)) → t'.read path = .ok data := by
    intro place mode found
    rw [read, stat, found]
  obtain ⟨place, standing, found⟩ := find_of_write written
  obtain ⟨checked, leads⟩ := find_eq_ok.1 found
  cases standing with
  | none =>
    rw [write_free found] at written
    obtain rfl := Except.ok.inj written
    have free := at?_of_find found nofun
    exact reads (find_file (extends_put free _) found (at?_put_self t _ (ne_nil_of_at? free)))
  | some entry =>
    cases entry with
    | directory => simp [write, checked, found] at written
    | link target => simp [write, checked, found] at written
    | file mode old =>
      obtain ⟨slash, -⟩ := endsInSlash_eq_false found nofun
      obtain rfl : t.put place (.file mode data) = t' := by simpa [write, checked, found, slash] using written
      exact reads (find_eq_ok.2 ⟨checked, leads.replaced rfl⟩)

theorem rename_eq_ok {source target : String} {here : Place}
    (standing : t.find false source = .ok (here, some entry)) (led : t.find false target = .ok (there, found))
    (other : found ≠ some .directory) : t.rename source target = .ok ((t.drop here).put there entry) := by
  obtain ⟨slash, -⟩ := endsInSlash_eq_false led other
  rw [rename, standing]
  cases found with
  | none => simp [led, slash]
  | some at' =>
    cases at' with
    | directory => exact absurd rfl other
    | file mode data => simp [led, slash]
    | link target => simp [led, slash]

/-- What was put into a free place is taken away again. -/
theorem remove_put (free : t.find false path = .ok (place, none)) (mode : UInt32) (data : ByteArray) :
    (t.put place (.file mode data)).remove path = .ok t := by
  obtain ⟨slash, plain⟩ := endsInSlash_eq_false free nofun
  have here := at?_of_find free nofun
  have standing := at?_put_self t (.file mode data) (ne_nil_of_at? here)
  obtain ⟨checked, leads⟩ := find_eq_ok.1 (find_file (extends_put here _) free standing)
  rw [plain] at leads
  rw [remove, named_eq_ok.2 ⟨checked, leads⟩]
  simp [slash, drop_put here]

end

end Muster.FileTree
