import Muster.Proofs.FileTree
import Muster.Proofs.Snapshot
import Muster.Proofs.Store

/-!
# A store outlives its process

A store that keeps its records in a file is dropped and opened again at the same path. Nobody who asks it
can tell: the file holds the records after every change, and what is loaded from it is what was there
(`restarts_unseen`). Where the file cannot be written, what it held before is still there.

The path has to be one that can be written (`Writable`): the directory above it can be made, and with
whatever stands at the path taken away the path still leads there, to no directory. A new file comes into
being under a temporary name first, so that name has to be free.
-/

set_option autoImplicit false

namespace Muster.Store

open FileTree (Place)

/-! ### Replacing a file -/

/-- The temporary name of a file that is to be replaced. -/
def temporary (path id : String) : String := Path.withExtension path ("json." ++ id ++ ".tmp")

/-- The tree with the directory above a path made. -/
def prepare (t : FileTree) (path : String) : Except FileError Unit × FileTree :=
  match Path.parent? path with
  | some parent => t.makeDirectories parent
  | none => (.ok (), t)

/-- What is written under a temporary name and moved to its place; the temporary file does not stay. -/
def moveIn (t : FileTree) (fresh path : String) (data : ByteArray) : Except FileError Unit × FileTree :=
  match t.write fresh data with
  | .error e => (.error e, t)
  | .ok t =>
    match t.rename fresh path with
    | .ok t => (.ok (), t)
    | .error e =>
      match t.remove fresh with
      | .ok t => (.error e, t)
      | .error _ => (.error e, t)

section

variable {t made : FileTree} {path fresh : String} {place there : Place} {entry : Option FileEntry}
  {data : ByteArray}

theorem replaceFile_of_error {e : FileError} (prepared : prepare t path = (.error e, made)) :
    replaceFile t fresh path data = (.error e, made) := by
  cases above : Path.parent? path with
  | none =>
    simp only [prepare, above] at prepared
    cases prepared
  | some parent =>
    simp only [prepare, above] at prepared
    simp only [replaceFile, above, prepared]

theorem replaceFile_of_ok (prepared : prepare t path = (.ok (), made)) :
    replaceFile t fresh path data = moveIn made fresh path data := by
  cases above : Path.parent? path with
  | none =>
    simp only [prepare, above] at prepared
    cases prepared
    simp only [replaceFile, above]
    rfl
  | some parent =>
    simp only [prepare, above] at prepared
    simp only [replaceFile, above, prepared]
    rfl

theorem prepare_extends (t : FileTree) (path : String) : t.Extends (prepare t path).2 := by
  rw [prepare]
  split
  · exact t.makeDirectories_extends _
  · exact .refl t

/-- What is written to a free place is moved to where the path leads. -/
theorem moveIn_ok (free : made.find false fresh = .ok (place, none))
    (led : (made.put place (.file 0o644 data)).find false path = .ok (there, entry))
    (other : entry ≠ some .directory) :
    moveIn made fresh path data = (.ok (), made.put there (.file 0o644 data)) := by
  have here := FileTree.at?_of_find free nofun
  have standing := made.at?_put_self (.file 0o644 data) (FileTree.ne_nil_of_at? here)
  have found := FileTree.find_file (FileTree.extends_put here _) free standing
  have moved := FileTree.rename_eq_ok found led other
  rw [FileTree.drop_put here] at moved
  rw [moveIn, FileTree.write_free (FileTree.find_follows free nofun)]
  simp only [moved]

/-- **Where the file is not replaced, nothing is lost.** The tree has the directory above the path made, as
far as that went, and is as it was otherwise. -/
theorem replaceFile_failed {e : FileError} (unused : (prepare t path).2.occupied fresh = false)
    (failed : (replaceFile t fresh path data).1 = .error e) :
    (replaceFile t fresh path data).2 = (prepare t path).2 := by
  obtain ⟨⟨outcome, made⟩, prepared⟩ : ∃ out, prepare t path = out := ⟨_, rfl⟩
  rw [prepared] at unused ⊢
  cases outcome with
  | error e => rw [replaceFile_of_error prepared]
  | ok done =>
    rw [replaceFile_of_ok prepared] at failed ⊢
    cases written : made.write fresh data with
    | error e => simp only [moveIn, written]
    | ok t' =>
      obtain ⟨place, free, rfl⟩ := FileTree.write_unoccupied unused written
      cases moved : (made.put place (.file 0o644 data)).rename fresh path with
      | ok t' =>
        simp only [moveIn, written, moved] at failed
        cases failed
      | error e => simp only [moveIn, written, moved, FileTree.remove_put free]

end

/-! ### Paths that can be written -/

/-- Nothing stands where the path leads, and nothing else is in the way of a new file there: the directory
above is there, and the temporary names are free. -/
structure Clear (base : FileTree) (path : String) (there : Place) (bound : Nat) : Prop where
  directory : ∀ parent, Path.parent? path = some parent → parent.isEmpty = true ∨ base.isDirectory parent = true
  leads : base.find false path = .ok (there, none)
  unused : ∀ n < bound, ∃ place,
    base.find false (temporary path (Identifiers.text n)) = .ok (place, none) ∧ place.path ≠ there.path

/-- The directory above the path can be made, and but for what may stand at the path, which is no directory, the
tree is then this one. -/
def Over (base : FileTree) (path : String) (there : Place) (t : FileTree) : Prop :=
  ∃ made, prepare t path = (.ok (), made) ∧ made.drop there = base ∧ made.at? there ≠ some .directory

/-- A path that can be written, under as many temporary names. -/
def Writable (t : FileTree) (path : String) (bound : Nat) : Prop :=
  ∃ base there, Over base path there t ∧ Clear base path there bound

section

variable {base t made : FileTree} {path : String} {there place : Place} {bound n : Nat} {data : ByteArray}

theorem Clear.free (clear : Clear base path there bound) : base.at? there = none :=
  FileTree.at?_of_find clear.leads nofun

/-- Where the directory above a path is there, nothing has to be made. -/
theorem Clear.prepare_eq (clear : Clear base path there bound) (more : base.Extends t) :
    prepare t path = (.ok (), t) := by
  rw [prepare]
  cases above : Path.parent? path with
  | none => rfl
  | some parent =>
    rcases clear.directory parent above with empty | directory
    · simp only [FileTree.makeDirectories, FileTree.makeDirectoriesFrom, empty, if_true]
    · exact FileTree.makeDirectories_of_isDirectory (FileTree.isDirectory_extends more directory)

/-- **A path that can be written is written**, under a temporary name that is free; it can be read, and it can
be written again. -/
theorem Over.replaceFile_eq (upon : Over base path there t) (clear : Clear base path there bound)
    (small : n < bound) (data : ByteArray) :
    ∃ t', replaceFile t (temporary path (Identifiers.text n)) path data = (.ok (), t') ∧
      t'.read path = .ok data ∧ Over base path there t' := by
  obtain ⟨made, prepared, rfl, closed⟩ := upon
  obtain ⟨place, free, apart⟩ := clear.unused n small
  -- The temporary name is as free with the file as it is without it.
  have vacant : made.at? place = none := by
    rw [← FileTree.at?_drop_of_ne made apart]
    exact FileTree.at?_of_find free nofun
  have free' := FileTree.find_free (made.drop_extends there) free vacant
  have larger : (made.drop there).Extends (made.put place (.file 0o644 data)) :=
    (made.drop_extends there).trans (FileTree.extends_put vacant _)
  have kept : (made.put place (.file 0o644 data)).at? there = made.at? there :=
    FileTree.at?_put_of_ne made _ (Ne.symm apart)
  have led := FileTree.find_extends larger clear.leads fun _ => ⟨kept ▸ closed, fun _ _ => rfl⟩
  rw [Option.none_or, kept] at led
  have replaced : replaceFile t (temporary path (Identifiers.text n)) path data =
      (.ok (), made.put there (.file 0o644 data)) := by
    rw [replaceFile_of_ok prepared]
    exact moveIn_ok free' led closed
  have standing := made.at?_put_self (.file 0o644 data) (FileTree.ne_nil_of_at? clear.free)
  have larger' := made.drop_extends_put there (.file 0o644 data)
  refine ⟨_, replaced, ?_, _, clear.prepare_eq larger', made.drop_put_drop there _, by rw [standing]; exact nofun⟩
  have found := FileTree.find_file larger' (FileTree.find_follows clear.leads nofun) standing
  simp only [FileTree.read, FileTree.stat, found]

end

/-! ### Calls and restarts -/

/-- What may be asked of a store without changing it. -/
inductive Query where
  | operation (id : String)
  | cluster (id : String)
  | machine (id : String)
  | machines

/-- What a store says to a question. -/
inductive Answer where
  | operation (found : Option Operation)
  | cluster (found : Option Cluster)
  | machine (found : Option Machine)
  | machines (all : List Machine)

/-- What happens to a store. -/
inductive Call where
  | change (c : Command)
  | ask (q : Query)
  /-- The store is dropped and opened again at its path. -/
  | restart

/-- What comes of a call, if anybody made it. -/
inductive Response where
  | changed (outcome : Except StoreError Unit)
  | told (answer : Answer)

/-- Whether somebody asked for it. -/
def Call.asked : Call → Bool
  | .restart => false
  | _ => true

/-- What the records say to a question. -/
def answer (r : Records) : Query → Answer
  | .operation id => .operation (r.operations.get? id)
  | .cluster id => .cluster (r.clusters.get? id)
  | .machine id => .machine (r.machines.get? id)
  | .machines => .machines r.allMachines

/-- What a call does where the files are as they are. -/
def perform (path : String) (s : Store) (t : FileTree) : Call → Option Response × Store × FileTree
  | .change c =>
    let (outcome, s, t) := s.exec t c
    (some (.changed outcome), s, t)
  | .ask q => (some (.told (answer s.records q)), s, t)
  | .restart => (none, atPath t path, t)

/-- What calls lead to, one after the other, and what is said to them. -/
def session (path : String) (s : Store) (t : FileTree) : List Call → List Response × Store × FileTree
  | [] => ([], s, t)
  | call :: rest =>
    let (response, s, t) := perform path s t call
    let (later, s, t) := session path s t rest
    (response.toList ++ later, s, t)

/-- What a call does to records that nobody forgets. -/
def respond (r : Records) : Call → Option Response × Records
  | .change (.saveOperation op) => (some (.changed (.ok ())), r.saveOperation op)
  | .change (.saveCluster c) => (some (.changed (.ok ())), r.saveCluster c)
  | .change (.setAgentStatus id status) =>
    match r.setAgentStatus? id status with
    | some r => (some (.changed (.ok ())), r)
    | none => (some (.changed (.error (.unknownMachine id))), r)
  | .ask q => (some (.told (answer r q)), r)
  | .restart => (none, r)

/-- What is said to calls on records that nobody forgets. -/
def responses (r : Records) : List Call → List Response
  | [] => []
  | call :: rest => (respond r call).1.toList ++ responses (respond r call).2 rest

/-- Restarts leave no trace in what is said. -/
theorem responses_filter (r : Records) (calls : List Call) :
    responses r (calls.filter Call.asked) = responses r calls := by
  induction calls generalizing r with
  | nil => rfl
  | cons call rest ih =>
    cases call with
    | restart => exact ih r
    | change c => simp only [List.filter_cons, Call.asked, if_true, responses, ih]
    | ask q => simp only [List.filter_cons, Call.asked, if_true, responses, ih]

/-- What a command does: it is kept, or the machine is not known and nothing is done. -/
theorem exec_cases (s : Store) (t : FileTree) (c : Command) :
    (∃ r, s.exec t c = s.keep t r ∧ respond s.records (.change c) = (some (.changed (.ok ())), r)) ∨
    ∃ id, s.exec t c = (.error (.unknownMachine id), s, t) ∧
      respond s.records (.change c) = (some (.changed (.error (.unknownMachine id))), s.records) := by
  cases c with
  | saveOperation op => exact .inl ⟨_, rfl, rfl⟩
  | saveCluster c => exact .inl ⟨_, rfl, rfl⟩
  | setAgentStatus id status =>
    cases noted : s.records.setAgentStatus? id status with
    | some r => exact .inl ⟨r, by simp only [Store.exec, setAgentStatus, noted], by simp only [respond, noted]⟩
    | none => exact .inr ⟨id, by simp only [Store.exec, setAgentStatus, noted], by simp only [respond, noted]⟩

/-- The file tells the records of the store, and it can be written as many times more. -/
structure Kept (base : FileTree) (path : String) (there : Place) (bound left : Nat) (s : Store) (t : FileTree) :
    Prop where
  place : s.path = some path
  upon : Over base path there t
  loaded : load t path = s.records
  names : s.identifiers.used + left ≤ bound

section

variable {base t : FileTree} {path : String} {there : Place} {bound left : Nat} {s : Store}

/-- The file holds the records of the store. -/
def Holds (t : FileTree) (path : String) (r : Records) : Prop :=
  ∃ text, t.readText path = .ok text ∧ Records.codec.decode text.toUTF8 = .ok r

theorem Holds.load {r : Records} (holds : Holds t path r) : load t path = r := by
  obtain ⟨text, read, decoded⟩ := holds
  rw [Store.load, read]
  simp only [decoded]

/-- New records are kept in the file too. -/
theorem Kept.keep (kept : Kept base path there bound (left + 1) s t) (clear : Clear base path there bound)
    (r : Records) : ∃ s' t', s.keep t r = (.ok (), s', t') ∧ s'.records = r ∧ Holds t' path r ∧
      Kept base path there bound left s' t' := by
  have room := kept.names
  obtain ⟨t', replaced, read, upon⟩ :=
    kept.upon.replaceFile_eq clear (n := s.identifiers.used) (by omega) r.encode
  have holds : Holds t' path r := load_of_read read
  have done : s.keep t r = (.ok (), { s with records := r, identifiers := ⟨s.identifiers.used + 1⟩ }, t') := by
    unfold temporary at replaced
    simp only [Store.keep, kept.place, Identifiers.fresh, replaced]
    rfl
  refine ⟨_, t', done, rfl, holds, kept.place, upon, holds.load, ?_⟩
  show s.identifiers.used + 1 + left ≤ bound
  omega

theorem Kept.fewer (kept : Kept base path there bound (left + 1) s t) : Kept base path there bound left s t :=
  ⟨kept.place, kept.upon, kept.loaded, Nat.le_of_succ_le kept.names⟩

/-- What a change comes to: the answer that records would give which nobody forgets, and the file holds what
has been changed. -/
structure Settles (base : FileTree) (path : String) (there : Place) (bound left : Nat) (s : Store) (t : FileTree)
    (c : Command) (outcome : Except StoreError Unit) (s' : Store) (t' : FileTree) : Prop where
  done : s.exec t c = (outcome, s', t')
  responded : respond s.records (.change c) = (some (.changed outcome), s'.records)
  holds : outcome = .ok () → Holds t' path s'.records
  written : Written outcome
  kept : Kept base path there bound left s' t'

/-- **A change that is made is in the file**; one that is refused leaves everything as it was. -/
theorem Kept.exec (kept : Kept base path there bound (left + 1) s t) (clear : Clear base path there bound)
    (c : Command) : ∃ outcome s' t', Settles base path there bound left s t c outcome s' t' := by
  rcases exec_cases s t c with ⟨r, same, responded⟩ | ⟨id, refused, responded⟩
  · obtain ⟨s', t', done, rfl, holds, kept'⟩ := kept.keep clear r
    have written : Written (.ok ()) := by
      rintro cause ⟨⟩
    exact ⟨.ok (), s', t', same.trans done, responded, fun _ => holds, written, kept'⟩
  · exact ⟨_, s, t, refused, responded, by rintro ⟨⟩, by rintro cause ⟨⟩, kept.fewer⟩

/-- Every call is answered as if nobody ever forgot anything. -/
theorem Kept.perform (kept : Kept base path there bound (left + 1) s t) (clear : Clear base path there bound)
    (call : Call) : ∃ response s' t', perform path s t call = (response, s', t') ∧
      respond s.records call = (response, s'.records) ∧ Kept base path there bound left s' t' := by
  cases call with
  | change c =>
    obtain ⟨outcome, s', t', settles⟩ := kept.exec clear c
    exact ⟨_, s', t', by simp only [Store.perform, settles.done], settles.responded, settles.kept⟩
  | ask q => exact ⟨_, s, t, rfl, rfl, kept.fewer⟩
  | restart =>
    refine ⟨none, atPath t path, t, rfl, ?_, rfl, kept.upon, rfl, ?_⟩
    · exact congrArg (Prod.mk none) kept.loaded.symm
    · have room := kept.names
      show 0 + left ≤ bound
      omega

theorem Kept.session (calls : List Call) (kept : Kept base path there bound (calls.length + left) s t)
    (clear : Clear base path there bound) : ∃ s' t',
      session path s t calls = (responses s.records calls, s', t') ∧ Kept base path there bound left s' t' := by
  induction calls generalizing s t with
  | nil => exact ⟨s, t, rfl, by simpa using kept⟩
  | cons call rest ih =>
    rw [List.length_cons, Nat.succ_add_eq_add_succ, Nat.add_succ] at kept
    obtain ⟨response, s₁, t₁, done, responded, kept₁⟩ := kept.perform clear call
    obtain ⟨s', t', later, kept'⟩ := ih kept₁
    refine ⟨s', t', ?_, kept'⟩
    simp only [Store.session, done, later, responses, responded]

end

/-- A change that is not kept because the file cannot be written leaves the tree as it was, with directories
made at most. -/
theorem exec_io {s : Store} {t : FileTree} {path : String} {c : Command} {cause : FileError}
    (placed : s.path = some path)
    (unused : (prepare t path).2.occupied (temporary path (Identifiers.text s.identifiers.used)) = false)
    (failed : (s.exec t c).1 = .error (.io cause)) : (s.exec t c).2.2 = (prepare t path).2 := by
  have keeping (r : Records) (failed : (s.keep t r).1 = .error (.io cause)) :
      (s.keep t r).2.2 = (prepare t path).2 := by
    have tree : (s.keep t r).2.2 = (replaceFile t (temporary path (Identifiers.text s.identifiers.used)) path
        r.encode).2 := by
      simp only [Store.keep, placed]
      rfl
    have outcome : (s.keep t r).1 = ((replaceFile t (temporary path (Identifiers.text s.identifiers.used)) path
        r.encode).1).mapError .io := by
      simp only [Store.keep, placed]
      rfl
    rw [outcome] at failed
    cases replaced : (replaceFile t (temporary path (Identifiers.text s.identifiers.used)) path r.encode).1 with
    | ok done =>
      rw [replaced] at failed
      cases failed
    | error e => rw [tree, replaceFile_failed unused replaced]
  rcases exec_cases s t c with ⟨r, same, -⟩ | ⟨id, refused, -⟩
  · rw [same] at failed ⊢
    exact keeping r failed
  · rw [refused] at failed
    cases failed

/-- **Nobody who asks a store can tell that it was restarted.** A store keeps its records at a path that can
be written, and is dropped and opened again there any number of times, between any of the calls. Then all that
is said to the calls, be they changes or questions, is what is said without the restarts; no change fails because
of the file, and after every change that is made the file decodes to exactly the records of the
store. Wherever a change is not kept because the file cannot be written, and nothing bears the temporary name,
what could be read at the path before can be read there still, and at most directories have been made. The
last is so because a `FileTree` has no full disk and no missing permission: a write that fails has written
nothing there, and what was written under the temporary name can be removed again. -/
theorem restarts_unseen (t : FileTree) (path : String) (calls : List Call)
    (writable : Writable t path calls.length) :
    (session path (atPath t path) t calls).1
      = (session path (atPath t path) t (calls.filter Call.asked)).1 ∧
    (∀ before c after, calls = before ++ .change c :: after →
      let now := (session path (atPath t path) t before).2
      Written (now.1.exec now.2 c).1 ∧
      ((now.1.exec now.2 c).1 = .ok () → Holds (now.1.exec now.2 c).2.2 path (now.1.exec now.2 c).2.1.records)) ∧
    ∀ (s : Store) (t : FileTree) (path : String) (c : Command) (cause : FileError), s.path = some path →
      (prepare t path).2.occupied (temporary path (Identifiers.text s.identifiers.used)) = false →
      (s.exec t c).1 = .error (.io cause) →
      (∀ data, t.read path = .ok data → (s.exec t c).2.2.read path = .ok data) ∧
        (s.exec t c).2.2 = (prepare t path).2 := by
  obtain ⟨base, there, upon, clear⟩ := writable
  have opened {left : Nat} (few : left ≤ calls.length) :
      Kept base path there calls.length left (atPath t path) t :=
    ⟨rfl, upon, rfl, by show 0 + left ≤ _; omega⟩
  refine ⟨?_, fun before c after split => ?_, fun s t path c cause placed unused failed => ?_⟩
  · have all : Kept base path there calls.length (calls.length + 0) (atPath t path) t := opened (by omega)
    have fewer : Kept base path there calls.length ((calls.filter Call.asked).length + 0) (atPath t path) t :=
      opened (List.length_filter_le _ _)
    obtain ⟨_, _, whole, -⟩ := Kept.session calls all clear
    obtain ⟨_, _, lasting, -⟩ := Kept.session (calls.filter Call.asked) fewer clear
    rw [whole, lasting, responses_filter]
  · have room : before.length + (after.length + 1) ≤ calls.length := by
      simp [split]
    obtain ⟨s', t', ran, kept⟩ := Kept.session before (opened room) clear
    obtain ⟨outcome, s'', t'', settles⟩ := kept.exec clear c
    rw [ran]
    simp only [settles.done]
    exact ⟨settles.written, settles.holds⟩
  · have same := exec_io placed unused failed
    refine ⟨fun data here => ?_, same⟩
    rw [same]
    exact FileTree.read_extends (prepare_extends t path) here

/-! ### A store on a new machine -/

namespace Sample

/-- The directory of the record file is not there yet. -/
def tree : FileTree := FileTree.empty.put ["var"] .directory

/-- A cluster is saved before a restart and asked for behind it. -/
def calls : List Call := [.change (.saveCluster (cluster "a" .running)), .restart, .ask (.cluster "a")]

/-- The tree with the directory made. -/
def made : FileTree := tree.put ["var", "fleet"] .directory

/-- Where the record file is to be. -/
def file : String := "/var/fleet/state.json"

theorem writable : Writable tree file calls.length := by
  refine ⟨made, ["var", "fleet", "state.json"], ⟨made, rfl, by decide, by decide⟩, ?_, rfl, ?_⟩
  · intro parent above
    have known : Path.parent? file = some "/var/fleet" := by decide
    obtain rfl := Option.some.inj (known.symm.trans above)
    exact .inr (by decide)
  · intro n small
    replace small : n < 3 := small
    obtain rfl | rfl | rfl : n = 0 ∨ n = 1 ∨ n = 2 := by omega
    all_goals exact ⟨_, rfl, by decide⟩

/-- A file stands where the directory of the record file should be made. -/
def blocked : FileTree := FileTree.empty.put ["var"] (.file 0o644 ⟨#[1, 2, 3]⟩)

/-- A store that keeps its records below it. -/
def stuck : Store := ⟨.empty, some file, ⟨0⟩⟩

end Sample

open Sample in
/-- The restarts are not noticed, the saved cluster is in the file, and where the file cannot be written all
files are as they were. -/
theorem sample_restarts_unseen :
    (session file (atPath tree file) tree calls).1 =
      (session file (atPath tree file) tree (calls.filter Call.asked)).1 ∧
    Holds ((atPath tree file).saveCluster tree (cluster "a" .running)).2.2 file
      (Records.empty.saveCluster (cluster "a" .running)) ∧
    (stuck.saveCluster blocked (cluster "a" .running)).1 = .error (.io .notDirectory) ∧
    (stuck.saveCluster blocked (cluster "a" .running)).2.2 = blocked := by
  obtain ⟨unseen, changes, failures⟩ := restarts_unseen tree file calls writable
  have failed : (stuck.exec blocked (.saveCluster (cluster "a" .running))).1 = .error (.io .notDirectory) := rfl
  obtain ⟨-, same⟩ := failures stuck blocked file (.saveCluster (cluster "a" .running)) .notDirectory rfl
    rfl failed
  exact ⟨unseen, (changes [] (.saveCluster (cluster "a" .running)) _ rfl).2 rfl, failed, same⟩

end Muster.Store
