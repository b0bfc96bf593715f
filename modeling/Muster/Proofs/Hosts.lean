import Muster.Proofs.FileTree
import Muster.Proofs.Transcript
import Muster.Proofs.Words
import Muster.Provider.Linux

/-!
# The managed part of the hosts file

Between two marker lines the hosts file holds the names of the other machines. The markers may stand anywhere in a
file that somebody else has edited, nested, stray or without an end, so which lines are managed is said line by
line (`Unmanaged`), and a scan with one flag keeps exactly the others (`keeps_unmanagedLines`). What is written
scans back to what was kept (`unmanagedLines_editedHosts`), so the entries of one edit leave nothing behind in the
next. On a machine, the file holds the text once the task has succeeded (`readText_of_hosts`).
-/

set_option autoImplicit false

namespace Muster.Linux

variable {lines kept : List String} {line x : String} {managed : Bool} {i : Nat} {entries : List Task.HostEntry}

/-! ### Markers -/

theorem hostsBegin_ne_hostsEnd : hostsBegin ≠ hostsEnd := by decide

theorem trim_hostsBegin : Text.trim hostsBegin = hostsBegin := by decide +kernel

theorem trim_hostsEnd : Text.trim hostsEnd = hostsEnd := by decide +kernel

/-- A marker stands on a line, whatever blanks are around it. -/
def MarksAt (lines : List String) (marker : String) (i : Nat) : Prop := (lines[i]?).map Text.trim = some marker

/-- A line stands behind a begin marker, with no end marker in between. -/
def Inside (lines : List String) (i : Nat) : Prop :=
  ∃ j < i, MarksAt lines hostsBegin j ∧ ∀ k, j < k → k < i → ¬ MarksAt lines hostsEnd k

/-- A line that nobody manages: it is no marker, and stands inside of no block. -/
structure Unmanaged (lines : List String) (i : Nat) : Prop where
  bound : i < lines.length
  notBegin : ¬ MarksAt lines hostsBegin i
  notEnd : ¬ MarksAt lines hostsEnd i
  outside : ¬ Inside lines i

theorem not_inside_zero (lines : List String) : ¬ Inside lines 0 := by
  rintro ⟨j, lt, -⟩
  exact absurd lt (Nat.not_lt_zero j)

/-- A begin marker opens a block for the lines behind it, and an end marker closes one. -/
theorem inside_succ : Inside lines (i + 1) ↔
    MarksAt lines hostsBegin i ∨ (¬ MarksAt lines hostsEnd i ∧ Inside lines i) := by
  constructor
  · rintro ⟨j, lt, opens, open_⟩
    rcases Nat.lt_succ_iff_lt_or_eq.1 lt with before | rfl
    · exact .inr ⟨open_ i before (Nat.lt_succ_self i), j, before, opens,
        fun k after earlier => open_ k after (Nat.lt_succ_of_lt earlier)⟩
    · exact .inl opens
  · rintro (opens | ⟨notEnd, j, lt, opens, open_⟩)
    · exact ⟨i, Nat.lt_succ_self i, opens, fun k after before => by omega⟩
    · refine ⟨j, Nat.lt_succ_of_lt lt, opens, fun k after before => ?_⟩
      rcases Nat.lt_succ_iff_lt_or_eq.1 before with earlier | rfl
      · exact open_ k after earlier
      · exact notEnd

/-! ### What is kept -/

/-- The lines that a scan keeps are those at some places, in their order, and these are the places of the lines
that nobody manages. -/
def Keeps (lines : List String) (start : Nat) (kept : List String) : Prop :=
  ∃ places : List Nat, places.Pairwise (· < ·) ∧ (∀ i, i ∈ places ↔ start ≤ i ∧ Unmanaged lines i) ∧
    kept.map some = places.map (lines[·]?)

theorem Keeps.skip {start : Nat} (later : Keeps lines (start + 1) kept) (managed : ¬ Unmanaged lines start) :
    Keeps lines start kept := by
  obtain ⟨places, ascending, listed, read⟩ := later
  refine ⟨places, ascending, fun i => (listed i).trans ?_, read⟩
  constructor
  · rintro ⟨le, unmanaged⟩
    exact ⟨Nat.le_of_succ_le le, unmanaged⟩
  · rintro ⟨le, unmanaged⟩
    rcases Nat.eq_or_lt_of_le le with rfl | lt
    · exact absurd unmanaged managed
    · exact ⟨lt, unmanaged⟩

theorem Keeps.keep {start : Nat} (later : Keeps lines (start + 1) kept) (unmanaged : Unmanaged lines start)
    (here : lines[start]? = some line) : Keeps lines start (line :: kept) := by
  obtain ⟨places, ascending, listed, read⟩ := later
  refine ⟨start :: places, List.pairwise_cons.2 ⟨fun i member => ((listed i).1 member).1, ascending⟩, ?_, ?_⟩
  · intro i
    rw [List.mem_cons, listed]
    constructor
    · rintro (rfl | ⟨le, other⟩)
      · exact ⟨Nat.le_refl i, unmanaged⟩
      · exact ⟨Nat.le_of_succ_le le, other⟩
    · rintro ⟨le, other⟩
      rcases Nat.eq_or_lt_of_le le with rfl | lt
      · exact .inl rfl
      · exact .inr ⟨lt, other⟩
  · rw [List.map_cons, List.map_cons, here, read]

/-- **A scan keeps what nobody manages**: its flag holds on a line exactly if the line stands inside. -/
theorem keeps_unmanagedLines (before rest : List String)
    (flag : managed = true ↔ Inside (before ++ rest) before.length) :
    Keeps (before ++ rest) before.length (unmanagedLines managed rest) := by
  induction rest generalizing before managed with
  | nil =>
    refine ⟨[], .nil, ?_, rfl⟩
    intro i
    constructor
    · nofun
    · rintro ⟨le, unmanaged⟩
      have := unmanaged.bound
      rw [List.append_nil] at this
      omega
  | cons line rest ih =>
    have whole : before ++ line :: rest = (before ++ [line]) ++ rest := by simp
    have here : (before ++ line :: rest)[before.length]? = some line := by simp
    have marks : ∀ marker, MarksAt (before ++ line :: rest) marker before.length ↔ Text.trim line = marker := by
      intro marker
      rw [MarksAt, here, Option.map_some, Option.some.injEq]
    have later : ∀ {managed}, (managed = true ↔ Inside (before ++ line :: rest) (before.length + 1)) →
        Keeps (before ++ line :: rest) (before.length + 1) (unmanagedLines managed rest) := by
      intro managed flag
      have next : (managed = true ↔ Inside (before ++ [line] ++ rest) (before ++ [line]).length) →
          Keeps (before ++ [line] ++ rest) (before ++ [line]).length (unmanagedLines managed rest) := ih _
      rw [← whole, List.length_append] at next
      exact next flag
    have step : Inside (before ++ line :: rest) (before.length + 1) ↔ _ := inside_succ
    rw [marks, marks] at step
    rw [unmanagedLines]
    split
    · next opens =>
      exact (later (by simp [step, opens])).skip fun unmanaged => unmanaged.notBegin ((marks _).2 opens)
    · next notBegin =>
      split
      · next closes =>
        exact (later (by simp [step, closes, hostsBegin_ne_hostsEnd.symm])).skip
          fun unmanaged => unmanaged.notEnd ((marks _).2 closes)
      · next notEnd =>
        have same : managed = true ↔ Inside (before ++ line :: rest) (before.length + 1) := by
          simp [step, notBegin, notEnd, flag]
        split
        · next inside => exact (later same).skip fun unmanaged => unmanaged.outside (flag.1 inside)
        · next outside =>
          refine (later same).keep ⟨by simp, ?_, ?_, ?_⟩ here
          · exact fun begin => notBegin ((marks _).1 begin)
          · exact fun end_ => notEnd ((marks _).1 end_)
          · exact fun inside => outside (flag.2 inside)

/-- A line that is no marker. -/
def IsPlain (line : String) : Prop := Text.trim line ≠ hostsBegin ∧ Text.trim line ≠ hostsEnd

/-- No line that is kept is a marker, and each was there. -/
theorem of_mem_unmanagedLines (member : line ∈ unmanagedLines managed lines) : IsPlain line ∧ line ∈ lines := by
  induction lines generalizing managed with
  | nil => cases member
  | cons first rest ih =>
    rw [unmanagedLines] at member
    split at member
    · exact ⟨(ih member).1, List.mem_cons_of_mem first (ih member).2⟩
    · next notBegin =>
      split at member
      · exact ⟨(ih member).1, List.mem_cons_of_mem first (ih member).2⟩
      · next notEnd =>
        split at member
        · exact ⟨(ih member).1, List.mem_cons_of_mem first (ih member).2⟩
        · rcases List.mem_cons.1 member with rfl | later
          · exact ⟨⟨notBegin, notEnd⟩, List.mem_cons_self⟩
          · exact ⟨(ih later).1, List.mem_cons_of_mem first (ih later).2⟩

/-- Outside of a block, lines that are no markers are kept. -/
theorem unmanagedLines_plain_append (plain : ∀ line ∈ kept, IsPlain line) (rest : List String) :
    unmanagedLines false (kept ++ rest) = kept ++ unmanagedLines false rest := by
  induction kept with
  | nil => rfl
  | cons line kept ih =>
    obtain ⟨here, later⟩ := List.forall_mem_cons.1 plain
    rw [List.cons_append, unmanagedLines, if_neg here.1, if_neg here.2, if_neg Bool.false_ne_true, ih later]
    rfl

/-- Inside of a block they are not. -/
theorem unmanagedLines_managed_append (plain : ∀ line ∈ lines, IsPlain line) (rest : List String) :
    unmanagedLines true (lines ++ rest) = unmanagedLines true rest := by
  induction lines with
  | nil => rfl
  | cons line lines ih =>
    obtain ⟨here, later⟩ := List.forall_mem_cons.1 plain
    rw [List.cons_append, unmanagedLines, if_neg here.1, if_neg here.2, if_pos rfl, ih later]

/-! ### The text that is written -/

/-- Entries that can be written: no field holds a line feed, and none looks like a marker. -/
structure Writable (entries : List Task.HostEntry) : Prop where
  single : ∀ e ∈ entries, '\n' ∉ e.ip.toList ∧ ∀ name ∈ e.names, '\n' ∉ name.toList
  plain : ∀ e ∈ entries, IsPlain (hostsLine e)

theorem isPlain_of_mem_entries (writable : Writable entries) (member : line ∈ entries.map hostsLine) :
    IsPlain line := by
  obtain ⟨e, listed, rfl⟩ := List.mem_map.1 member
  exact writable.plain e listed

/-- The lines of the text that is written. -/
def writtenLines (x : String) (entries : List Task.HostEntry) : List String :=
  unmanagedLines false (Text.lines x) ++ hostsBegin :: (entries.map hostsLine ++ [hostsEnd])

theorem editedHosts_eq (x : String) (entries : List Task.HostEntry) :
    editedHosts x entries = String.join ((writtenLines x entries).map fun line => line ++ "\n") := by
  simp [editedHosts, writtenLines]

theorem single_hostsLine (writable : Writable entries) {e : Task.HostEntry} (member : e ∈ entries) :
    '\n' ∉ (hostsLine e).toList := by
  obtain ⟨ip, names⟩ := writable.single e member
  have joined : '\n' ∉ (Text.join " " e.names).toList := by
    intro feed
    rcases Text.mem_join feed with space | ⟨name, listed, inName⟩
    · exact absurd space (by decide)
    · exact names name listed inName
  simp [hostsLine, ip, joined]

theorem single_writtenLines (x : String) (writable : Writable entries) :
    ∀ line ∈ writtenLines x entries, '\n' ∉ line.toList := by
  intro line member feed
  rcases List.mem_append.1 member with old | new
  · exact (Text.mem_of_mem_lines (of_mem_unmanagedLines old).2 feed).2 rfl
  · rcases List.mem_cons.1 new with rfl | behind
    · exact absurd feed (by decide)
    · rcases List.mem_append.1 behind with entry | last
      · obtain ⟨e, listed, rfl⟩ := List.mem_map.1 entry
        exact single_hostsLine writable listed feed
      · obtain rfl := List.mem_singleton.1 last
        exact absurd feed (by decide)

/-- **What was written scans back to what was kept.** -/
theorem unmanagedLines_editedHosts (noReturn : '\r' ∉ x.toList) (writable : Writable entries) :
    unmanagedLines false (Text.lines (editedHosts x entries)) = unmanagedLines false (Text.lines x) := by
  have kept : ∀ line ∈ unmanagedLines false (Text.lines x), Text.unreturned line = line := by
    intro line member
    apply Text.unreturned_eq_self
    intro return_
    exact noReturn (Text.mem_of_mem_lines (of_mem_unmanagedLines member).2 return_).1
  have rendered : ∀ line ∈ (entries.map hostsLine).map Text.unreturned, IsPlain line := by
    intro line member
    obtain ⟨entry, listed, rfl⟩ := List.mem_map.1 member
    rw [IsPlain, Text.trim_unreturned]
    exact isPlain_of_mem_entries writable listed
  have opens : Text.trim (Text.unreturned hostsBegin) = hostsBegin := by
    rw [Text.trim_unreturned, trim_hostsBegin]
  have closes : Text.trim (Text.unreturned hostsEnd) = hostsEnd := by
    rw [Text.trim_unreturned, trim_hostsEnd]
  have keptPlain : ∀ line ∈ unmanagedLines false (Text.lines x), IsPlain line :=
    fun line member => (of_mem_unmanagedLines member).1
  rw [editedHosts_eq, Text.lines_closed (single_writtenLines x writable), writtenLines, List.map_append,
    List.map_congr_left kept, List.map_id', unmanagedLines_plain_append keptPlain]
  -- Behind the kept lines the begin marker raises the flag, and the end marker lowers it again.
  rw [List.map_cons, List.map_append, unmanagedLines, if_pos opens, unmanagedLines_managed_append rendered,
    List.map_singleton, unmanagedLines, closes, if_neg hostsBegin_ne_hostsEnd.symm, if_pos rfl]
  exact List.append_nil _

/-! ### Editing the file -/

/-- What a request has written is read. -/
theorem read_of_performWrite {files : FileTree} {path : String} {bytes : ByteArray}
    (done : (files.performWrite path bytes none).1 = .ok ()) :
    (files.performWrite path bytes none).2.read path = .ok bytes := by
  obtain ⟨tree, written⟩ : ∃ tree : FileTree,
      tree.write path bytes = .ok (files.performWrite path bytes none).2 := by
    unfold FileTree.performWrite at done ⊢
    split at done
    next made tree _ =>
      cases made with
      | error e => cases done
      | ok _ =>
        cases written : tree.write path bytes with
        | error e => simp [written] at done
        | ok tree' => exact ⟨tree, by simp [written]⟩
  exact FileTree.read_of_write written

/-- The text that is edited: an empty one, if there is no file yet. -/
def textToEdit : Except FileError String → Except FileError String
  | .error .notFound => .ok ""
  | answer => answer

/-- What the task does: it reads the file, and writes the text edited. -/
def hostsScript (l : Linux) (t : Task.Hosts) : Script (Except ProviderError ReturnData) :=
  .file (.readText (l.hostPath hostsFile)) fun answer =>
    match textToEdit answer with
    | .error e => .done (.error (.io hostsFile e.message))
    | .ok x => .file (.write (l.hostPath hostsFile) (editedHosts x t.entries).toUTF8 none) fun written =>
        .done ((written.mapError fun e => .io hostsFile e.message).map fun _ =>
          .single "hosts.entries" (Text.decimal t.entries.length))

theorem run_hosts (l : Linux) (t : Task.Hosts) : ExceptT.run (l.hosts t) = l.hostsScript t := by
  unfold hosts hostsScript
  refine congrArg (Script.file _) (funext fun answer => ?_)
  cases answer with
  | ok x => exact congrArg (Script.file _) (funext fun written => by cases written <;> rfl)
  | error e =>
    cases e with
    | notFound => exact congrArg (Script.file _) (funext fun written => by cases written <;> rfl)
    | _ => rfl

variable {l : Linux} {t : Task.Hosts} {es : Transcript} {outcome : Except ProviderError ReturnData}

/-- Whatever the files answer: what is written is the text that was read, edited. -/
theorem hosts_yields (yields : (l.hosts t).Yields es outcome) :
    ∃ answer rest, es = .touched (.readText (l.hostPath hostsFile)) answer :: rest ∧
      ∀ x, textToEdit answer = .ok x → ∃ written,
        rest = [.touched (.write (l.hostPath hostsFile) (editedHosts x t.entries).toUTF8 none) written] ∧
        ((∃ data, outcome = .ok data) ↔ ∃ text, written = .ok text) := by
  rw [Procedure.Yields, run_hosts] at yields
  obtain ⟨answer, rest, rfl, goesOn⟩ := Script.yields_file.1 yields
  refine ⟨answer, rest, rfl, fun x found => ?_⟩
  simp only [found] at goesOn
  obtain ⟨written, rfl, rfl⟩ := Script.yields_file_done.1 goesOn
  refine ⟨written, rfl, ?_⟩
  cases written with
  | ok text => exact ⟨fun _ => ⟨text, rfl⟩, fun _ => ⟨_, rfl⟩⟩
  | error e => exact ⟨nofun, nofun⟩

/-- **On a machine, the file then holds the edited text**, once the task has succeeded. -/
theorem readText_of_hosts {now now' : Nat} {h h' : HostState} {x : String} {data : ReturnData}
    (found : textToEdit (h.files.readText (l.hostPath hostsFile)) = .ok x)
    (succeeds : Script.complete now h (ExceptT.run (l.hosts t)) = (.ok data, now', h')) :
    h'.files.readText (l.hostPath hostsFile) = .ok (editedHosts x t.entries) := by
  rw [run_hosts, hostsScript, Script.complete] at succeeds
  simp only [FileTree.perform, found, Script.complete] at succeeds
  obtain ⟨ended, after⟩ := Prod.mk.inj succeeds
  obtain ⟨-, rfl⟩ := Prod.mk.inj after
  have done : (h.files.performWrite (l.hostPath hostsFile) (editedHosts x t.entries).toUTF8 none).1 = .ok () := by
    cases result : (h.files.performWrite (l.hostPath hostsFile) (editedHosts x t.entries).toUTF8 none).1 with
    | ok _ => rfl
    | error e =>
      rw [result] at ended
      cases ended
  rw [FileTree.readText, read_of_performWrite done]
  simp only [Text.fromUTF8?_toUTF8]

/-- Among lines that are no such marker, the marker stands on the one line that is. -/
theorem marksAt_iff {before behind : List String} {marked marker : String} (here : Text.trim marked = marker)
    (others : ∀ line ∈ before ++ behind, Text.trim line ≠ marker) :
    MarksAt (before ++ marked :: behind) marker i ↔ i = before.length := by
  constructor
  · intro marks
    obtain ⟨line, at_, trims⟩ := Option.map_eq_some_iff.1 marks
    rcases Nat.lt_trichotomy i before.length with lt | same | gt
    · rw [List.getElem?_append_left lt] at at_
      exact absurd trims (others line (List.mem_append_left _ (List.mem_of_getElem? at_)))
    · exact same
    · rw [List.getElem?_append_right (Nat.le_of_lt gt), List.getElem?_cons, if_neg (by omega)] at at_
      exact absurd trims (others line (List.mem_append_right _ (List.mem_of_getElem? at_)))
  · rintro rfl
    simp [MarksAt, here]

/-- The lines of the text that is written; nothing is behind the last line feed. -/
theorem splitOn_editedHosts (x : String) (writable : Writable entries) :
    Text.splitOn '\n' (editedHosts x entries) =
      unmanagedLines false (Text.lines x) ++ hostsBegin :: (entries.map hostsLine ++ [hostsEnd, ""]) := by
  rw [editedHosts_eq, Text.splitOn_closed (single_writtenLines x writable)]
  simp [writtenLines]

/-- The begin marker stands behind what was kept, and nowhere else. -/
theorem marksAt_hostsBegin (plain : ∀ line ∈ kept, IsPlain line) (writable : Writable entries) :
    MarksAt (kept ++ hostsBegin :: (entries.map hostsLine ++ [hostsEnd, ""])) hostsBegin i ↔ i = kept.length := by
  apply marksAt_iff trim_hostsBegin
  intro line member
  rcases List.mem_append.1 member with old | behind
  · exact (plain line old).1
  · rcases List.mem_append.1 behind with entry | last
    · exact (isPlain_of_mem_entries writable entry).1
    · rcases List.mem_pair.1 last with rfl | rfl
      · exact trim_hostsEnd ▸ hostsBegin_ne_hostsEnd.symm
      · decide

/-- The end marker stands behind the entries, and nowhere else. -/
theorem marksAt_hostsEnd (plain : ∀ line ∈ kept, IsPlain line) (writable : Writable entries) :
    MarksAt (kept ++ hostsBegin :: (entries.map hostsLine ++ [hostsEnd, ""])) hostsEnd i ↔
      i = kept.length + entries.length + 1 := by
  have whole : kept ++ hostsBegin :: (entries.map hostsLine ++ [hostsEnd, ""]) =
      (kept ++ hostsBegin :: entries.map hostsLine) ++ hostsEnd :: [""] := by
    simp
  rw [whole, marksAt_iff trim_hostsEnd]
  · simp [Nat.add_assoc]
  · intro line member
    rcases List.mem_append.1 member with block | last
    · rcases List.mem_append.1 block with old | new
      · exact (plain line old).2
      · rcases List.mem_cons.1 new with rfl | entry
        · exact trim_hostsBegin ▸ hostsBegin_ne_hostsEnd
        · exact (isPlain_of_mem_entries writable entry).2
    · obtain rfl := List.mem_singleton.1 last
      decide

/-- Entries that were written before leave nothing behind. -/
theorem editedHosts_editedHosts (noReturn : '\r' ∉ x.toList) (writable : Writable entries)
    (others : List Task.HostEntry) : editedHosts (editedHosts x entries) others = editedHosts x others := by
  rw [editedHosts, unmanagedLines_editedHosts noReturn writable]
  rfl

/-- **The managed part of the hosts file is replaced.** Whatever the file holds, the text that is written keeps the
lines that nobody manages, and behind them it has the one begin marker, the entries, and the one end marker.
Writing other entries later leaves no trace of the first. -/
theorem hosts_block_replaced (l : Linux) (x : String) (t t' : Task.Hosts) (noReturn : '\r' ∉ x.toList)
    (writable : Writable t.entries) :
    (∃ kept, Keeps (Text.lines x) 0 kept ∧
      Text.splitOn '\n' (editedHosts x t.entries) =
        kept ++ hostsBegin :: (t.entries.map hostsLine ++ [hostsEnd, ""]) ∧
      (∀ i, MarksAt (Text.splitOn '\n' (editedHosts x t.entries)) hostsBegin i ↔ i = kept.length) ∧
      ∀ i, MarksAt (Text.splitOn '\n' (editedHosts x t.entries)) hostsEnd i ↔
        i = kept.length + t.entries.length + 1) ∧
    editedHosts (editedHosts x t.entries) t'.entries = editedHosts x t'.entries ∧
    (∀ es outcome, (l.hosts t).Yields es outcome →
      ∃ answer rest, es = .touched (.readText (l.hostPath hostsFile)) answer :: rest ∧
        (textToEdit answer = .ok x → ∃ written,
          rest = [.touched (.write (l.hostPath hostsFile) (editedHosts x t.entries).toUTF8 none) written] ∧
          ((∃ data, outcome = .ok data) ↔ ∃ text, written = .ok text))) ∧
    ∀ (h h₁ h₂ h' : HostState) (now now₁ later now₂ now' : Nat) (data data₂ data' : ReturnData),
      textToEdit (h.files.readText (l.hostPath hostsFile)) = .ok x →
      Script.complete now h (ExceptT.run (l.hosts t)) = (.ok data, now₁, h₁) →
      Script.complete later h₁ (ExceptT.run (l.hosts t')) = (.ok data₂, now₂, h₂) →
      Script.complete now h (ExceptT.run (l.hosts t')) = (.ok data', now', h') →
      h₁.files.readText (l.hostPath hostsFile) = .ok (editedHosts x t.entries) ∧
      h₂.files.readText (l.hostPath hostsFile) = .ok (editedHosts x t'.entries) ∧
      h'.files.readText (l.hostPath hostsFile) = .ok (editedHosts x t'.entries) := by
  have plain : ∀ line ∈ unmanagedLines false (Text.lines x), IsPlain line :=
    fun line member => (of_mem_unmanagedLines member).1
  have again := editedHosts_editedHosts noReturn writable t'.entries
  refine ⟨⟨unmanagedLines false (Text.lines x), ?_, splitOn_editedHosts x writable, ?_, ?_⟩, again, ?_, ?_⟩
  · exact keeps_unmanagedLines [] (Text.lines x) ⟨nofun, fun inside => absurd inside (not_inside_zero _)⟩
  · intro i
    rw [splitOn_editedHosts x writable]
    exact marksAt_hostsBegin plain writable
  · intro i
    rw [splitOn_editedHosts x writable]
    exact marksAt_hostsEnd plain writable
  · intro es outcome yields
    obtain ⟨answer, rest, same, goesOn⟩ := hosts_yields yields
    exact ⟨answer, rest, same, goesOn x⟩
  · intro h h₁ h₂ h' now now₁ later now₂ now' data data₂ data' found first second alone
    have edited := readText_of_hosts found first
    have twice := readText_of_hosts (by rw [edited]; rfl) second
    rw [again] at twice
    exact ⟨edited, twice, readText_of_hosts found alone⟩

/-- A hosts file with an end marker that ends nothing and a begin marker that nothing ends. -/
def strayHosts : String := "10.0.0.1 a\n# END fleet managed hosts\n b\n # BEGIN fleet managed hosts \nstale\n"

/-- A machine with such a file. -/
def strayMachine : HostState :=
  ⟨⟨.ofList [("/etc", .directory), ("/etc/hosts", .file 0o644 strayHosts.toUTF8)]⟩, [], []⟩

def rockyMachine : Linux :=
  { platform := ⟨"rocky", "9"⟩, packages := .dnf, retry := ⟨1, 0⟩, commandTimeout := none, root := "/" }

def oneHost : Task.Hosts := ⟨.creating, [⟨"10.0.0.9", ["n1", "n2"]⟩]⟩

def noHosts : Task.Hosts := ⟨.creating, []⟩

/-- It is edited twice, and what was kept are the lines in front of the begin marker. -/
theorem strayMachine_edited_twice :
    let first := Script.complete 0 strayMachine (ExceptT.run (rockyMachine.hosts oneHost))
    let second := Script.complete 0 first.2.2 (ExceptT.run (rockyMachine.hosts noHosts))
    second.1.isOk = true ∧ second.2.2.files.readText (rockyMachine.hostPath hostsFile) =
      .ok "10.0.0.1 a\n b\n# BEGIN fleet managed hosts\n# END fleet managed hosts\n" := by
  intro first second
  have ended : ∀ {r : Except ProviderError ReturnData × Nat × HostState}, r.1.isOk = true →
      ∃ data, r = (.ok data, r.2.1, r.2.2) := by
    rintro ⟨result, now, h⟩ ok
    cases result with
    | ok data => exact ⟨data, rfl⟩
    | error e => cases ok
  have secondOk : second.1.isOk = true := by decide +kernel
  obtain ⟨data, one⟩ := ended (r := first) (by decide +kernel)
  obtain ⟨data₂, two⟩ := ended secondOk
  obtain ⟨data', alone⟩ := ended (r := Script.complete 0 strayMachine (ExceptT.run (rockyMachine.hosts noHosts)))
    (by decide +kernel)
  have writable : Writable oneHost.entries := by
    constructor
    · decide
    · unfold IsPlain
      decide
  have noReturn : '\r' ∉ strayHosts.toList := by decide +kernel
  obtain ⟨-, -, -, onMachine⟩ := hosts_block_replaced rockyMachine strayHosts oneHost noHosts noReturn writable
  obtain ⟨-, twice, -⟩ := onMachine strayMachine _ _ _ 0 _ 0 _ _ _ _ _ (by decide +kernel) one two alone
  have text : editedHosts strayHosts noHosts.entries =
      "10.0.0.1 a\n b\n# BEGIN fleet managed hosts\n# END fleet managed hosts\n" := by decide +kernel
  exact ⟨secondOk, by rw [twice, text]⟩

end Muster.Linux
