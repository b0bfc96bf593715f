import Mathlib.Data.List.TakeWhile
import Muster.Proofs.JoinCommand

/-!
# Join commands in an output

Starting a cluster prints the commands that others join with, between other lines and laid out over
several lines themselves. `LaidOut` says how a command may be laid out: indented, with blanks of any kind
between its words, and broken at any word behind a backslash that stands alone or at the end of a word. A
reader of lines knows a command by its first line only, and goes on while lines end in a backslash.
`join_commands_read_off` states that it finds the first command of each kind, in normal form, however the
commands are laid out and whatever stands around them. Of outputs of any other shape `sound_parse` says that
only join commands in normal form are found.
-/

set_option autoImplicit false

namespace Muster.Kubeadm

open Text (IsGap)

variable {s t head gap row : List Char} {rows : List (List Char)} {ws : List String} {raw w : String}

/-! ### Layouts -/

/-- Blanks within a line. -/
def IsLineGap (gap : List Char) : Prop := ∀ x ∈ gap, Text.isBlank x = true ∧ x ≠ '\n'

/-- These words, each behind blanks. -/
inductive Spread : List Char → List String → Prop where
  | nil : Spread [] []
  | cons {gap s : List Char} {w : String} {ws : List String} (ne : gap ≠ []) (isGap : IsLineGap gap)
      (arg : IsArgument w) (others : Spread s ws) : Spread (gap ++ (w.toList ++ s)) (w :: ws)

/-- The lines of a command that starts with `head` and goes on with these words: each line is indented,
each but the last ends in a backslash, and each but the first starts with a word. -/
inductive LaidOut : List Char → List String → List (List Char) → Prop where
  | last {head indent s trail : List Char} {ws : List String} (isIndent : IsLineGap indent)
      (spread : Spread s ws) (isTrail : IsLineGap trail) :
      LaidOut head ws [indent ++ (head ++ s) ++ trail]
  | more {head indent s gap trail : List Char} {ws later : List String} {w : String}
      {rows : List (List Char)} (isIndent : IsLineGap indent) (spread : Spread s ws)
      (isGap : IsLineGap gap) (isTrail : IsLineGap trail) (arg : IsArgument w)
      (onward : LaidOut w.toList later rows) :
      LaidOut head (ws ++ w :: later) ((indent ++ (head ++ s) ++ gap ++ ['\\'] ++ trail) :: rows)

/-- What every join command starts with. -/
def joining : List Char := "kubeadm join".toList

/-- A part of an output: a line that starts no join command, or a join command over some lines. -/
inductive Printed where
  | line (text : List Char) (single : '\n' ∉ text)
      (other : Text.startsWith "kubeadm join" (Text.trim (String.ofList text)) = false)
  | command (args : List String) (rows : List (List Char)) (laidOut : LaidOut joining args rows)

namespace Printed

/-- The lines of a part. -/
def lines : Printed → List (List Char)
  | line text _ _ => [text]
  | command _ rows _ => rows

/-- The join command of a part, its words joined by spaces. -/
def command? : Printed → Option String
  | line _ _ _ => none
  | command args _ _ => some (Text.join " " ("kubeadm" :: "join" :: args))

end Printed

/-! ### The words of a laid out command -/

theorem IsLineGap.isGap (isGap : IsLineGap gap) : IsGap gap := fun x member => (isGap x member).1

theorem arguments_gap_append (isGap : IsGap gap) (s : List Char) : arguments (gap ++ s) = arguments s := by
  rw [arguments, Text.wordsOf_gap_append isGap, arguments]

theorem arguments_append_gap (isGap : IsGap gap) (s : List Char) : arguments (s ++ gap) = arguments s := by
  rw [arguments, Text.wordsOf_append_gap isGap, arguments]

theorem arguments_strip (s : List Char) : arguments (Text.strip s) = arguments s := by
  rw [arguments, Text.wordsOf_strip, arguments]

/-- Empty pieces have no words, so nothing is lost if they are not left out first. -/
theorem arguments_eq_pieces (s : List Char) :
    arguments s = ((Text.pieces Text.isBlank s).map fun w =>
      String.ofList (Text.dropTrailing (· == '\\') w)).filter (!·.isEmpty) := by
  rw [arguments, Text.wordsOf]
  induction Text.pieces Text.isBlank s with
  | nil => rfl
  | cons piece others ih =>
    cases piece with
    | nil => simpa [Text.dropTrailing] using ih
    | cons x piece => simp only [List.filter_cons, List.map_cons, List.isEmpty_cons, Bool.not_false, if_true, ih]

/-- A backslash at the end is dropped, alone or behind a word. -/
theorem arguments_append_backslash (s : List Char) : arguments (s ++ ['\\']) = arguments s := by
  obtain ⟨before, last, whole, longer⟩ :=
    Text.pieces_concat s (show Text.isBlank '\\' = false by decide)
  have trimmed : Text.dropTrailing (· == '\\') (last ++ ['\\']) = Text.dropTrailing (· == '\\') last :=
    Text.dropTrailing_concat last rfl
  simp only [arguments_eq_pieces, whole, longer, List.map_append, List.map_cons, trimmed]

theorem Spread.arguments_append (spread : Spread s ws) (head : List Char) :
    arguments (head ++ s) = arguments head ++ ws := by
  induction spread generalizing head with
  | nil => simp
  | @cons gap s w ws ne isGap arg others ih =>
    obtain ⟨x, gap, rfl⟩ := List.exists_cons_of_ne_nil ne
    obtain ⟨⟨blank, -⟩, later⟩ := List.forall_mem_cons.1 isGap
    rw [List.cons_append, Kubeadm.arguments_append _ _ blank, arguments_gap_append (IsLineGap.isGap later), ih,
      arg.arguments_eq]
    rfl

theorem Spread.arguments_row {indent trail : List Char} (spread : Spread s ws) (isIndent : IsLineGap indent)
    (isTrail : IsLineGap trail) (head : List Char) :
    arguments (indent ++ (head ++ s) ++ trail) = arguments head ++ ws := by
  rw [arguments_append_gap isTrail.isGap, arguments_gap_append isIndent.isGap, spread.arguments_append]

/-! ### Where a line ends -/

/-- The last character that is no blank. -/
def lastSolid (s : List Char) : Option Char := (s.filter (!Text.isBlank ·)).getLast?

theorem lastSolid_append (s t : List Char) : lastSolid (s ++ t) = (lastSolid t).or (lastSolid s) := by
  rw [lastSolid, List.filter_append, List.getLast?_append, lastSolid, lastSolid]

theorem lastSolid_gap (isGap : IsGap gap) : lastSolid gap = none := by
  have nothing : gap.filter (!Text.isBlank ·) = [] :=
    List.filter_eq_nil_iff.2 fun x member => by simp [isGap x member]
  rw [lastSolid, nothing]
  rfl

theorem lastSolid_strip (s : List Char) : lastSolid (Text.strip s) = lastSolid s := by
  obtain ⟨before, after, same, gapBefore, gapAfter⟩ := Text.exists_strip s
  conv_rhs => rw [same]
  rw [lastSolid_append, lastSolid_append, lastSolid_gap gapBefore, lastSolid_gap gapAfter]
  simp

/-- A command goes on if its last character that is no blank is a backslash. -/
theorem JoinCommands.continues_iff : JoinCommands.continues raw = true ↔ lastSolid raw.toList = some '\\' := by
  have last : (Text.dropTrailing Text.isBlank raw.toList).getLast? = lastSolid raw.toList := by
    rw [Text.dropTrailing, List.getLast?_reverse, lastSolid, List.getLast?_eq_head?_reverse,
      ← List.filter_reverse, List.head?_filter]
    exact (List.find?_not_eq_head?_dropWhile ..).symm
  simp [JoinCommands.continues, Text.trimEnd, last]

/-- A text that ends in a character that is neither a blank nor a backslash. -/
def Ended (s : List Char) : Prop := ∃ before x, s = before ++ [x] ∧ Text.isBlank x = false ∧ x ≠ '\\'

theorem IsArgument.ended (arg : IsArgument w) : Ended w.toList := by
  obtain ⟨before, x, same⟩ := (List.eq_nil_or_concat' w.toList).resolve_left arg.word.ne_nil
  refine ⟨before, x, same, arg.word.solid x (by simp [same]), fun backslash => arg.closed ?_⟩
  rw [same, backslash, List.getLast?_concat]

theorem Ended.append (ended : Ended t) (s : List Char) : Ended (s ++ t) := by
  obtain ⟨before, x, rfl, solid, other⟩ := ended
  exact ⟨s ++ before, x, (List.append_assoc ..).symm, solid, other⟩

theorem Spread.ended (spread : Spread s ws) (ended : Ended head) : Ended (head ++ s) := by
  induction spread generalizing head with
  | nil => simpa using ended
  | cons ne isGap arg others ih =>
    rw [← List.append_assoc]
    exact (ih arg.ended).append _

theorem Ended.not_blank (ended : Ended s) : ∀ x ∈ s.getLast?, Text.isBlank x = false := by
  obtain ⟨before, x, rfl, solid, -⟩ := ended
  rw [List.getLast?_concat]
  rintro _ ⟨⟩
  exact solid

theorem Ended.lastSolid_eq (ended : Ended s) : ∃ x, lastSolid s = some x ∧ x ≠ '\\' := by
  obtain ⟨before, x, rfl, solid, other⟩ := ended
  refine ⟨x, ?_, other⟩
  simp [lastSolid, solid]

theorem ended_joining : Ended joining := ⟨"kubeadm joi".toList, 'n', by decide, by decide, by decide⟩

/-! ### Where a command begins -/

/-- The text starts with `kubeadm join` behind its leading blanks. -/
def Begins (s : List Char) : Prop := joining <+: Text.dropLeading Text.isBlank s

theorem startsWith_trimStart_iff :
    Text.startsWith "kubeadm join" (Text.trimStart (String.ofList s)) = true ↔ Begins s := by
  unfold Begins joining
  rw [Text.startsWith_iff, Text.toList_trimStart]

/-- Blanks behind a text do not matter, since `kubeadm join` does not end in one. -/
theorem Begins.startsWith_trim (begins : Begins s) :
    Text.startsWith "kubeadm join" (Text.trim (String.ofList s)) = true := by
  rw [Text.startsWith_iff, Text.toList_trim]
  exact Text.prefix_dropTrailing ended_joining.not_blank begins

theorem Begins.append (begins : Begins s) (t : List Char) : Begins (s ++ t) :=
  Text.prefix_dropLeading_append (by decide) begins t

theorem begins_of_joining (isGap : IsGap gap) (starts : joining <+: t) : Begins (gap ++ t) := by
  obtain ⟨others, rfl⟩ := starts
  have first : joining = 'k' :: "ubeadm join".toList := by decide
  rw [Begins, Text.dropLeading, List.dropWhile_append_of_pos isGap, first, List.cons_append,
    List.dropWhile_cons_of_neg (by decide)]
  exact List.prefix_append _ others

/-! ### Gathering the commands -/

namespace JoinCommands

/-- Takes in a command in normal form; of each kind the first one stays. -/
def enter (found : JoinCommands) (command : String) : JoinCommands :=
  if Text.contains "--control-plane" command then
    { found with controlPlane := found.controlPlane.or (some command) }
  else { found with worker := found.worker.or (some command) }

theorem add_eq (found : JoinCommands) (raw : String) : found.add raw = found.enter (normalize raw) := rfl

/-- What came in first stays, and behind it the first of what follows. -/
theorem foldl_enter (found : JoinCommands) (commands : List String) :
    commands.foldl enter found =
      { controlPlane := found.controlPlane.or (commands.find? fun c => Text.contains "--control-plane" c)
        worker := found.worker.or (commands.find? fun c => !Text.contains "--control-plane" c) } := by
  induction commands generalizing found with
  | nil => simp
  | cons command commands ih =>
    rw [List.foldl_cons, ih, enter]
    cases kind : Text.contains "--control-plane" command <;> simp [kind]

/-- The words of a command that waits for its next line. -/
def pending (open_ : Option String) : List String := open_.elim [] fun raw => arguments raw.toList

/-- A line that goes on with a command, or starts one, adds its words to it; where it ends decides whether
the command is complete. -/
theorem gather_row (found : JoinCommands) (open_ : Option String) (row : List Char) (rest : List String)
    (begins : open_ = none → Begins row) :
    ∃ raw, arguments raw.toList = pending open_ ++ arguments row ∧
      (∀ x, lastSolid row = some x → lastSolid raw.toList = some x) ∧
      gather found open_ (String.ofList row :: rest) =
        if continues raw then gather found (some raw) rest else gather (found.add raw) none rest := by
  cases open_ with
  | none =>
    refine ⟨Text.trim (String.ofList row), ?_, ?_, ?_⟩
    · simp [Text.trim, arguments_strip, pending]
    · simp [Text.trim, lastSolid_strip]
    · rw [gather, if_pos (startsWith_trimStart_iff.2 (begins rfl))]
  | some raw =>
    have chars : (raw ++ "\n" ++ String.ofList row).toList = raw.toList ++ '\n' :: row := by simp
    refine ⟨raw ++ "\n" ++ String.ofList row, ?_, fun x last => ?_, rfl⟩
    · rw [chars, arguments_append _ _ (by decide)]
      rfl
    · rw [chars, lastSolid_append, ← List.singleton_append, lastSolid_append, last]
      rfl

/-- The lines of a laid out command are gathered into it. -/
theorem gather_laidOut (laidOut : LaidOut head ws rows) (ended : Ended head) {found : JoinCommands}
    {open_ : Option String} {rest : List String} (begins : open_ = none → joining <+: head) :
    gather found open_ (rows.map String.ofList ++ rest) =
      gather (found.enter (Text.join " " (pending open_ ++ (arguments head ++ ws)))) none rest := by
  induction laidOut generalizing found open_ with
  | @last head indent s trail ws isIndent spread isTrail =>
    obtain ⟨raw, words, ends, goesOn⟩ := gather_row found open_ (indent ++ (head ++ s) ++ trail) rest
      fun fresh => by
        rw [List.append_assoc]
        exact begins_of_joining isIndent.isGap
          ((begins fresh).trans ((List.prefix_append head s).trans (List.prefix_append _ trail)))
    have complete : ¬ continues raw = true := fun continues => by
      obtain ⟨x, last, other⟩ := (spread.ended ended).lastSolid_eq
      have rowEnd : lastSolid raw.toList = some x := ends x (by
        rw [lastSolid_append, lastSolid_gap isTrail.isGap, lastSolid_append, last]
        rfl)
      rw [continues_iff, rowEnd] at continues
      exact other (Option.some.inj continues)
    rw [List.map_singleton, List.singleton_append, goesOn, if_neg complete, add_eq, normalize_eq, words,
      spread.arguments_row isIndent isTrail]
  | @more head indent s gap trail ws later w rows isIndent spread isGap isTrail arg onward ih =>
    obtain ⟨raw, words, ends, goesOn⟩ := gather_row found open_
      (indent ++ (head ++ s) ++ gap ++ ['\\'] ++ trail) (rows.map String.ofList ++ rest) fun fresh => by
        simp only [List.append_assoc]
        exact begins_of_joining isIndent.isGap ((begins fresh).trans (List.prefix_append head _))
    have incomplete : continues raw = true := continues_iff.2 (ends '\\' (by
      rw [lastSolid_append, lastSolid_gap isTrail.isGap, lastSolid_append]
      rfl))
    rw [arguments_append_gap isTrail.isGap, arguments_append_backslash,
      spread.arguments_row isIndent isGap] at words
    have resumed : gather found (some raw) (rows.map String.ofList ++ rest) = _ := ih arg.ended nofun
    rw [List.map_cons, List.cons_append, goesOn, if_pos incomplete, resumed, pending, Option.elim_some, words,
      arg.arguments_eq]
    simp only [List.append_assoc, List.singleton_append]

/-- A line in which no command begins is passed over. -/
theorem gather_other {line : List Char} (other : ¬ Begins line) (found : JoinCommands) (rest : List String) :
    gather found none (String.ofList line :: rest) = gather found none rest := by
  rw [gather, if_neg (startsWith_trimStart_iff.not.2 other)]

end JoinCommands

/-! ### Lines of an output -/

/-- A carriage return at the end of a line is one of the blanks behind its text. -/
theorem exists_trail {body trail text : List Char} (closed : body.getLast? ≠ some '\r')
    (isTrail : IsLineGap trail) (line : body ++ trail = text ∨ body ++ trail = text ++ ['\r']) :
    ∃ trail', IsLineGap trail' ∧ text = body ++ trail' := by
  rcases line with rfl | returned
  · exact ⟨trail, isTrail, rfl⟩
  · rcases List.eq_nil_or_concat' trail with rfl | ⟨before, x, rfl⟩
    · rw [List.append_nil] at returned
      exact absurd (by rw [returned, List.getLast?_concat]) closed
    · rw [← List.append_assoc] at returned
      exact ⟨before, fun y member => isTrail y (List.mem_append_left _ member),
        (List.append_inj_left' returned rfl).symm⟩

/-- The lines of a laid out command are one when they are read, too. -/
theorem LaidOut.closeLines (laidOut : LaidOut head ws rows) (ended : Ended head) (rest : List (List Char)) :
    ∃ rows', LaidOut head ws rows' ∧ Text.closeLines (rows ++ rest) = rows' ++ Text.closeLines rest := by
  induction laidOut with
  | @last head indent s trail ws isIndent spread isTrail =>
    have bodyEnded := (spread.ended ended).append indent
    rcases Text.closeLines_cons (indent ++ (head ++ s) ++ trail) rest with ⟨nothing, -⟩ | ⟨text, line, closed⟩
    · obtain ⟨before, x, same, -⟩ := bodyEnded
      simp [same] at nothing
    · have closedBody : (indent ++ (head ++ s)).getLast? ≠ some '\r' := fun returned =>
        absurd (bodyEnded.not_blank '\r' returned) (by decide)
      obtain ⟨trail', isTrail', rfl⟩ := exists_trail closedBody isTrail line
      exact ⟨_, .last isIndent spread isTrail', closed⟩
  | @more head indent s gap trail ws later w rows isIndent spread isGap isTrail arg onward ih =>
    obtain ⟨rows', laidOut', goesOn⟩ := ih arg.ended
    rcases Text.closeLines_cons (indent ++ (head ++ s) ++ gap ++ ['\\'] ++ trail) (rows ++ rest) with
      ⟨nothing, -⟩ | ⟨text, line, closed⟩
    · simp at nothing
    · obtain ⟨trail', isTrail', rfl⟩ := exists_trail (by simp) isTrail line
      exact ⟨_, .more isIndent spread isGap isTrail' arg laidOut', by
        rw [List.cons_append, closed, goesOn, List.cons_append]⟩

theorem IsArgument.single (arg : IsArgument w) : '\n' ∉ w.toList := fun member =>
  absurd (arg.word.solid _ member) (by decide)

theorem IsLineGap.single (isGap : IsLineGap gap) : '\n' ∉ gap := fun member => (isGap _ member).2 rfl

theorem Spread.single (spread : Spread s ws) : '\n' ∉ s := by
  induction spread with
  | nil => exact List.not_mem_nil
  | cons ne isGap arg others ih => simp [isGap.single, arg.single, ih]

theorem LaidOut.single (laidOut : LaidOut head ws rows) (headSingle : '\n' ∉ head) : ∀ row ∈ rows, '\n' ∉ row := by
  induction laidOut with
  | last isIndent spread isTrail =>
    simp [isIndent.single, headSingle, spread.single, isTrail.single]
  | more isIndent spread isGap isTrail arg onward ih =>
    refine List.forall_mem_cons.2 ⟨?_, ih arg.single⟩
    simp [isIndent.single, headSingle, spread.single, isGap.single, isTrail.single]

theorem Printed.single (part : Printed) : ∀ row ∈ part.lines, '\n' ∉ row := by
  cases part with
  | line text single other => simpa [lines] using single
  | command args rows laidOut => exact laidOut.single (by decide)

theorem arguments_joining : arguments joining = ["kubeadm", "join"] := by decide

namespace JoinCommands

/-- Part by part, the commands of an output are taken in. -/
theorem gather_closeLines (output : List Printed) (found : JoinCommands) :
    gather found none ((Text.closeLines (output.flatMap Printed.lines)).map String.ofList) =
      (output.filterMap Printed.command?).foldl enter found := by
  induction output generalizing found with
  | nil => rfl
  | cons part output ih =>
    rw [List.flatMap_cons]
    cases part with
    | line text single other =>
      have passed : ∀ {text'}, text = text' ∨ text = text' ++ ['\r'] → ¬ Begins text' := fun same begins => by
        have whole : Begins text := by
          rcases same with rfl | rfl
          · exact begins
          · exact begins.append _
        simp [whole.startsWith_trim] at other
      rcases Text.closeLines_cons text (output.flatMap Printed.lines) with ⟨-, closed⟩ | ⟨text', same, closed⟩
      · exact (congrArg (fun ls => gather found none (ls.map String.ofList)) closed).trans (ih found)
      · rw [Printed.lines, List.singleton_append, closed, List.map_cons, gather_other (passed same), ih]
        rfl
    | command args rows laidOut =>
      obtain ⟨rows', laidOut', closed⟩ := laidOut.closeLines ended_joining (output.flatMap Printed.lines)
      rw [Printed.lines, closed, List.map_append, gather_laidOut laidOut' ended_joining fun _ => List.prefix_rfl,
        ih, arguments_joining]
      rfl

/-- **Join commands are read off an output.** Whatever stands around them and however they are laid out,
the first command with `--control-plane` in it and the first one without are found, each with its words
joined by single spaces; a kind that does not occur is not there. -/
theorem join_commands_read_off (output : List Printed) :
    parse (Text.join "\n" ((output.flatMap Printed.lines).map String.ofList)) =
      { controlPlane := (output.filterMap Printed.command?).find? fun c => Text.contains "--control-plane" c
        worker := (output.filterMap Printed.command?).find? fun c => !Text.contains "--control-plane" c } := by
  have single : ∀ l ∈ (output.flatMap Printed.lines).map String.ofList, '\n' ∉ l.toList := by
    intro l member
    obtain ⟨row, inLines, rfl⟩ := List.mem_map.1 member
    obtain ⟨part, -, inPart⟩ := List.mem_flatMap.1 inLines
    simpa using part.single row inPart
  rw [parse, Text.lines_join single, List.map_map, String.toList_comp_ofList, List.map_id, gather_closeLines,
    foldl_enter]
  rfl

/-- A backslash may be glued to a word, and lines may be ended as on other systems. -/
example : parse "ready\r\n  kubeadm join h:1\\ \r\n\tt\n" = ⟨none, some "kubeadm join h:1 t"⟩ := by decide

end JoinCommands

/-! ### What is found in any output -/

/-- A command in normal form that starts with the word `kubeadm`. -/
structure IsJoin (command : String) : Prop where
  normal : NormalForm command
  first : (Text.words command).head? = some "kubeadm"

theorem IsJoin.ne_empty (join : IsJoin w) : w ≠ "" := by
  rintro rfl
  exact absurd join.first (by decide)

theorem words_normalize (raw : String) : Text.words (normalize raw) = arguments raw.toList := by
  rw [normalize_eq, Text.words_join fun w member => (isArgument_of_mem_arguments member).word]

theorem isJoin_normalize (first : (arguments raw.toList).head? = some "kubeadm") : IsJoin (normalize raw) :=
  ⟨normalForm_normalize raw, by rw [words_normalize, first]⟩

theorem Begins.head?_arguments (begins : Begins s) : (arguments s).head? = some "kubeadm" := by
  obtain ⟨others, start⟩ := begins
  have gap : IsGap (s.takeWhile Text.isBlank) := fun x => List.mem_takeWhile_imp
  have parts : s.takeWhile Text.isBlank ++ Text.dropLeading Text.isBlank s = s :=
    List.takeWhile_append_dropWhile
  have first : joining = "kubeadm".toList ++ ' ' :: "join".toList := by decide
  have word : arguments "kubeadm".toList = ["kubeadm"] := by decide
  rw [← parts, ← start, arguments_gap_append gap, first, List.append_assoc, List.cons_append,
    arguments_append _ _ (by decide), word]
  rfl

namespace JoinCommands

/-- All commands that are found are join commands in normal form. -/
structure Sound (found : JoinCommands) : Prop where
  controlPlane : ∀ c, found.controlPlane = some c → IsJoin c
  worker : ∀ c, found.worker = some c → IsJoin c

theorem Sound.enter {found : JoinCommands} (sound : found.Sound) {command : String} (join : IsJoin command) :
    (found.enter command).Sound := by
  have earlier : ∀ {kind : Option String}, (∀ c, kind = some c → IsJoin c) →
      ∀ c, kind.or (some command) = some c → IsJoin c := fun known c same => by
    rcases Option.or_eq_some_iff.1 same with old | ⟨-, new⟩
    · exact known c old
    · exact Option.some.inj new ▸ join
  rw [JoinCommands.enter]
  split
  · exact ⟨earlier sound.controlPlane, sound.worker⟩
  · exact ⟨sound.controlPlane, earlier sound.worker⟩

/-- Line by line, only join commands are found; one that waits for its next line has started already. -/
theorem Sound.gather {found : JoinCommands} (sound : found.Sound) {open_ : Option String}
    (started : ∀ raw, open_ = some raw → (arguments raw.toList).head? = some "kubeadm") (ls : List String) :
    (gather found open_ ls).Sound := by
  induction ls generalizing found open_ with
  | nil =>
    cases open_ with
    | none => exact sound
    | some raw =>
      rw [JoinCommands.gather, add_eq]
      exact sound.enter (isJoin_normalize (started raw rfl))
  | cons l ls ih =>
    obtain ⟨row, rfl⟩ : ∃ row, l = String.ofList row := ⟨l.toList, String.ofList_toList.symm⟩
    by_cases other : open_ = none ∧ ¬ Begins row
    · obtain ⟨rfl, other⟩ := other
      rw [gather_other other]
      exact ih sound nofun
    · have begins : open_ = none → Begins row := fun fresh => by_contra fun differs => other ⟨fresh, differs⟩
      obtain ⟨raw, words, -, goesOn⟩ := gather_row found open_ row ls begins
      have first : (arguments raw.toList).head? = some "kubeadm" := by
        rw [words]
        cases open_ with
        | none => exact (begins rfl).head?_arguments
        | some before => rw [pending, Option.elim_some, List.head?_append, started before rfl, Option.some_or]
      rw [goesOn]
      split
      · exact ih sound fun _ same => Option.some.inj same ▸ first
      · exact ih (sound.enter (isJoin_normalize first)) nofun

/-- Whatever an output holds, what is read off it are join commands. -/
theorem sound_parse (output : String) : (parse output).Sound := by
  have nothing : (JoinCommands.mk none none).Sound := ⟨nofun, nofun⟩
  rw [parse]
  refine nothing.gather ?_ (Text.lines output)
  nofun

end JoinCommands

end Muster.Kubeadm
