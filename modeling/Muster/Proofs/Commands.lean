import Muster.Proofs.Course
import Muster.Proofs.Dict

/-!
# Commands run in order

A task may ask for commands of its own. They are run one after the other, each once, and either the first
that fails ends the task, or every failure is written down and all of them are run (`takes_runCommands`). What
is returned tells of each command under a key of its own: what it printed if it ended with code 0, and how it
failed otherwise (`Tells`, `Filled`). `commands_run_in_order` says so for every list of commands and whatever
becomes of each.
-/

set_option autoImplicit false

namespace Muster

/-! ### The keys of commands -/

namespace Text

theorem decimal_injective {i j : Nat} (same : decimal i = decimal j) : i = j := by
  have digits_eq : digits i = digits j := by simpa [decimal] using congrArg String.toList same
  have read := digitsValue?_digits i
  rw [digits_eq, digitsValue?_digits] at read
  exact (Option.some.inj read).symm

end Text

namespace ReturnKey

/-- The keys under which the command at a position may be told of. -/
def ofCommand (index : Nat) : List String := [commandStdout index, commandError index]

theorem commandStdout_ne_commandError (i j : Nat) : commandStdout i ≠ commandError j := by
  intro same
  have last : (commandStdout i).toList.getLast? = (commandError j).toList.getLast? := by rw [same]
  simp [commandStdout, commandError, List.getLast?_cons, List.getLast?_append] at last

/-- Commands at different positions share no key. -/
theorem index_unique {i j : Nat} {key : String} (first : key ∈ ofCommand i) (second : key ∈ ofCommand j) :
    i = j := by
  simp only [ofCommand, List.mem_cons, List.not_mem_nil, or_false] at first second
  rcases first with rfl | rfl <;> rcases second with same | same
  · rw [commandStdout, commandStdout, String.append_left_inj, String.append_right_inj] at same
    exact Text.decimal_injective same
  · exact absurd same (commandStdout_ne_commandError i j)
  · exact absurd same.symm (commandStdout_ne_commandError j i)
  · rw [commandError, commandError, String.append_left_inj, String.append_right_inj] at same
    exact Text.decimal_injective same

end ReturnKey

namespace Linux

open Procedure (Stage Course)

variable {l : Linux} {es later : Transcript} {entry : Script.Entry} {index i : Nat} {key value : String}
  {result data : ReturnData} {outcome : Except ProviderError ReturnData} {ignoreErrors : Bool}

/-! ### What is told of commands -/

/-- What is told of the command at a position: what it printed, or how it failed. -/
inductive Tells (index : Nat) : Script.Entry → (key value : String) → Prop where
  | stdout {command : String} {limit : Option Nat} {output : CommandOutput} (zero : output.code = 0) :
      Tells index (.ran command limit (.ok output)) (ReturnKey.commandStdout index) (Text.trim output.stdout)
  | error {command : String} {entry : Script.Entry} {e : ProviderError}
      (fails : (Stage.must command).Fails entry e) :
      Tells index entry (ReturnKey.commandError index) e.message

/-- All that is told of commands from a position on, added to what was returned before. -/
inductive Filled : (index : Nat) → Transcript → (before data : ReturnData) → Prop where
  | nil {index : Nat} {data : ReturnData} : Filled index [] data data
  | cons {index : Nat} {entry : Script.Entry} {es : Transcript} {before data : ReturnData} {key value : String}
      (tells : Tells index entry key value) (later : Filled (index + 1) es (before.insert key value) data) :
      Filled index (entry :: es) before data

theorem Tells.mem_ofCommand (tells : Tells index entry key value) : key ∈ ReturnKey.ofCommand index := by
  cases tells <;> simp [ReturnKey.ofCommand]

/-- One thing is told of each command. -/
theorem Tells.unique {key' value' : String} (tells : Tells index entry key value)
    (also : Tells index entry key' value') : key' = key ∧ value' = value := by
  cases tells with
  | stdout zero =>
    cases also with
    | stdout _ => exact ⟨rfl, rfl⟩
    | error fails =>
      cases fails with
      | exit nonzero => exact absurd zero nonzero
  | error fails =>
    cases also with
    | stdout zero =>
      cases fails with
      | exit nonzero => exact absurd zero nonzero
    | error fails' =>
      cases fails with
      | runner =>
        cases fails'
        exact ⟨rfl, rfl⟩
      | exit nonzero =>
        cases fails'
        exact ⟨rfl, rfl⟩

/-- Later commands do not touch what is no key of theirs. -/
theorem Filled.get?_of_not_mem (filled : Filled index es result data)
    (other : ∀ j, index ≤ j → key ∉ ReturnKey.ofCommand j) : data.get? key = result.get? key := by
  induction filled with
  | nil => rfl
  | @cons index entry es before data told value tells later ih =>
    rw [ih fun j le => other j (by omega)]
    apply Dict.get?_insert_of_ne
    rintro rfl
    exact other index (Nat.le_refl index) tells.mem_ofCommand

/-- What is told of a command is there in the end. -/
theorem Filled.get?_of_tells (filled : Filled index es result data) (at_ : es[i]? = some entry)
    (tells : Tells (index + i) entry key value) : data.get? key = some value := by
  induction filled generalizing i with
  | nil => simp at at_
  | @cons index first es before data told text tellsFirst later ih =>
    cases i with
    | zero =>
      obtain rfl : first = entry := by simpa using at_
      obtain ⟨rfl, rfl⟩ := tellsFirst.unique tells
      rw [later.get?_of_not_mem, Dict.get?_insert_self]
      intro j le member
      have := ReturnKey.index_unique tells.mem_ofCommand member
      omega
    | succ i =>
      refine ih (by simpa using at_) ?_
      rwa [Nat.add_assoc, Nat.add_comm 1]

/-- What is there in the end was there before, or is told of a command. -/
theorem Filled.tells_of_get? (filled : Filled index es result data) (found : data.get? key = some value) :
    result.get? key = some value ∨ ∃ i entry, es[i]? = some entry ∧ Tells (index + i) entry key value := by
  induction filled with
  | nil => exact .inl found
  | @cons index first es before data told text tells later ih =>
    rcases ih found with earlier | ⟨i, entry, at_, tellsLater⟩
    · rw [Dict.get?_insert] at earlier
      split at earlier
      · next same =>
        subst same
        obtain rfl := Option.some.inj earlier
        exact .inr ⟨0, first, rfl, tells⟩
      · exact .inl earlier
    · refine .inr ⟨i + 1, entry, at_, ?_⟩
      rwa [Nat.add_comm i, ← Nat.add_assoc]

/-- Something is told of every command. -/
theorem Filled.exists_tells (filled : Filled index es result data) (at_ : es[i]? = some entry) :
    ∃ key value, Tells (index + i) entry key value := by
  induction filled generalizing i with
  | nil => simp at at_
  | @cons index first es before data told text tells later ih =>
    cases i with
    | zero =>
      obtain rfl : first = entry := by simpa using at_
      exact ⟨told, text, tells⟩
    | succ i =>
      rw [Nat.add_comm i, ← Nat.add_assoc]
      exact ih (by simpa using at_)

/-- Each command adds one entry. -/
theorem Filled.size_eq (filled : Filled index es result data)
    (fresh : ∀ j, index ≤ j → ∀ key ∈ ReturnKey.ofCommand j, result.contains key = false) :
    data.size = result.size + es.length := by
  induction filled with
  | nil => rfl
  | @cons index first es before data told text tells later ih =>
    have absent := fresh index (Nat.le_refl index) told tells.mem_ofCommand
    rw [ih, Dict.size_insert_of_not_contains absent, List.length_cons]
    · omega
    · intro j le key member
      have differ : key ≠ told := by
        rintro rfl
        have := ReturnKey.index_unique tells.mem_ofCommand member
        omega
      simp [Dict.contains_insert, differ, fresh j (by omega) key member]

/-! ### Running them -/

/-- The stages of commands: those whose failure is written down may fail. -/
def commandStages (ignoreErrors : Bool) (commands : List String) : List Stage :=
  commands.map (if ignoreErrors then Stage.may else Stage.must)

/-- A command fails as the stage that it belongs to. -/
theorem fails_must {command other : String} {limit : Option Nat} {answer : Except ProviderError CommandOutput}
    {e : ProviderError} (fails : (Stage.must other).Fails (.ran command limit answer) e) :
    (Stage.must command).Fails (.ran command limit answer) e := by
  cases fails with
  | runner => exact .runner
  | exit nonzero => exact .exit nonzero

/-- A command is run, and then either those behind it with what it tells put in, or it failed and that is
the end. -/
theorem runCommands_cons_yields {command : String} {rest : List String} :
    (l.runCommands ignoreErrors result index (command :: rest)).Yields es outcome ↔
      ∃ answer later, es = .ran command l.commandTimeout answer :: later ∧
        ((∃ key value, Tells index (.ran command l.commandTimeout answer) key value ∧
            (ignoreErrors = true ∨ (Stage.must command).Passes (.ran command l.commandTimeout answer)) ∧
            (l.runCommands ignoreErrors (result.insert key value) (index + 1) rest).Yields later outcome) ∨
          ∃ e, ignoreErrors = false ∧ (Stage.must command).Fails (.ran command l.commandTimeout answer) e ∧
            later = [] ∧ outcome = .error e) := by
  rw [runCommands, Procedure.yields_bind]
  constructor
  · rintro (⟨e, failed, -⟩ | ⟨ended, before, later, rfl, tried, onward⟩)
    · obtain ⟨_, -, ⟨⟩⟩ := Procedure.yields_attempt.1 failed
    · obtain ⟨_, tried, ⟨⟩⟩ := Procedure.yields_attempt.1 tried
      obtain ⟨answer, rfl, ends⟩ := Procedure.yields_runChecked.1 tried
      refine ⟨answer, later, rfl, ?_⟩
      cases ended with
      | ok output =>
        obtain ⟨rfl, zero⟩ := Stage.bind_checked_eq_ok.1 ends.symm
        exact .inl ⟨_, _, .stdout zero, .inr (.must zero), onward⟩
      | error e =>
        have fails : (Stage.must command).Fails (.ran command l.commandTimeout answer) e :=
          Stage.bind_checked_eq_error.1 ends.symm
        cases ignoreErrors with
        | true => exact .inl ⟨_, _, .error fails, .inl rfl, onward⟩
        | false =>
          obtain ⟨rfl, rfl⟩ := Procedure.yields_fail.1 onward
          exact .inr ⟨e, rfl, fails, rfl, rfl⟩
  · rintro ⟨answer, later, rfl, cases⟩
    refine .inr ⟨answer.bind (·.checked command), [.ran command l.commandTimeout answer], later, rfl,
      Procedure.yields_attempt.2 ⟨_, Procedure.yields_runChecked.2 ⟨answer, rfl, rfl⟩, rfl⟩, ?_⟩
    rcases cases with ⟨key, value, tells, passes, onward⟩ | ⟨e, strict, fails, rfl, rfl⟩
    · cases tells with
      | stdout zero =>
        rw [Stage.bind_checked_eq_ok.2 ⟨rfl, zero⟩]
        exact onward
      | error fails =>
        -- A failure does not let the next command come, unless it is written down.
        have ended := Stage.bind_checked_eq_error.2 (fails_must fails)
        rcases passes with rfl | passes
        · rw [ended]
          exact onward
        · exact absurd (fails_must fails) passes.not_fails
    · rw [Stage.bind_checked_eq_error.2 fails, strict]
      exact Procedure.yields_fail.2 ⟨rfl, rfl⟩

/-- **Commands are stages**: they are run in order, and where failures are not written down the first that
fails is the last that is run. -/
theorem takes_runCommands (ignoreErrors : Bool) (result : ReturnData) (index : Nat) (commands : List String) :
    (l.runCommands ignoreErrors result index commands).Takes (commandStages ignoreErrors commands) := by
  induction commands generalizing result index with
  | nil => exact Procedure.takes_pure result
  | cons command rest ih =>
    intro es outcome yields
    obtain ⟨answer, later, rfl, ⟨key, value, -, passes, onward⟩ | ⟨e, rfl, fails, rfl, rfl⟩⟩ :=
      runCommands_cons_yields.1 yields
    · have course := ih (result.insert key value) (index + 1) later outcome onward
      rcases passes with rfl | passes
      · exact .passed .may course
      · cases ignoreErrors with
        | true => exact .passed .may course
        | false => exact .passed passes course
    · exact .failed fails

/-- What is returned is what the commands tell. -/
theorem filled_of_runCommands {commands : List String}
    (yields : (l.runCommands ignoreErrors result index commands).Yields es (.ok data)) :
    Filled index es result data := by
  induction commands generalizing result index es with
  | nil =>
    obtain ⟨rfl, same⟩ := Procedure.yields_pure.1 yields
    obtain rfl := Except.ok.inj same
    exact .nil
  | cons command rest ih =>
    obtain ⟨answer, later, rfl, ⟨key, value, tells, -, onward⟩ | ⟨e, -, -, -, failed⟩⟩ :=
      runCommands_cons_yields.1 yields
    · exact .cons tells (ih onward)
    · cases failed

/-- The commands that are run are the first ones, in order and with the time that each may take. -/
theorem commands_of_runCommands {commands : List String}
    (yields : (l.runCommands ignoreErrors result index commands).Yields es outcome) :
    es.map Script.Entry.command? <+: commands.map fun command => some (command, l.commandTimeout) := by
  induction commands generalizing result index es with
  | nil =>
    obtain ⟨rfl, -⟩ := Procedure.yields_pure.1 yields
    exact List.nil_prefix
  | cons command rest ih =>
    obtain ⟨answer, later, rfl, ⟨key, value, -, -, onward⟩ | ⟨e, -, -, rfl, -⟩⟩ := runCommands_cons_yields.1 yields
    · exact List.cons_prefix_cons.2 ⟨rfl, ih onward⟩
    · exact List.cons_prefix_cons.2 ⟨rfl, List.nil_prefix⟩

/-! ### A task of commands -/

/-- Of each command one thing is told, under a key of its own, and nothing else is there. -/
structure TellsOfEach (es : Transcript) (data : ReturnData) : Prop where
  size : data.size = es.length
  key : ∀ i < es.length, ∃! key, key ∈ ReturnKey.ofCommand i ∧ data.contains key = true
  value : ∀ key value, data.get? key = some value ↔ ∃ i entry, es[i]? = some entry ∧ Tells i entry key value

theorem Filled.tellsOfEach (filled : Filled 0 es .empty data) : TellsOfEach es data := by
  have value : ∀ key value, data.get? key = some value ↔
      ∃ i entry, es[i]? = some entry ∧ Tells i entry key value := by
    intro key value
    constructor
    · intro found
      rcases filled.tells_of_get? found with before | ⟨i, entry, at_, tells⟩
      · cases before
      · exact ⟨i, entry, at_, Nat.zero_add i ▸ tells⟩
    · rintro ⟨i, entry, at_, tells⟩
      exact filled.get?_of_tells at_ ((Nat.zero_add i).symm ▸ tells)
  refine ⟨?_, ?_, value⟩
  · rw [filled.size_eq fun _ _ _ _ => rfl]
    exact Nat.zero_add es.length
  · intro i lt
    have at_ : es[i]? = some es[i] := List.getElem?_eq_getElem lt
    obtain ⟨key, text, tells⟩ := filled.exists_tells at_
    rw [Nat.zero_add] at tells
    refine ⟨key, ⟨tells.mem_ofCommand, ?_⟩, ?_⟩
    · rw [Dict.contains, (value key text).2 ⟨i, _, at_, tells⟩]
      rfl
    · rintro other ⟨member, contained⟩
      rw [Dict.contains] at contained
      obtain ⟨text', found⟩ := Option.isSome_iff_exists.1 contained
      obtain ⟨j, entry, atOther, tellsOther⟩ := (value other text').1 found
      obtain rfl := ReturnKey.index_unique member tellsOther.mem_ofCommand
      obtain rfl := Option.some.inj (at_.symm.trans atOther)
      exact (tells.unique tellsOther).1

/-- Commands whose failures are written down are all run. -/
theorem all_run_of_ignoreErrors {commands : List String}
    (yields : (l.runCommands true result index commands).Yields es outcome) :
    es.length = commands.length ∧ ∃ data, outcome = .ok data := by
  have course := takes_runCommands true result index commands es outcome yields
  cases outcome with
  | ok data =>
    have lengths := (Course.none_iff.1 course).length_eq
    rw [commandStages, List.length_map] at lengths
    exact ⟨lengths.symm, data, rfl⟩
  | error e =>
    obtain ⟨passed, stage, rest, before, entry, same, -, -, fails⟩ := Course.some_iff.1 course
    have listed : stage ∈ commandStages true commands := by simp [same]
    obtain ⟨command, -, rfl⟩ := List.mem_map.1 listed
    cases fails

/-- Other commands are run up to the first that fails, and the failure is that of this command. -/
theorem first_failure_of_strict {commands : List String}
    (yields : (l.runCommands false result index commands).Yields es outcome) :
    ((∃ data, outcome = .ok data) ↔ List.Forall₂ Stage.Passes (commands.map .must) es) ∧
      ∀ e, outcome = .error e → ∃ front command rest before entry,
        commands = front ++ command :: rest ∧ es = before ++ [entry] ∧
        List.Forall₂ Stage.Passes (front.map .must) before ∧ (Stage.must command).Fails entry e := by
  have course : Course (commands.map .must) es (Procedure.failure? outcome) :=
    takes_runCommands false result index commands es outcome yields
  constructor
  · rw [← course.failure_eq_none_iff]
    cases outcome with
    | ok data => exact ⟨fun _ => rfl, fun _ => ⟨data, rfl⟩⟩
    | error e => exact ⟨nofun, nofun⟩
  · rintro e rfl
    obtain ⟨passed, stage, rest, before, entry, same, rfl, all, fails⟩ := Course.some_iff.1 course
    obtain ⟨front, remaining, rfl, rfl, behind⟩ := List.map_eq_append_iff.1 same
    obtain ⟨command, others, rfl, rfl, rfl⟩ := List.map_eq_cons_iff.1 behind
    exact ⟨front, command, others, before, entry, rfl, rfl, all, fails⟩

/-- **What a task of commands does and returns.** Whoever answers, it comes to an outcome. Whatever becomes of
the commands, those that are run are the first of the list, in order and each once. If failures are ignored, all
are run, the task succeeds, and of each command one thing is told under a key that no other command has. If
not, the task succeeds exactly if all commands ended with code 0, and tells of each as well; otherwise the first
command that failed is the last that was run, and the error is its own. -/
theorem commands_run_in_order (l : Linux) (t : Task.RunCommand) :
    (∀ r : Respondent, ∃ es outcome, (l.runCommand t).Yields es outcome ∧ r.Answers [] es) ∧
    (∀ i j key, key ∈ ReturnKey.ofCommand i → key ∈ ReturnKey.ofCommand j → i = j) ∧
    ∀ es outcome, (l.runCommand t).Yields es outcome →
      (es.map Script.Entry.command? <+: t.commands.map fun command => some (command, l.commandTimeout)) ∧
      (∀ data, outcome = .ok data → TellsOfEach es data) ∧
      (t.ignoreErrors = true → es.length = t.commands.length ∧ ∃ data, outcome = .ok data) ∧
      (t.ignoreErrors = false →
        ((∃ data, outcome = .ok data) ↔ List.Forall₂ Stage.Passes (t.commands.map .must) es) ∧
        ∀ e, outcome = .error e → ∃ front command rest before entry,
          t.commands = front ++ command :: rest ∧ es = before ++ [entry] ∧
          List.Forall₂ Stage.Passes (front.map .must) before ∧ (Stage.must command).Fails entry e) := by
  refine ⟨fun r => Script.exists_yields r _ [], fun i j key => ReturnKey.index_unique, ?_⟩
  intro es outcome yields
  replace yields : (l.runCommands t.ignoreErrors .empty 0 t.commands).Yields es outcome := yields
  refine ⟨commands_of_runCommands yields, ?_, ?_, ?_⟩
  · rintro data rfl
    exact (filled_of_runCommands yields).tellsOfEach
  · intro ignoring
    rw [ignoring] at yields
    exact all_run_of_ignoreErrors yields
  · intro strict
    rw [strict] at yields
    exact first_failure_of_strict yields

/-- A machine whose commands may take five seconds. -/
def hurried : Linux :=
  { platform := ⟨"ubuntu", "22"⟩, packages := .apt, retry := ⟨1, 0⟩, commandTimeout := some 5000, root := "/" }

/-- A command that prints its word, one that fails, and one that takes too long. -/
def mixedRun : Transcript :=
  [.ran "echo a" (some 5000) (.ok ⟨0, "a\n", ""⟩), .ran "false" (some 5000) (.ok ⟨1, "", " no\n"⟩),
    .ran "sleep 9" (some 5000) (.error (.commandTimeout "sleep 9" 5))]

/-- With failures ignored all three are run and told of; otherwise the second is the last. -/
theorem mixedRun_told :
    (∃ data, (hurried.runCommand ⟨.creating, ["echo a", "false", "sleep 9"], true⟩).Yields mixedRun (.ok data) ∧
      data.size = 3 ∧ data.get? (ReturnKey.commandStdout 0) = some "a" ∧
      data.get? (ReturnKey.commandError 1) = some (ProviderError.commandFailed "false" 1 "no").message ∧
      data.get? (ReturnKey.commandError 2) = some (ProviderError.commandTimeout "sleep 9" 5).message) ∧
    (hurried.runCommand ⟨.creating, ["echo a", "false", "sleep 9"], false⟩).Yields (mixedRun.take 2)
      (.error (.commandFailed "false" 1 "no")) := by
  have letter : Text.trim "a\n" = "a" := by decide
  have refusal : (if Text.trim " no\n" = "" then Text.trim "" else Text.trim " no\n") = "no" := by decide
  have prints : Tells 0 (.ran "echo a" (some 5000) (.ok ⟨0, "a\n", ""⟩)) (ReturnKey.commandStdout 0) "a" := by
    rw [← letter]
    exact .stdout rfl
  have exits : (Stage.must "false").Fails (.ran "false" (some 5000) (.ok ⟨1, "", " no\n"⟩))
      (.commandFailed "false" 1 "no") := by
    rw [← refusal]
    exact .exit (by decide)
  have expires : (Stage.must "sleep 9").Fails
    (.ran "sleep 9" (some 5000) (.error (.commandTimeout "sleep 9" 5))) _ := .runner
  constructor
  · have yields : (hurried.runCommand ⟨.creating, ["echo a", "false", "sleep 9"], true⟩).Yields mixedRun _ :=
      runCommands_cons_yields.2 ⟨_, _, rfl, .inl ⟨_, _, prints, .inl rfl,
        runCommands_cons_yields.2 ⟨_, _, rfl, .inl ⟨_, _, .error exits, .inl rfl,
          runCommands_cons_yields.2 ⟨_, _, rfl, .inl ⟨_, _, .error expires, .inl rfl,
            Procedure.yields_pure.2 ⟨rfl, rfl⟩⟩⟩⟩⟩⟩⟩
    have told := ((commands_run_in_order hurried _).2.2 _ _ yields).2.1 _ rfl
    refine ⟨_, yields, told.size, ?_, ?_, ?_⟩
    · exact (told.value _ _).2 ⟨0, _, rfl, prints⟩
    · exact (told.value _ _).2 ⟨1, _, rfl, .error exits⟩
    · exact (told.value _ _).2 ⟨2, _, rfl, .error expires⟩
  · exact runCommands_cons_yields.2 ⟨_, _, rfl, .inl ⟨_, _, prints, .inr (.must rfl),
      runCommands_cons_yields.2 ⟨_, _, rfl, .inr ⟨_, rfl, exits, rfl, rfl⟩⟩⟩⟩

end Linux

end Muster
