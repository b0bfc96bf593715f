import Mathlib.Data.List.Forall2
import Muster.Proofs.Transcript
import Muster.Provider.Linux

/-!
# Procedures that take stages

Most tasks run one command after the other, with a file to write in between, and break off where one of
them fails. Such a procedure is known by its stages (`Procedure.Takes`): what it does is a `Course` of them,
the first ones passed in order and at most one more that failed. `Procedure.takes_bind` puts courses
together, so that a procedure is read once for its stages. What can be said of the order of things done is
then said of the stages: an entry that belongs to none of the first stages stands behind all of them, and all
of them were passed (`Course.behind`).
-/

set_option autoImplicit false

namespace Muster

/-- A stage of a procedure. -/
inductive Procedure.Stage where
  /-- A command that has to end with code 0. -/
  | must (command : String)
  /-- A command whose outcome does not matter. -/
  | may (command : String)
  /-- A file that has to be written below a path; a failure calls it by its name. -/
  | write (name path : String)

namespace Procedure.Stage

/-- What is done in a stage. -/
inductive Does : Stage → Script.Entry → Prop where
  | must {command : String} {limit : Option Nat} {answer : Except ProviderError CommandOutput} :
      Does (.must command) (.ran command limit answer)
  | may {command : String} {limit : Option Nat} {answer : Except ProviderError CommandOutput} :
      Does (.may command) (.ran command limit answer)
  | write {name path : String} {data : ByteArray} {mode : Option UInt32} {answer : Except FileError String} :
      Does (.write name path) (.touched (.write path data mode) answer)

/-- What is done in a stage that goes well. -/
inductive Passes : Stage → Script.Entry → Prop where
  | must {command : String} {limit : Option Nat} {output : CommandOutput} (zero : output.code = 0) :
      Passes (.must command) (.ran command limit (.ok output))
  | may {command : String} {limit : Option Nat} {answer : Except ProviderError CommandOutput} :
      Passes (.may command) (.ran command limit answer)
  | write {name path text : String} {data : ByteArray} {mode : Option UInt32} :
      Passes (.write name path) (.touched (.write path data mode) (.ok text))

/-- How a stage fails: a command does not run, as its runner says, or ends with another code, and then tells
what it wrote to its error output, or what it printed if that is blank. -/
inductive Fails : Stage → Script.Entry → ProviderError → Prop where
  | runner {command : String} {limit : Option Nat} {e : ProviderError} :
      Fails (.must command) (.ran command limit (.error e)) e
  | exit {command : String} {limit : Option Nat} {output : CommandOutput} (nonzero : output.code ≠ 0) :
      Fails (.must command) (.ran command limit (.ok output)) (.commandFailed command output.code
        (if Text.trim output.stderr = "" then Text.trim output.stdout else Text.trim output.stderr))
  | write {name path : String} {data : ByteArray} {mode : Option UInt32} {e : FileError} :
      Fails (.write name path) (.touched (.write path data mode) (.error e)) (.io name e.message)

variable {stage : Stage} {entry : Script.Entry} {e : ProviderError}

theorem Passes.does (passes : stage.Passes entry) : stage.Does entry := by
  cases passes <;> constructor

/-- A stage that goes well is a success, unless its outcome does not matter. -/
theorem Passes.succeeded (passes : stage.Passes entry) :
    entry.succeeded = true ∨ ∃ command, stage = .may command := by
  cases passes with
  | must zero => exact .inl (decide_eq_true zero)
  | may => exact .inr ⟨_, rfl⟩
  | write => exact .inl rfl

theorem Fails.does (fails : stage.Fails entry e) : stage.Does entry := by
  cases fails <;> constructor

theorem does_must_iff {command : String} :
    (must command).Does entry ↔ ∃ limit answer, entry = .ran command limit answer := by
  constructor
  · rintro ⟨⟩
    exact ⟨_, _, rfl⟩
  · rintro ⟨limit, answer, rfl⟩
    exact .must

theorem does_may_iff {command : String} :
    (may command).Does entry ↔ ∃ limit answer, entry = .ran command limit answer := by
  constructor
  · rintro ⟨⟩
    exact ⟨_, _, rfl⟩
  · rintro ⟨limit, answer, rfl⟩
    exact .may

theorem does_write_iff {name path : String} :
    (write name path).Does entry ↔ ∃ data mode answer, entry = .touched (.write path data mode) answer := by
  constructor
  · rintro ⟨⟩
    exact ⟨_, _, _, rfl⟩
  · rintro ⟨data, mode, answer, rfl⟩
    exact .write

/-- A stage that goes well does not fail. -/
theorem Passes.not_fails (passes : stage.Passes entry) : ¬ stage.Fails entry e := by
  intro fails
  cases passes with
  | must zero =>
    cases fails with
    | exit nonzero => exact nonzero zero
  | may => cases fails
  | write => cases fails

/-! ### Commands that have to end with code 0 -/

variable {command : String} {limit : Option Nat} {answer : Except ProviderError CommandOutput}
  {output : CommandOutput}

theorem checked_of_ne (nonzero : output.code ≠ 0) :
    output.checked command = .error (.commandFailed command output.code
      (if Text.trim output.stderr = "" then Text.trim output.stdout else Text.trim output.stderr)) := by
  simp [CommandOutput.checked, CommandOutput.success, CommandOutput.diagnostic, nonzero]

theorem checked_of_eq (zero : output.code = 0) : output.checked command = .ok output := by
  simp [CommandOutput.checked, CommandOutput.success, zero]

theorem bind_checked_eq_ok :
    answer.bind (·.checked command) = .ok output ↔ answer = .ok output ∧ output.code = 0 := by
  constructor
  · intro checked
    cases answer with
    | error e => cases checked
    | ok printed =>
      replace checked : printed.checked command = .ok output := checked
      by_cases zero : printed.code = 0
      · rw [checked_of_eq zero] at checked
        obtain rfl := Except.ok.inj checked
        exact ⟨rfl, zero⟩
      · rw [checked_of_ne zero] at checked
        cases checked
  · rintro ⟨rfl, zero⟩
    exact checked_of_eq zero

theorem bind_checked_eq_error :
    answer.bind (·.checked command) = .error e ↔ (must command).Fails (.ran command limit answer) e := by
  constructor
  · intro checked
    cases answer with
    | error cause =>
      obtain rfl := Except.error.inj checked
      exact .runner
    | ok printed =>
      replace checked : printed.checked command = .error e := checked
      by_cases zero : printed.code = 0
      · rw [checked_of_eq zero] at checked
        cases checked
      · rw [checked_of_ne zero] at checked
        obtain rfl := Except.error.inj checked
        exact .exit zero
  · intro fails
    cases fails with
    | runner => rfl
    | exit nonzero => exact checked_of_ne nonzero

/-! ### Stages in a transcript -/

/-- The stage was passed somewhere in a transcript. -/
def PassedIn (stage : Stage) (es : Transcript) : Prop := ∃ entry ∈ es, stage.Passes entry

theorem PassedIn.mono {es es' : Transcript} (passed : stage.PassedIn es) (subset : es ⊆ es') :
    stage.PassedIn es' := by
  obtain ⟨entry, member, passes⟩ := passed
  exact ⟨entry, subset member, passes⟩

/-- Whatever was done where all stages were passed belongs to one of them. -/
theorem exists_passes_of_forall₂ {stages : List Stage} {es : Transcript} (all : List.Forall₂ Passes stages es)
    (member : entry ∈ es) : ∃ stage ∈ stages, stage.Passes entry := by
  induction all with
  | nil => cases member
  | cons passes later ih =>
    rcases List.mem_cons.1 member with rfl | inRest
    · exact ⟨_, List.mem_cons_self, passes⟩
    · obtain ⟨stage, listed, passes⟩ := ih inRest
      exact ⟨stage, List.mem_cons_of_mem _ listed, passes⟩

/-- Where all stages were passed, each of them was. -/
theorem passedIn_of_forall₂ {stages : List Stage} {es : Transcript} (all : List.Forall₂ Passes stages es)
    (listed : stage ∈ stages) : stage.PassedIn es := by
  induction all with
  | nil => cases listed
  | cons passes later ih =>
    rcases List.mem_cons.1 listed with rfl | inRest
    · exact ⟨_, List.mem_cons_self, passes⟩
    · exact (ih inRest).mono (List.subset_cons_self _ _)

end Procedure.Stage

/-- Stages that are passed one after the other: all of them, or some and then one that fails. -/
inductive Procedure.Course : List Stage → Transcript → Option ProviderError → Prop where
  | done : Course [] [] none
  | failed {stage : Stage} {rest : List Stage} {entry : Script.Entry} {e : ProviderError}
      (fails : stage.Fails entry e) : Course (stage :: rest) [entry] (some e)
  | passed {stage : Stage} {rest : List Stage} {entry : Script.Entry} {es : Transcript}
      {failure : Option ProviderError} (passes : stage.Passes entry) (later : Course rest es failure) :
      Course (stage :: rest) (entry :: es) failure

namespace Procedure.Course

variable {stages stages' : List Stage} {es es' before after : Transcript} {entry : Script.Entry}
  {failure : Option ProviderError} {e : ProviderError}

/-- Behind stages that were all passed come those of another course. -/
theorem append (first : Course stages es none) (second : Course stages' es' failure) :
    Course (stages ++ stages') (es ++ es') failure := by
  generalize none_eq : (none : Option ProviderError) = result at first
  induction first with
  | done => exact second
  | failed fails => cases none_eq
  | passed passes later ih => exact .passed passes (ih none_eq)

/-- Behind a stage that failed nothing comes. -/
theorem append_failed (first : Course stages es (some e)) (stages' : List Stage) :
    Course (stages ++ stages') es (some e) := by
  generalize some_eq : some e = result at first ⊢
  induction first with
  | done => cases some_eq
  | failed fails => exact .failed fails
  | passed passes later ih => exact .passed passes (ih some_eq)

/-- Without a failure all stages were passed. -/
theorem none_iff : Course stages es none ↔ List.Forall₂ Stage.Passes stages es := by
  constructor
  · intro course
    generalize none_eq : (none : Option ProviderError) = result at course
    induction course with
    | done => exact .nil
    | failed fails => cases none_eq
    | passed passes later ih => exact .cons passes (ih none_eq)
  · intro all
    induction all with
    | nil => exact .done
    | cons passes later ih => exact .passed passes ih

/-- There is no failure exactly if all stages were passed. -/
theorem failure_eq_none_iff (course : Course stages es failure) :
    failure = none ↔ List.Forall₂ Stage.Passes stages es := by
  constructor
  · rintro rfl
    exact none_iff.1 course
  · intro all
    induction course with
    | done => rfl
    | failed fails =>
      cases all with
      | cons passes rest => exact absurd fails passes.not_fails
    | passed passes later ih =>
      cases all with
      | cons _ rest => exact ih rest

/-- With a failure, the last thing done is that of the stage that failed, and all before were passed. -/
theorem some_iff : Course stages es (some e) ↔ ∃ passed stage rest before entry,
    stages = passed ++ stage :: rest ∧ es = before ++ [entry] ∧ List.Forall₂ Stage.Passes passed before ∧
      stage.Fails entry e := by
  constructor
  · intro course
    generalize some_eq : some e = result at course
    induction course with
    | done => cases some_eq
    | failed fails =>
      cases some_eq
      exact ⟨[], _, _, [], _, rfl, rfl, .nil, fails⟩
    | passed passes later ih =>
      obtain ⟨passed, stage, rest, before, entry, rfl, rfl, all, fails⟩ := ih some_eq
      exact ⟨_ :: passed, stage, rest, _ :: before, entry, rfl, rfl, .cons passes all, fails⟩
  · rintro ⟨passed, stage, rest, before, entry, rfl, rfl, all, fails⟩
    exact (none_iff.2 all).append (.failed fails)

/-- Whatever is done belongs to a stage. -/
theorem exists_stage (course : Course stages es failure) (member : entry ∈ es) :
    ∃ stage ∈ stages, stage.Does entry := by
  induction course with
  | done => cases member
  | failed fails =>
    obtain rfl := List.mem_singleton.1 member
    exact ⟨_, List.mem_cons_self, fails.does⟩
  | passed passes later ih =>
    rcases List.mem_cons.1 member with rfl | inLater
    · exact ⟨_, List.mem_cons_self, passes.does⟩
    · obtain ⟨stage, listed, does⟩ := ih inLater
      exact ⟨stage, List.mem_cons_of_mem _ listed, does⟩

/-- A stage that something comes behind was passed. -/
theorem next {stage : Stage} (course : Course (stage :: stages) (entry :: es) failure) (more : es ≠ []) :
    stage.Passes entry ∧ Course stages es failure := by
  cases course with
  | failed fails => exact absurd rfl more
  | passed passes later => exact ⟨passes, later⟩

/-- **What belongs to none of the first stages stands behind them**, and all of them were passed before it. -/
theorem behind (course : Course (stages ++ stages') (before ++ entry :: after) failure)
    (other : ∀ stage ∈ stages, ¬ stage.Does entry) :
    ∃ front back, before = front ++ back ∧ List.Forall₂ Stage.Passes stages front ∧
      Course stages' (back ++ entry :: after) failure := by
  induction stages generalizing before with
  | nil => exact ⟨[], before, rfl, .nil, course⟩
  | cons stage stages ih =>
    have notThis := other stage List.mem_cons_self
    cases before with
    | nil =>
      -- The entry would be that of the first stage.
      cases course with
      | failed fails => exact absurd fails.does notThis
      | passed passes later => exact absurd passes.does notThis
    | cons first before =>
      have more : before ++ entry :: after ≠ [] := by simp
      obtain ⟨passes, later⟩ := course.next more
      obtain ⟨front, back, rfl, all, onward⟩ := ih later fun s member => other s (List.mem_cons_of_mem _ member)
      exact ⟨first :: front, back, rfl, .cons passes all, onward⟩

/-- Nothing is done behind the last stage. -/
theorem last {stage : Stage} (course : Course [stage] (before ++ entry :: after) failure) :
    before = [] ∧ after = [] ∧ stage.Does entry := by
  have single : ∃ only, before ++ entry :: after = [only] ∧ stage.Does only := by
    generalize before ++ entry :: after = es at course
    cases course with
    | failed fails => exact ⟨_, rfl, fails.does⟩
    | passed passes later =>
      cases later
      exact ⟨_, rfl, passes.does⟩
  obtain ⟨only, same, does⟩ := single
  obtain ⟨rfl, rest⟩ | ⟨_, rfl, none⟩ := List.append_eq_cons_iff.1 same
  · obtain ⟨rfl, rfl⟩ := List.cons.inj rest
    exact ⟨rfl, rfl, does⟩
  · simp at none

end Procedure.Course

/-! ### The stages of a procedure -/

namespace Procedure

variable {α β : Type}

/-- The failure that a procedure ended in, if it did. -/
def failure? : Except ProviderError α → Option ProviderError
  | .ok _ => none
  | .error e => some e

/-- The procedure takes stages one after the other, and fails where one of them does. -/
def Takes (p : Procedure α) (stages : List Stage) : Prop :=
  ∀ es outcome, p.Yields es outcome → Course stages es (failure? outcome)

theorem takes_pure (a : α) : Takes (pure a) [] := by
  intro es outcome yields
  obtain ⟨rfl, rfl⟩ := yields_pure.1 yields
  exact .done

/-- A sequence takes the stages of its parts. -/
theorem takes_bind {p : Procedure α} {f : α → Procedure β} {stages stages' : List Stage} (first : p.Takes stages)
    (second : ∀ a, (f a).Takes stages') : Takes (p >>= f) (stages ++ stages') := by
  intro es outcome yields
  rcases yields_bind.1 yields with ⟨e, failed, rfl⟩ | ⟨a, before, after, rfl, done, onward⟩
  · exact (first es _ failed).append_failed stages'
  · exact (first before _ done).append (second a after outcome onward)

theorem takes_runChecked (command : String) (limit : Option Nat) :
    (runChecked command limit).Takes [.must command] := by
  intro es outcome yields
  obtain ⟨answer, rfl, ended⟩ := yields_runChecked.1 yields
  cases outcome with
  | error e => exact .failed (Stage.bind_checked_eq_error.1 ended.symm)
  | ok output =>
    obtain ⟨rfl, zero⟩ := Stage.bind_checked_eq_ok.1 ended.symm
    exact .passed (.must zero) .done

theorem takes_runAnyway (command : String) (limit : Option Nat) :
    (runAnyway command limit).Takes [.may command] := by
  intro es outcome yields
  obtain ⟨answer, rfl, rfl⟩ := yields_runAnyway.1 yields
  exact .passed .may .done

end Procedure

namespace Linux

open Procedure (Takes Stage)

variable (l : Linux)

theorem takes_sh (command : String) : (l.sh command).Takes [.must command] :=
  Procedure.takes_runChecked command l.commandTimeout

theorem takes_shLenient (command : String) : (l.shLenient command).Takes [.may command] :=
  Procedure.takes_runAnyway command l.commandTimeout

theorem takes_writeFile (path : String) (data : ByteArray) (mode : Option UInt32) :
    (l.writeFile path data mode).Takes [.write path (l.hostPath path)] := by
  intro es outcome yields
  obtain ⟨result, written, rfl⟩ := Procedure.yields_map.1 yields
  obtain ⟨answer, rfl, rfl⟩ := Procedure.yields_file.1 written
  cases answer with
  | error e => exact .failed .write
  | ok text => exact .passed .write .done

end Linux

end Muster
