import Muster.Host.Machine

/-!
# Transcripts of scripts

A script does one thing after the other and goes on by the answers it gets. Its transcript lists what it
did, each with the answer, and `Script.Yields` says which transcripts there are and which result each of
them ends in. Nothing is said about where answers come from, so what holds of every transcript holds on
every machine, whatever its commands print and however they end. Whoever answers, there is a transcript
(`Script.exists_yields`), and a machine with a rehearsed shell follows one (`Script.complete_yields`).

For a procedure, the transcript of a sequence is cut into those of its parts (`Procedure.yields_bind`),
and each elementary procedure has one lemma that tells all its transcripts.
-/

set_option autoImplicit false

namespace Muster

/-- What a script did, with the answer that it got. -/
inductive Script.Entry where
  | ran (command : String) (limit : Option Nat) (answer : Except ProviderError CommandOutput)
  | paused (ms : Nat)
  | touched (request : FileRequest) (answer : Except FileError String)

/-- What a script did, one entry after the other. -/
abbrev Transcript := List Script.Entry

/-- With the answers of the transcript, the script does what stands in it and ends with that result. -/
inductive Script.Yields {α : Type} : Script α → Transcript → α → Prop where
  | done (a : α) : Yields (.done a) [] a
  | run {command : String} {limit : Option Nat} {next : Except ProviderError CommandOutput → Script α}
      {answer : Except ProviderError CommandOutput} {rest : Transcript} {a : α}
      (goesOn : Yields (next answer) rest a) :
      Yields (.run command limit next) (.ran command limit answer :: rest) a
  | pause {ms : Nat} {next : Unit → Script α} {rest : Transcript} {a : α}
      (goesOn : Yields (next ()) rest a) : Yields (.pause ms next) (.paused ms :: rest) a
  | file {request : FileRequest} {next : Except FileError String → Script α}
      {answer : Except FileError String} {rest : Transcript} {a : α}
      (goesOn : Yields (next answer) rest a) :
      Yields (.file request next) (.touched request answer :: rest) a

namespace Script

variable {α β : Type} {es : Transcript}

/-! ### The transcripts of a script -/

@[simp] theorem yields_done {a b : α} : (done a).Yields es b ↔ es = [] ∧ b = a := by
  constructor
  · rintro ⟨⟩
    exact ⟨rfl, rfl⟩
  · rintro ⟨rfl, rfl⟩
    exact .done b

@[simp] theorem yields_run {command : String} {limit : Option Nat}
    {next : Except ProviderError CommandOutput → Script α} {a : α} :
    (run command limit next).Yields es a ↔
      ∃ answer rest, es = .ran command limit answer :: rest ∧ (next answer).Yields rest a := by
  constructor
  · rintro ⟨⟩
    exact ⟨_, _, rfl, ‹_›⟩
  · rintro ⟨answer, rest, rfl, goesOn⟩
    exact .run goesOn

@[simp] theorem yields_pause {ms : Nat} {next : Unit → Script α} {a : α} :
    (pause ms next).Yields es a ↔ ∃ rest, es = .paused ms :: rest ∧ (next ()).Yields rest a := by
  constructor
  · rintro ⟨⟩
    exact ⟨_, rfl, ‹_›⟩
  · rintro ⟨rest, rfl, goesOn⟩
    exact .pause goesOn

@[simp] theorem yields_file {request : FileRequest} {next : Except FileError String → Script α} {a : α} :
    (file request next).Yields es a ↔
      ∃ answer rest, es = .touched request answer :: rest ∧ (next answer).Yields rest a := by
  constructor
  · rintro ⟨⟩
    exact ⟨_, _, rfl, ‹_›⟩
  · rintro ⟨answer, rest, rfl, goesOn⟩
    exact .file goesOn

/-- A script that goes on with the result of another one does what that one does first. -/
theorem yields_bind {s : Script α} {f : α → Script β} {b : β} :
    (s.bind f).Yields es b ↔
      ∃ a before after, es = before ++ after ∧ s.Yields before a ∧ (f a).Yields after b := by
  induction s generalizing es with
  | done a =>
    simp only [bind, yields_done]
    constructor
    · exact fun yields => ⟨a, [], es, rfl, ⟨rfl, rfl⟩, yields⟩
    · rintro ⟨_, _, after, rfl, ⟨rfl, rfl⟩, yields⟩
      exact yields
  | run command limit next ih =>
    simp only [bind, yields_run, ih]
    constructor
    · rintro ⟨answer, _, rfl, a, before, after, rfl, first, second⟩
      exact ⟨a, _, after, rfl, ⟨answer, before, rfl, first⟩, second⟩
    · rintro ⟨a, _, after, rfl, ⟨answer, before, rfl, first⟩, second⟩
      exact ⟨answer, _, rfl, a, before, after, rfl, first, second⟩
  | pause ms next ih =>
    simp only [bind, yields_pause, ih]
    constructor
    · rintro ⟨_, rfl, a, before, after, rfl, first, second⟩
      exact ⟨a, _, after, rfl, ⟨before, rfl, first⟩, second⟩
    · rintro ⟨a, _, after, rfl, ⟨before, rfl, first⟩, second⟩
      exact ⟨_, rfl, a, before, after, rfl, first, second⟩
  | file request next ih =>
    simp only [bind, yields_file, ih]
    constructor
    · rintro ⟨answer, _, rfl, a, before, after, rfl, first, second⟩
      exact ⟨a, _, after, rfl, ⟨answer, before, rfl, first⟩, second⟩
    · rintro ⟨a, _, after, rfl, ⟨answer, before, rfl, first⟩, second⟩
      exact ⟨answer, _, rfl, a, before, after, rfl, first, second⟩

/-- A script that runs one command and computes its result from the answer. -/
theorem yields_run_done {command : String} {limit : Option Nat}
    {f : Except ProviderError CommandOutput → α} {a : α} :
    (run command limit fun answer => done (f answer)).Yields es a ↔
      ∃ answer, es = [.ran command limit answer] ∧ a = f answer := by
  simp only [yields_run, yields_done]
  refine exists_congr fun answer => ⟨?_, fun ⟨same, result⟩ => ⟨[], same, rfl, result⟩⟩
  rintro ⟨_, same, rfl, result⟩
  exact ⟨same, result⟩

/-- A script that touches files once and computes its result from the answer. -/
theorem yields_file_done {request : FileRequest} {f : Except FileError String → α} {a : α} :
    (file request fun answer => done (f answer)).Yields es a ↔
      ∃ answer, es = [.touched request answer] ∧ a = f answer := by
  simp only [yields_file, yields_done]
  refine exists_congr fun answer => ⟨?_, fun ⟨same, result⟩ => ⟨[], same, rfl, result⟩⟩
  rintro ⟨_, same, rfl, result⟩
  exact ⟨same, result⟩

end Script

/-! ### Whoever answers -/

/-- Somebody who answers what a script asks for, by what it did before: commands and files may behave in any
way. -/
structure Respondent where
  command : Transcript → String → Option Nat → Except ProviderError CommandOutput
  file : Transcript → FileRequest → Except FileError String

/-- Behind what was done before, the answers in a transcript are those of a respondent. -/
def Respondent.Answers (r : Respondent) : (before : Transcript) → Transcript → Prop
  | _, [] => True
  | before, .ran command limit answer :: rest =>
    answer = r.command before command limit ∧ r.Answers (before ++ [.ran command limit answer]) rest
  | before, .paused ms :: rest => r.Answers (before ++ [.paused ms]) rest
  | before, .touched request answer :: rest =>
    answer = r.file before request ∧ r.Answers (before ++ [.touched request answer]) rest

namespace Script

variable {α β : Type} {es : Transcript}

/-- Whoever answers, the script comes to a result. -/
theorem exists_yields (r : Respondent) (s : Script α) (before : Transcript) :
    ∃ es a, s.Yields es a ∧ r.Answers before es := by
  induction s generalizing before with
  | done a => exact ⟨[], a, .done a, trivial⟩
  | run command limit next ih =>
    let answer := r.command before command limit
    obtain ⟨es, a, yields, answers⟩ := ih answer (before ++ [.ran command limit answer])
    exact ⟨_, a, .run yields, rfl, answers⟩
  | pause ms next ih =>
    obtain ⟨es, a, yields, answers⟩ := ih () (before ++ [.paused ms])
    exact ⟨_, a, .pause yields, answers⟩
  | file request next ih =>
    let answer := r.file before request
    obtain ⟨es, a, yields, answers⟩ := ih answer (before ++ [.touched request answer])
    exact ⟨_, a, .file yields, rfl, answers⟩

/-! ### Transcripts on a machine -/

/-- The command of an entry, with the time that it was given. -/
def Entry.command? : Entry → Option (String × Option Nat)
  | .ran command limit _ => some (command, limit)
  | .paused _ => none
  | .touched _ _ => none

/-- A command ended with code 0, or a file was touched without a failure. -/
def Entry.succeeded : Entry → Bool
  | .ran _ _ (.ok output) => output.success
  | .ran _ _ (.error _) => false
  | .paused _ => true
  | .touched _ (.ok _) => true
  | .touched _ (.error _) => false

/-- Starting a command adds it to the log of the machine. -/
theorem log_start (h : HostState) (now : Nat) (command : String) (limit : Option Nat) :
    (h.start now command limit).2.2.log = h.log ++ [⟨now, command, limit⟩] := by
  cases used : (HostState.useRule command h.rules).1 <;> simp [HostState.start, used]

/-- **A machine follows a transcript.** Whatever the rules of a machine are, the script is carried out on
it by some transcript, and the log gets the commands of that transcript. -/
theorem complete_yields (s : Script α) (now : Nat) (h : HostState) :
    ∃ es : Transcript, s.Yields es (s.complete now h).1 ∧
      (s.complete now h).2.2.log.map (fun e => (e.command, e.limit)) =
        h.log.map (fun e => (e.command, e.limit)) ++ es.filterMap Entry.command? := by
  induction s generalizing now h with
  | done a => exact ⟨[], .done a, by simp [complete]⟩
  | run command limit next ih =>
    obtain ⟨es, yields, logged⟩ := ih (h.start now command limit).2.1
      (now + (h.start now command limit).1) (h.start now command limit).2.2
    refine ⟨_, .run yields, ?_⟩
    rw [complete, logged, log_start]
    simp [Entry.command?]
  | pause ms next ih =>
    obtain ⟨es, yields, logged⟩ := ih () (now + ms) h
    exact ⟨_, .pause yields, logged⟩
  | file request next ih =>
    obtain ⟨es, yields, logged⟩ := ih (h.files.perform request).1 now
      { h with files := (h.files.perform request).2 }
    exact ⟨_, .file yields, logged⟩

end Script

/-! ### The transcripts of a procedure -/

namespace Procedure

variable {α β : Type} {es : Transcript}

/-- With the answers of the transcript, the procedure does what stands in it and has that outcome. -/
def Yields (p : Procedure α) (es : Transcript) (outcome : Except ProviderError α) : Prop :=
  Script.Yields (ExceptT.run p) es outcome

@[simp] theorem yields_pure {a : α} {outcome : Except ProviderError α} :
    Yields (pure a) es outcome ↔ es = [] ∧ outcome = .ok a := Script.yields_done

@[simp] theorem yields_fail {e : ProviderError} {outcome : Except ProviderError α} :
    (fail e).Yields es outcome ↔ es = [] ∧ outcome = .error e := Script.yields_done

/-- A sequence ends with the failure of its first part, or does its second part behind the first. -/
theorem yields_bind {p : Procedure α} {f : α → Procedure β} {outcome : Except ProviderError β} :
    Yields (p >>= f) es outcome ↔
      (∃ e, p.Yields es (.error e) ∧ outcome = .error e) ∨
      ∃ a before after, es = before ++ after ∧ p.Yields before (.ok a) ∧ (f a).Yields after outcome := by
  have parts : Yields (p >>= f) es outcome ↔ ∃ result before after, es = before ++ after ∧
      p.Yields before result ∧ Script.Yields (ExceptT.bindCont f result) after outcome :=
    Script.yields_bind
  rw [parts]
  constructor
  · rintro ⟨_ | a, before, after, rfl, first, second⟩
    · obtain ⟨rfl, rfl⟩ := Script.yields_done.1 second
      exact .inl ⟨_, by simpa using first, rfl⟩
    · exact .inr ⟨a, before, after, rfl, first, second⟩
  · rintro (⟨e, failed, rfl⟩ | ⟨a, before, after, rfl, first, second⟩)
    · exact ⟨.error e, es, [], (List.append_nil es).symm, failed, .done _⟩
    · exact ⟨.ok a, before, after, rfl, first, second⟩

theorem yields_pure_bind {a : α} {f : α → Procedure β} {outcome : Except ProviderError β} :
    Yields (pure a >>= f) es outcome ↔ (f a).Yields es outcome := Iff.rfl

/-- A sequence that succeeds does so in both of its parts. -/
theorem yields_bind_ok {p : Procedure α} {f : α → Procedure β} {b : β} :
    Yields (p >>= f) es (.ok b) ↔
      ∃ a before after, es = before ++ after ∧ p.Yields before (.ok a) ∧ (f a).Yields after (.ok b) := by
  simp [yields_bind]

/-- What is computed from the outcome does nothing more. -/
theorem yields_map {p : Procedure α} {f : α → β} {outcome : Except ProviderError β} :
    Yields (p >>= fun a => pure (f a)) es outcome ↔ ∃ result, p.Yields es result ∧ outcome = result.map f := by
  rw [yields_bind]
  constructor
  · rintro (⟨e, failed, rfl⟩ | ⟨a, before, after, rfl, first, second⟩)
    · exact ⟨_, failed, rfl⟩
    · obtain ⟨rfl, rfl⟩ := yields_pure.1 second
      exact ⟨_, by simpa using first, rfl⟩
  · rintro ⟨_ | a, yields, rfl⟩
    · exact .inl ⟨_, yields, rfl⟩
    · exact .inr ⟨a, es, [], (List.append_nil es).symm, yields, yields_pure.2 ⟨rfl, rfl⟩⟩

/-- An outcome that is taken as a value is no failure. -/
@[simp] theorem yields_attempt {p : Procedure α} {outcome : Except ProviderError (Except ProviderError α)} :
    p.attempt.Yields es outcome ↔ ∃ result, p.Yields es result ∧ outcome = .ok result := by
  refine Script.yields_bind.trans ⟨?_, ?_⟩
  · rintro ⟨result, before, _, rfl, yields, ⟨⟩⟩
    exact ⟨result, (List.append_nil before).symm ▸ yields, rfl⟩
  · rintro ⟨result, yields, rfl⟩
    exact ⟨result, es, [], (List.append_nil es).symm, yields, .done _⟩

@[simp] theorem yields_run {command : String} {limit : Option Nat}
    {outcome : Except ProviderError CommandOutput} :
    (run command limit).Yields es outcome ↔ es = [.ran command limit outcome] := by
  refine Script.yields_run_done.trans ⟨?_, fun same => ⟨outcome, same, rfl⟩⟩
  rintro ⟨_, same, rfl⟩
  exact same

/-- A command that has to end with code 0 fails as its runner does, and otherwise as its output tells. -/
@[simp] theorem yields_runChecked {command : String} {limit : Option Nat}
    {outcome : Except ProviderError CommandOutput} :
    (runChecked command limit).Yields es outcome ↔
      ∃ answer, es = [.ran command limit answer] ∧ outcome = answer.bind (·.checked command) := by
  have parts : (runChecked command limit).Yields es outcome ↔
      Script.Yields (.run command limit fun answer => .done (answer.bind (·.checked command))) es outcome := by
    rw [Script.yields_run]
    refine Script.yields_run.trans (exists_congr fun answer => ?_)
    cases answer <;> rfl
  exact parts.trans Script.yields_run_done

/-- It succeeds with what the command left behind, if that ended with code 0. -/
theorem yields_runChecked_ok {command : String} {limit : Option Nat} {output : CommandOutput} :
    (runChecked command limit).Yields es (.ok output) ↔
      es = [.ran command limit (.ok output)] ∧ output.success = true := by
  rw [yields_runChecked]
  constructor
  · rintro ⟨_ | answer, rfl, checked⟩
    · cases checked
    · cases success : answer.success with
      | true =>
        obtain rfl : output = answer := by simpa [Except.bind, CommandOutput.checked, success] using checked
        exact ⟨rfl, success⟩
      | false => simp [Except.bind, CommandOutput.checked, success] at checked
  · rintro ⟨rfl, success⟩
    exact ⟨.ok output, rfl, by simp [Except.bind, CommandOutput.checked, success]⟩

@[simp] theorem yields_runAnyway {command : String} {limit : Option Nat} {outcome : Except ProviderError Unit} :
    (runAnyway command limit).Yields es outcome ↔
      ∃ answer, es = [.ran command limit answer] ∧ outcome = .ok () := Script.yields_run_done

@[simp] theorem yields_pause {ms : Nat} {outcome : Except ProviderError Unit} :
    (pause ms).Yields es outcome ↔ es = [.paused ms] ∧ outcome = .ok () := by
  refine Script.yields_pause.trans ⟨?_, ?_⟩
  · rintro ⟨_, rfl, ⟨⟩⟩
    exact ⟨rfl, rfl⟩
  · rintro ⟨rfl, rfl⟩
    exact ⟨[], rfl, .done _⟩

@[simp] theorem yields_file {path : String} {request : FileRequest} {outcome : Except ProviderError String} :
    (file path request).Yields es outcome ↔
      ∃ answer, es = [.touched request answer] ∧
        outcome = answer.mapError fun e => .io path e.message := by
  have parts : (file path request).Yields es outcome ↔ Script.Yields
      (.file request fun answer => .done (answer.mapError fun e => .io path e.message)) es outcome := by
    rw [Script.yields_file]
    refine Script.yields_file.trans (exists_congr fun answer => ?_)
    cases answer <;> rfl
  exact parts.trans Script.yields_file_done

end Procedure

end Muster
