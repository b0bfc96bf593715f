import Muster.Proofs.Dict
import Muster.Proofs.JoinOutput
import Muster.Proofs.Transcript
import Muster.Provider.Linux

/-!
# The command that workers join with

Two tasks return it. Starting a control plane reads it off the output of `kubeadm init`, and asks for a
fresh token if there is none; printing a token asks for one right away and may put another endpoint in.
`worker_command_returned` says of both, for all that the commands print, when the command is in normal form
and when it is empty. Starting a control plane does not refuse a blank output, and printing a token puts in
whatever endpoint it is given.
-/

set_option autoImplicit false

namespace Muster.Linux

open Kubeadm (JoinCommands HasEndpoint)

variable {l : Linux} {es : Transcript} {data : ReturnData}

/-! ### Starting a control plane -/

/-- The entry for the workers stays when one for other masters is added. -/
theorem get?_joinWorker (worker attempts : String) (controlPlane : Option String) :
    Dict.get? (match controlPlane with
      | some command => (Dict.ofList [(ReturnKey.joinWorker, worker),
          (ReturnKey.kubeadmAttempts, attempts)]).insert ReturnKey.joinControlPlane command
      | none => Dict.ofList [(ReturnKey.joinWorker, worker), (ReturnKey.kubeadmAttempts, attempts)])
      ReturnKey.joinWorker = some worker := by
  have alone : Dict.get? (Dict.ofList [(ReturnKey.joinWorker, worker), (ReturnKey.kubeadmAttempts, attempts)])
      ReturnKey.joinWorker = some worker := by
    have differ : ReturnKey.joinWorker ≠ ReturnKey.kubeadmAttempts := by decide
    rw [Dict.ofList, List.foldl_cons, List.foldl_cons, List.foldl_nil, Dict.get?_insert_of_ne differ,
      Dict.get?_insert_self]
  cases controlPlane with
  | none => exact alone
  | some command => rw [Dict.get?_insert_of_ne (by decide), alone]

/-- The command that is returned stands in the output of `kubeadm init`, or was printed at the end. -/
theorem kubeadmInit_yields {t : Task.KubeadmInit} (yields : (l.kubeadmInit t).Yields es (.ok data)) :
    ∃ command, data.get? ReturnKey.joinWorker = some command ∧
      ((∃ output granted, (JoinCommands.parse output).worker = some command ∧
          es.getLast? = some (.ran adminAccess l.commandTimeout granted)) ∨
        ∃ printed, es.getLast? = some (.ran printJoinCommand l.commandTimeout (.ok printed)) ∧
          command = Kubeadm.normalize printed.stdout) := by
  rw [kubeadmInit] at yields
  obtain ⟨-, written, _, rfl, -, onward⟩ := Procedure.yields_bind_ok.1 yields
  obtain ⟨⟨output, attempts⟩, started, _, rfl, -, later⟩ := Procedure.yields_bind_ok.1 onward
  obtain ⟨granted, _, _, rfl, access, ending⟩ := Procedure.yields_bind_ok.1 later
  obtain ⟨rfl, -⟩ := Procedure.yields_runChecked_ok.1 access
  cases found : (JoinCommands.parse output.stdout).worker with
  | some command =>
    simp only [found, Procedure.yields_pure_bind, Procedure.yields_pure] at ending
    obtain ⟨rfl, returned⟩ := ending
    refine ⟨command, ?_, .inl ⟨output.stdout, .ok granted, found, by simp⟩⟩
    rw [Except.ok.inj returned]
    exact get?_joinWorker _ _ (JoinCommands.parse output.stdout).controlPlane
  | none =>
    simp only [found] at ending
    obtain ⟨printed, _, _, rfl, token, last⟩ := Procedure.yields_bind_ok.1 ending
    obtain ⟨rfl, -⟩ := Procedure.yields_runChecked_ok.1 token
    obtain ⟨rfl, returned⟩ := Procedure.yields_pure.1 last
    refine ⟨Kubeadm.normalize printed.stdout, ?_, .inr ⟨printed, by simp, rfl⟩⟩
    rw [Except.ok.inj returned]
    exact get?_joinWorker _ _ (JoinCommands.parse output.stdout).controlPlane

/-! ### Printing a token -/

/-- The command that is returned is the printed one, which is not empty, with the endpoint put in. -/
theorem printJoinToken_yields {t : Task.PrintJoinToken} (yields : (l.printJoinToken t).Yields es (.ok data)) :
    ∃ command printed, es = [.ran command l.commandTimeout (.ok printed)] ∧
      Kubeadm.normalize printed.stdout ≠ "" ∧
      data.get? ReturnKey.joinWorker = some (t.localEndpoint.elim (Kubeadm.normalize printed.stdout)
        (Kubeadm.rewriteEndpoint (Kubeadm.normalize printed.stdout))) := by
  rw [printJoinToken] at yields
  obtain ⟨printed, _, _, rfl, token, ending⟩ := Procedure.yields_bind_ok.1 yields
  obtain ⟨rfl, -⟩ := Procedure.yields_runChecked_ok.1 token
  dsimp only at ending
  split at ending
  · simp at ending
  · next printedSome =>
    obtain ⟨rfl, returned⟩ := Procedure.yields_pure.1 ending
    refine ⟨_, printed, rfl, by simpa using printedSome, ?_⟩
    rw [Except.ok.inj returned, Dict.get?_single_self]
    cases t.localEndpoint <;> simp only [Option.elim_none, Option.elim_some]

/-! ### The main result -/

/-- **The command that workers join with, as it is returned.** Whatever was printed, starting a control plane
returns a command in normal form; it is empty if and only if nothing but blanks and backslashes was printed by
the command at the end that had to print one. Printing a token never returns an empty command, and one in
normal form if and only if the endpoint that is put in is in normal form and not empty. -/
theorem worker_command_returned (l : Linux) (es : Transcript) (data : ReturnData) :
    (∀ t : Task.KubeadmInit, (l.kubeadmInit t).Yields es (.ok data) →
      ∃ command, data.get? ReturnKey.joinWorker = some command ∧ Kubeadm.normalize command = command ∧
        (command = "" ↔ ∃ printed,
          es.getLast? = some (.ran printJoinCommand l.commandTimeout (.ok printed)) ∧
          Kubeadm.normalize printed.stdout = "")) ∧
    ∀ t : Task.PrintJoinToken, (l.printJoinToken t).Yields es (.ok data) →
      ∃ command printed worker, es = [.ran command l.commandTimeout (.ok printed)] ∧
        data.get? ReturnKey.joinWorker = some worker ∧ worker ≠ "" ∧
        (Kubeadm.normalize worker = worker ↔ ∀ e, t.localEndpoint = some e →
          HasEndpoint (Kubeadm.normalize printed.stdout) → e ≠ "" ∧ Kubeadm.normalize e = e) := by
  constructor
  · intro t yields
    obtain ⟨command, value, ⟨output, granted, found, last⟩ | ⟨printed, last, rfl⟩⟩ := kubeadmInit_yields yields
    · have join := (JoinCommands.sound_parse output).worker command found
      refine ⟨command, value, join.normal.normalize_eq, fun empty => absurd empty join.ne_empty, ?_⟩
      rintro ⟨printed, other, -⟩
      rw [last] at other
      have same := (Script.Entry.ran.inj (Option.some.inj other)).1
      exact absurd same (by decide)
    · refine ⟨_, value, Kubeadm.normalize_normalize _, fun empty => ⟨printed, last, empty⟩, ?_⟩
      rintro ⟨printed', last', empty⟩
      rw [last] at last'
      have same := Except.ok.inj (Script.Entry.ran.inj (Option.some.inj last')).2.2
      rwa [same]
  · intro t yields
    obtain ⟨command, printed, rfl, ne, value⟩ := printJoinToken_yields yields
    have normal := Kubeadm.normalForm_normalize printed.stdout
    refine ⟨command, printed, _, rfl, value, ?_⟩
    cases t.localEndpoint with
    | none => simp [ne, Kubeadm.normalize_normalize]
    | some e =>
      rw [Option.elim_some]
      refine ⟨Kubeadm.rewriteEndpoint_ne_empty normal ne, ?_⟩
      simpa using Kubeadm.normalize_rewriteEndpoint_iff normal

/-! ### Blank answers -/

/-- A machine that tries once. -/
def plain : Linux :=
  { platform := ⟨"ubuntu", "22"⟩, packages := .apt, retry := ⟨1, 0⟩, commandTimeout := none, root := "/" }

/-- What happens if all commands succeed and none of them prints anything. -/
def silently : Transcript :=
  [.touched (.write (plain.hostPath kubeadmInitConfig) .empty (some 0o600)) (.ok ""),
    .ran ("kubeadm init --config " ++ plain.hostPath kubeadmInitConfig ++ " --upload-certs") none (.ok ⟨0, "", ""⟩),
    .ran adminAccess none (.ok ⟨0, "", ""⟩), .ran printJoinCommand none (.ok ⟨0, "", ""⟩)]

theorem kubeadmInit_silently : (plain.kubeadmInit ⟨.creating, .empty⟩).Yields silently (.ok (Dict.ofList
    [(ReturnKey.joinWorker, Kubeadm.normalize ""), (ReturnKey.kubeadmAttempts, Text.decimal 1)])) := by
  have written : (plain.writeFile kubeadmInitConfig .empty (some 0o600)).Yields
      [.touched (.write (plain.hostPath kubeadmInitConfig) .empty (some 0o600)) (.ok "")] (.ok ()) :=
    Procedure.yields_map.2 ⟨.ok "", Procedure.yields_file.2 ⟨.ok "", rfl, rfl⟩, rfl⟩
  have ran : ∀ command, (plain.sh command).Yields [.ran command none (.ok ⟨0, "", ""⟩)] (.ok ⟨0, "", ""⟩) :=
    fun command => Procedure.yields_runChecked_ok.2 ⟨rfl, rfl⟩
  have tried : ∀ command, (plain.kubeadmWithRetry command).Yields [.ran command none (.ok ⟨0, "", ""⟩)]
      (.ok (⟨0, "", ""⟩, 1)) := fun command => Procedure.yields_map.2 ⟨_, ran command, rfl⟩
  have nothing : JoinCommands.parse "" = ⟨none, none⟩ := by decide
  refine Procedure.yields_bind_ok.2 ⟨_, _, _, rfl, written, Procedure.yields_bind_ok.2 ⟨_, _, _, rfl,
    tried _, Procedure.yields_bind_ok.2 ⟨_, _, _, rfl, ran _, ?_⟩⟩⟩
  simp only [nothing]
  exact Procedure.yields_bind_ok.2 ⟨_, _, _, rfl, ran _, Procedure.yields_pure.2 ⟨rfl, rfl⟩⟩

/-- A token is printed, and an empty endpoint put into it. -/
theorem printJoinToken_unaddressed : (plain.printJoinToken ⟨.creating, none, some ""⟩).Yields
    [.ran printJoinCommand none (.ok ⟨0, "kubeadm join 10.0.0.1:6443\n", ""⟩)] (.ok (.single ReturnKey.joinWorker
      (Kubeadm.rewriteEndpoint (Kubeadm.normalize "kubeadm join 10.0.0.1:6443\n") ""))) := by
  refine Procedure.yields_bind_ok.2 ⟨⟨0, "kubeadm join 10.0.0.1:6443\n", ""⟩, _, [], rfl,
    Procedure.yields_runChecked_ok.2 ⟨rfl, rfl⟩, ?_⟩
  have notEmpty : ¬ (Kubeadm.normalize "kubeadm join 10.0.0.1:6443\n").isEmpty = true := by decide
  simp only [if_neg notEmpty]
  exact Procedure.yields_pure.2 ⟨rfl, rfl⟩

/-- An empty command is returned when nothing was printed, and one that is not in normal form when an empty
endpoint was put in. -/
theorem blank_worker_commands :
    (∃ es data, (plain.kubeadmInit ⟨.creating, .empty⟩).Yields es (.ok data) ∧
      data.get? ReturnKey.joinWorker = some "") ∧
    ∃ es data worker, (plain.printJoinToken ⟨.creating, none, some ""⟩).Yields es (.ok data) ∧
      data.get? ReturnKey.joinWorker = some worker ∧ worker ≠ "" ∧ Kubeadm.normalize worker ≠ worker := by
  constructor
  · obtain ⟨command, value, -, blank⟩ :=
      (worker_command_returned plain silently _).1 _ kubeadmInit_silently
    refine ⟨_, _, kubeadmInit_silently, ?_⟩
    rw [value, blank.2 ⟨⟨0, "", ""⟩, rfl, by decide⟩]
  · obtain ⟨command, printed, worker, same, value, ne, normal⟩ :=
      (worker_command_returned plain _ _).2 _ printJoinToken_unaddressed
    refine ⟨_, _, worker, printJoinToken_unaddressed, value, ne, fun stays => ?_⟩
    obtain rfl := Except.ok.inj (Script.Entry.ran.inj (List.cons.inj same).1).2.2
    have place : HasEndpoint (Kubeadm.normalize "kubeadm join 10.0.0.1:6443\n") :=
      ⟨"10.0.0.1:6443", by decide, by decide⟩
    exact (normal.1 stays "" rfl place).1 rfl

end Muster.Linux
