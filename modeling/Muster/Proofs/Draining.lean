import Muster.Plan
import Muster.Proofs.Shell.Bare

/-!
# The commands that drain machines

Machines that leave a running cluster are drained by a master that stays, with two command lines for each
of them. The name of the machine is put into the lines as it is, without quotes. So the shell reads the
lines as the words that are meant exactly if the name is bare; any other name is lost or changed, or it
adds a word, an operator or a command (`drained_as_meant_iff`).
-/

set_option autoImplicit false

namespace Muster.Plan

/-- The words of the line that is meant to drain a machine. -/
def drainLine (m : Machine) : List String :=
  ["kubectl", "drain", m.name, "--ignore-daemonsets", "--delete-emptydir-data", "--force",
    "--timeout=120s"]

/-- The words of the line that is meant to delete a machine. -/
def deleteLine (m : Machine) : List String := ["kubectl", "delete", "node", m.name]

/-- The words that the lines for a machine are meant to be. -/
def drainWords (m : Machine) : List (List String) := [drainLine m, deleteLine m]

variable {m : Machine}

/-- The lines are the words that are meant, joined by blanks and without quotes. -/
theorem drainCommands_eq (m : Machine) : drainCommands m = (drainWords m).map (Text.join " ") := by
  simp [drainCommands, drainWords, drainLine, deleteLine, ← String.toList_inj, Text.join]

/-- Apart from the name all words are bare. -/
theorem isBare_drainWords (bare : Shell.isBare m.name.toList = true) :
    ∀ ws ∈ drainWords m, ∀ w ∈ ws, Shell.isBare w.toList = true := by
  have fixed : ∀ w ∈ ["kubectl", "drain", "delete", "node", "--ignore-daemonsets",
      "--delete-emptydir-data", "--force", "--timeout=120s"], Shell.isBare w.toList = true := by decide
  simp only [List.forall_mem_cons] at fixed
  simp only [drainWords, drainLine, deleteLine, List.forall_mem_cons, bare, fixed, List.not_mem_nil,
    false_implies, implies_true, and_self]

/-- The line that drains does not end in a backslash, whatever the name is. -/
theorem drainLine_closed (m : Machine) : ¬ ['\\'] <:+ (Text.join " " (drainLine m)).toList := by
  intro hides
  have ends : "--timeout=120s".toList <:+ (Text.join " " (drainLine m)).toList :=
    ⟨("kubectl drain " ++ m.name ++ " --ignore-daemonsets --delete-emptydir-data --force ").toList,
      by simp [drainLine, Text.join]⟩
  exact absurd (List.suffix_of_suffix_length_le hides ends (by decide)) (by decide)

/-- The lines for a machine are read as the words that are meant exactly if its name is bare. -/
theorem literalWords?_drainCommands_iff (m : Machine) :
    (drainCommands m).map Shell.literalWords? = (drainWords m).map some ↔
      Shell.isBare m.name.toList = true := by
  rw [drainCommands_eq, List.map_map]
  constructor
  · intro reads
    have drains : Shell.literalWords? (Text.join " " (drainLine m)) = some (drainLine m) :=
      (List.cons.inj reads).1
    exact (Shell.literalWords?_join_iff (drainLine_closed m)).1 drains m.name (by simp [drainLine])
  · intro bare
    exact List.map_congr_left fun ws line =>
      Shell.literalWords?_join_of_isBare (isBare_drainWords bare ws line)

/-- The lines for several machines are read as they are meant exactly if those for each of them are. -/
theorem literalWords?_flatMap_drainCommands_iff (machines : List Machine) :
    (machines.flatMap drainCommands).map Shell.literalWords? = (machines.flatMap drainWords).map some ↔
      ∀ m ∈ machines, Shell.isBare m.name.toList = true := by
  induction machines with
  | nil => simp
  | cons m machines ih =>
    have lines : ((drainCommands m).map Shell.literalWords?).length =
      ((drainWords m).map some).length := rfl
    rw [List.flatMap_cons, List.flatMap_cons, List.map_append, List.map_append, List.forall_mem_cons,
      ← literalWords?_drainCommands_iff, ← ih]
    exact ⟨fun same => List.append_inj same lines, fun ⟨first, others⟩ => by rw [first, others]⟩

/-- The step in which a master drains machines. -/
def drainStep (survivor : Machine) (machines : List Machine) : Step :=
  (Step.fixed "drain" [.forNode "drain" survivor.id
    [.runCommand ⟨.creating, machines.flatMap drainCommands, true⟩]]).skippingUnreachable

/-- The step in which machines are reset. -/
def resetStep (machines : List Machine) : Step :=
  ((perMachine "reset-nodes" machines fun m => [destroy m]).skippingUnreachable).withPolicy .minority

/-- Machines are drained if there is a master that stays, and reset in any case. -/
theorem removeNodes_cases (c : Cluster) (machines : List Machine) :
    (∃ survivor ∈ c.masters, survivor.id ∉ machines.map Machine.id ∧
      removeNodes c machines = [drainStep survivor machines, resetStep machines]) ∨
    (∀ m ∈ c.masters, m.id ∈ machines.map Machine.id) ∧ removeNodes c machines = [resetStep machines] := by
  cases found : c.masters.find? fun m => (machines.map Machine.id).contains m.id = false with
  | none =>
    refine .inr ⟨fun m member => ?_, by rw [removeNodes, found]; rfl⟩
    simpa using List.find?_eq_none.1 found m member
  | some survivor =>
    have staying := List.find?_some found
    exact .inl ⟨survivor, List.mem_of_find?_eq_some found, by simpa using staying,
      by rw [removeNodes, found]; rfl⟩

/-- **Names are put into commands as they are.** If a master of the cluster stays, such a master gets the
two lines for each machine that leaves, in their order, before the machines are reset. The shell reads
the lines for a machine as the words that are meant exactly if its name is bare, and all lines exactly if
all names are. -/
theorem drained_as_meant_iff (c : Cluster) (machines : List Machine)
    (stays : ∃ m ∈ c.masters, m.id ∉ machines.map Machine.id) :
    (∃ survivor ∈ c.masters, survivor.id ∉ machines.map Machine.id ∧
      removeNodes c machines = [drainStep survivor machines, resetStep machines]) ∧
    (∀ m ∈ machines, (drainCommands m).map Shell.literalWords? = (drainWords m).map some ↔
      Shell.isBare m.name.toList = true) ∧
    ((machines.flatMap drainCommands).map Shell.literalWords? = (machines.flatMap drainWords).map some ↔
      ∀ m ∈ machines, Shell.isBare m.name.toList = true) := by
  refine ⟨?_, fun m _ => literalWords?_drainCommands_iff m,
    literalWords?_flatMap_drainCommands_iff machines⟩
  rcases removeNodes_cases c machines with drained | ⟨none, -⟩
  · exact drained
  · obtain ⟨m, member, staying⟩ := stays
    exact absurd (none m member) staying

namespace Sample

def master : Machine := ⟨"m", "m1", "10.0.0.1", .master, "", .running⟩

/-- A machine whose name ends a command and begins another one. -/
def hostile : Machine := ⟨"a", "a; reboot", "10.0.0.2", .worker, "", .running⟩

def cluster : Cluster := ⟨"c", "prod", "1.30.0", .standard, [master, hostile]⟩

end Sample

open Sample in
/-- The lines for a machine with a hostile name are not what they are meant to be. -/
theorem hostile_machine_drained :
    (∃ m ∈ cluster.masters, m.id ∉ [hostile].map Machine.id) ∧
      (drainCommands hostile).map Shell.literalWords? ≠ (drainWords hostile).map some := by
  have stays : ∃ m ∈ cluster.masters, m.id ∉ [hostile].map Machine.id := ⟨master, by decide, by decide⟩
  obtain ⟨-, each, -⟩ := drained_as_meant_iff cluster [hostile] stays
  refine ⟨stays, fun reads => ?_⟩
  exact absurd ((each hostile (List.mem_singleton_self _)).1 reads) (by decide)

/-- The semicolon ends the command, and the shell runs what stands behind it. -/
example : Shell.tokens "kubectl delete node a; reboot" = some
    [.word ("kubectl".toList.map .plain), .word ("delete".toList.map .plain),
      .word ("node".toList.map .plain), .word ("a".toList.map .plain), .operator ";",
      .word ("reboot".toList.map .plain)] := by decide

end Muster.Plan
