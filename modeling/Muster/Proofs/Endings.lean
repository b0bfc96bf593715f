import Mathlib.Data.List.Dedup
import Mathlib.Data.List.Induction
import Muster.Proofs.StepState

/-!
# What a step knows after many endings

Endings are recorded one after the other (`classifyAll`), of any nodes and of the same node as often as it
happens. Whatever came before, what counts for a node is the last ending that it was given
(`disposition_classifyAll`), and the sets and counts of the record are read off from these last endings
(`endings_as_last_given`).
-/

set_option autoImplicit false

namespace Muster.StepState

/-- Records endings, one after the other. -/
def classifyAll (s : StepState) (history : List (String × Disposition)) : StepState :=
  history.foldl (fun s ending => s.classify ending.1 ending.2) s

/-- The last ending that a node was given, if it was given any. -/
def lastGiven (history : List (String × Disposition)) (node : String) : Option Disposition :=
  history.reverse.lookup node

/-- The nodes that were given an ending, each of them once. -/
def classified (history : List (String × Disposition)) : List String :=
  (history.map Prod.fst).dedup

section

variable {s : StepState} {history : List (String × Disposition)} {node other : String} {d : Disposition}

theorem classifyAll_concat : s.classifyAll (history ++ [(node, d)]) = (s.classifyAll history).classify node d := by
  simp [classifyAll]

theorem lastGiven_concat :
    lastGiven (history ++ [(node, d)]) other = if other = node then some d else lastGiven history other := by
  rw [lastGiven, List.reverse_concat, List.lookup_cons]
  by_cases same : other = node
  · simp [same]
  · rw [beq_false_of_ne same, if_neg same, lastGiven]

theorem mem_classified : node ∈ classified history ↔ node ∈ history.map Prod.fst := List.mem_dedup

theorem lastGiven_isSome_iff : (lastGiven history node).isSome = true ↔ node ∈ classified history := by
  rw [mem_classified]
  induction history using List.reverseRecOn with
  | nil => simp [lastGiven]
  | append_singleton history ending ih =>
    obtain ⟨latest, d⟩ := ending
    rw [lastGiven_concat, List.map_append, List.mem_append, ← ih]
    by_cases same : node = latest <;> simp [same]

/-- **The last ending counts**; a node that was given none ends as it did before. -/
theorem disposition_classifyAll (s : StepState) (history : List (String × Disposition)) (node : String) :
    (s.classifyAll history).disposition node = (lastGiven history node).or (s.disposition node) := by
  induction history using List.reverseRecOn with
  | nil => rfl
  | append_singleton history ending ih =>
    obtain ⟨latest, d⟩ := ending
    rw [classifyAll_concat, disposition_classify, lastGiven_concat, ih]
    by_cases same : node = latest <;> simp [same]

theorem mem_of_lastGiven (last : lastGiven history node = some d) : (node, d) ∈ history := by
  obtain ⟨later, earlier, split, -⟩ := List.lookup_eq_some_iff.1 last
  rw [← List.mem_reverse, split]
  exact List.mem_append_right later List.mem_cons_self

/-- What does not change when a node is classified does not change when many are. -/
theorem classifyAll_keeps {α : Type} (field : StepState → α)
    (keeps : ∀ s node d, field (classify s node d) = field s) (s : StepState)
    (history : List (String × Disposition)) : field (s.classifyAll history) = field s := by
  induction history using List.reverseRecOn with
  | nil => rfl
  | append_singleton history ending ih =>
    rw [classifyAll_concat, keeps, ih]

theorem Exclusive.classifyAll (h : s.Exclusive) (history : List (String × Disposition)) :
    (s.classifyAll history).Exclusive := by
  induction history using List.reverseRecOn with
  | nil => exact h
  | append_singleton history ending ih =>
    rw [classifyAll_concat]
    exact ih.classify ending.1 ending.2

/-- A step that knows of no endings, whatever else is recorded of it. -/
def blank (name : String) (status : StepStatus) (attempts : UInt32) : StepState :=
  { named name with status, attempts }

theorem exclusive_blank (name : String) (status : StepStatus) (attempts : UInt32) :
    (blank name status attempts).Exclusive :=
  (exclusive_named name).of_endings rfl

/-- From a blank record on, exactly the nodes that were given an ending have one. -/
theorem sorted_classifyAll (name : String) (status : StepStatus) (attempts : UInt32)
    (history : List (String × Disposition)) :
    ((blank name status attempts).classifyAll history).Sorted (classified history) := by
  refine ⟨(exclusive_blank name status attempts).classifyAll history, fun node => ?_⟩
  have unknown : (blank name status attempts).disposition node = none := rfl
  rw [← disposition_isSome_iff, disposition_classifyAll, unknown, Option.or_none]
  exact lastGiven_isSome_iff

end

/-- **A record is read off from the last endings.** Starting from a blank record, any endings have been
recorded of any nodes. Then the record knows of each node the last ending that it was given, and none of a
node that was given none. Nobody stands in two of its sets. As many nodes have ended as were given an
ending, as many without success as were last given another ending than success, and another round may be
tried on those that last failed or timed out. -/
theorem endings_as_last_given (name : String) (status : StepStatus) (attempts : UInt32)
    (history : List (String × Disposition)) :
    let s := (blank name status attempts).classifyAll history
    (∀ node, s.disposition node = lastGiven history node) ∧
    (∀ node, s.disposition node = none ↔ node ∉ history.map Prod.fst) ∧
    [s.succeeded.keys, s.failed.keys, s.timedOut.keys, s.unreachable.keys].Pairwise List.Disjoint ∧
    s.settled = (classified history).length ∧
    s.unsuccessful
      = ((classified history).filter fun node => lastGiven history node ≠ some .succeeded).length ∧
    ∀ node, node ∈ s.retryable.keys ↔
      (∃ message, lastGiven history node = some (.failed message)) ∨ lastGiven history node = some .timedOut := by
  intro s
  have sorted : s.Sorted (classified history) := sorted_classifyAll name status attempts history
  have distinct : (classified history).Nodup := List.nodup_dedup _
  have last (node : String) : s.disposition node = lastGiven history node :=
    (disposition_classifyAll _ history node).trans (Option.or_none)
  refine ⟨last, fun node => ?_, sorted.exclusive, sorted.settled_eq distinct, ?_, fun node => ?_⟩
  · rw [← mem_classified, ← sorted.disposition_isSome, Bool.not_eq_true, Option.isSome_eq_false_iff,
      Option.isNone_iff_eq_none]
  · rw [sorted.unsuccessful_eq distinct, List.countP_eq_length_filter]
    simp only [last]
  · rw [← Dict.contains_iff_mem_keys, sorted.exclusive.retryable_iff, last]

/-- A node that ends again is counted once. -/
example : (StepState.named "join").classifyAll [("a", .timedOut), ("a", .succeeded), ("b", .failed "boom")]
    = { StepState.named "join" with
        succeeded := NameSet.ofNames ["a"], failed := Dict.single "b" "boom" } := by
  decide

end Muster.StepState
