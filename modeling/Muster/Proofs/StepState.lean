import Mathlib.Data.List.Nodup
import Muster.Proofs.Dict
import Muster.StepState

/-!
# How the nodes of a step are sorted

`classify` moves a node into one set and leaves everybody else alone, so the four sets stay disjoint
and a step knows one ending for each node at most. `Sorted` says of a step that it knows the ending
of certain nodes and of nobody else; the counts of the record then are counts of those nodes.
-/

set_option autoImplicit false

namespace Muster.StepState

/-- The nodes of a step by how they ended. -/
def groups (s : StepState) : List (List String) :=
  [s.succeeded.keys, s.failed.keys, s.timedOut.keys, s.unreachable.keys]

/-- Nobody has ended in two ways. -/
def Exclusive (s : StepState) : Prop := s.groups.Pairwise List.Disjoint

/-- These nodes have ended, each in one way, and nobody else has. -/
structure Sorted (s : StepState) (nodes : List String) : Prop where
  exclusive : s.Exclusive
  ended : ∀ node, node ∈ s.groups.flatten ↔ node ∈ nodes

/-- The parts of a record that `classify` changes. -/
def endings (s : StepState) : NameSet × Dict String × NameSet × NameSet :=
  (s.succeeded, s.failed, s.timedOut, s.unreachable)

variable {s : StepState} {node other : String} {d : Disposition}

/-! ### One node at a time -/

theorem disposition_eq_of_endings {t : StepState} (same : s.endings = t.endings) :
    s.disposition node = t.disposition node := by
  simp only [endings, Prod.mk.injEq] at same
  obtain ⟨h₁, h₂, h₃, h₄⟩ := same
  simp only [disposition, h₁, h₂, h₃, h₄]

theorem groups_eq_of_endings {t : StepState} (same : s.endings = t.endings) : s.groups = t.groups := by
  simp only [endings, Prod.mk.injEq] at same
  obtain ⟨h₁, h₂, h₃, h₄⟩ := same
  simp only [groups, h₁, h₂, h₃, h₄]

/-- How a node ends is recorded the same where the others have ended the same. -/
theorem endings_classify {t : StepState} (same : s.endings = t.endings) (node : String) (d : Disposition) :
    (s.classify node d).endings = (t.classify node d).endings := by
  simp only [endings, Prod.mk.injEq] at same
  obtain ⟨h₁, h₂, h₃, h₄⟩ := same
  cases d <;> simp only [classify, forget, endings, h₁, h₂, h₃, h₄]

theorem Exclusive.of_endings {t : StepState} (h : s.Exclusive) (same : t.endings = s.endings) :
    t.Exclusive := by
  rw [Exclusive, groups_eq_of_endings same]
  exact h

theorem Sorted.of_endings {t : StepState} {nodes : List String} (h : s.Sorted nodes)
    (same : t.endings = s.endings) : t.Sorted nodes := by
  refine ⟨h.exclusive.of_endings same, ?_⟩
  rw [groups_eq_of_endings same]
  exact h.ended

theorem disposition_isSome_iff : (s.disposition node).isSome = true ↔ node ∈ s.groups.flatten := by
  simp only [groups, List.flatten_cons, List.flatten_nil, List.append_nil, List.mem_append,
    ← Dict.contains_iff_mem_keys, disposition]
  by_cases h₁ : s.succeeded.contains node = true
  · simp [h₁]
  · cases h₂ : s.failed.get? node with
    | some message =>
      have failed : s.failed.contains node = true := by simp [Dict.contains, h₂]
      simp [h₁, failed]
    | none =>
      have failed : s.failed.contains node = false := by simp [Dict.contains, h₂]
      by_cases h₃ : s.timedOut.contains node = true
      · simp [h₁, h₃]
      · by_cases h₄ : s.unreachable.contains node = true
        · simp [h₁, h₃, h₄]
        · simp [h₁, failed, h₃, h₄]

theorem Sorted.disposition_isSome {nodes : List String} (h : s.Sorted nodes) :
    (s.disposition node).isSome = true ↔ node ∈ nodes :=
  disposition_isSome_iff.trans (h.ended node)

/-- A node that is classified ends as it is said to; everybody else keeps the ending they had. -/
theorem disposition_classify (s : StepState) (node other : String) (d : Disposition) :
    (s.classify node d).disposition other = if other = node then some d else s.disposition other := by
  by_cases same : other = node
  · subst same
    cases d <;>
      simp [classify, forget, disposition, NameSet.contains_add, Dict.contains_erase]
  · cases d <;>
      simp [classify, forget, disposition, NameSet.contains_add, Dict.contains_erase,
        Dict.get?_insert, Dict.get?_erase, same]

theorem disposition_classify_self : (s.classify node d).disposition node = some d := by
  rw [disposition_classify, if_pos rfl]

theorem disposition_classify_of_ne (differ : other ≠ node) :
    (s.classify node d).disposition other = s.disposition other := by
  rw [disposition_classify, if_neg differ]

theorem attempts_classify : (s.classify node d).attempts = s.attempts := by
  cases d <;> rfl

theorem status_classify : (s.classify node d).status = s.status := by
  cases d <;> rfl

/-! ### The sets stay disjoint -/

theorem exclusive_iff : s.Exclusive ↔ ∀ node,
    ¬(s.succeeded.contains node = true ∧ s.failed.contains node = true) ∧
    ¬(s.succeeded.contains node = true ∧ s.timedOut.contains node = true) ∧
    ¬(s.succeeded.contains node = true ∧ s.unreachable.contains node = true) ∧
    ¬(s.failed.contains node = true ∧ s.timedOut.contains node = true) ∧
    ¬(s.failed.contains node = true ∧ s.unreachable.contains node = true) ∧
    ¬(s.timedOut.contains node = true ∧ s.unreachable.contains node = true) := by
  simp only [Exclusive, groups, List.pairwise_cons, List.mem_cons, List.not_mem_nil, or_false,
    forall_eq_or_imp, forall_eq, List.Disjoint, ← Dict.contains_iff_mem_keys]
  constructor
  · rintro ⟨⟨h₁, h₂, h₃⟩, ⟨h₄, h₅⟩, h₆, -⟩ node
    exact ⟨fun h => h₁ h.1 h.2, fun h => h₂ h.1 h.2, fun h => h₃ h.1 h.2, fun h => h₄ h.1 h.2,
      fun h => h₅ h.1 h.2, fun h => h₆ h.1 h.2⟩
  · intro h
    refine ⟨⟨?_, ?_, ?_⟩, ⟨?_, ?_⟩, ?_, by simp, List.Pairwise.nil⟩ <;> intro node left right
    · exact (h node).1 ⟨left, right⟩
    · exact (h node).2.1 ⟨left, right⟩
    · exact (h node).2.2.1 ⟨left, right⟩
    · exact (h node).2.2.2.1 ⟨left, right⟩
    · exact (h node).2.2.2.2.1 ⟨left, right⟩
    · exact (h node).2.2.2.2.2 ⟨left, right⟩

theorem Exclusive.classify (h : s.Exclusive) (node : String) (d : Disposition) :
    (s.classify node d).Exclusive := by
  rw [exclusive_iff] at h ⊢
  intro other
  have apart := h other
  by_cases same : other = node
  · cases d <;>
      simp [StepState.classify, forget, NameSet.contains_add, Dict.contains_insert,
        Dict.contains_erase, same]
  · cases d <;>
      simpa [StepState.classify, forget, NameSet.contains_add, Dict.contains_insert,
        Dict.contains_erase, same] using apart

theorem exclusive_named (name : String) : (named name).Exclusive := by
  rw [exclusive_iff]
  simp [named, Dict.contains]

/-! ### The groups are the dispositions -/

theorem contains_succeeded_iff :
    s.succeeded.contains node = true ↔ s.disposition node = some .succeeded := by
  constructor
  · intro here
    simp [disposition, here]
  · intro ended
    simp only [disposition] at ended
    by_contra missing
    rw [if_neg missing] at ended
    split at ended
    · cases ended
    · split at ended
      · cases ended
      · split at ended <;> cases ended

section Exclusive

variable (h : s.Exclusive)
include h

theorem Exclusive.failed_iff {message : String} :
    s.failed.get? node = some message ↔ s.disposition node = some (.failed message) := by
  have apart := (exclusive_iff.1 h node).1
  constructor
  · intro here
    have failed : s.failed.contains node = true := by simp [Dict.contains, here]
    have other : ¬ s.succeeded.contains node = true := fun yes => apart ⟨yes, failed⟩
    simp [disposition, here, other]
  · intro ended
    simp only [disposition] at ended
    split at ended
    · cases ended
    · split at ended
      · next found => rw [found]; simpa using ended
      · split at ended
        · cases ended
        · split at ended <;> cases ended

theorem Exclusive.timedOut_iff :
    s.timedOut.contains node = true ↔ s.disposition node = some .timedOut := by
  obtain ⟨-, apart, -, apart', -⟩ := exclusive_iff.1 h node
  constructor
  · intro here
    have first : ¬ s.succeeded.contains node = true := fun yes => apart ⟨yes, here⟩
    have second : s.failed.get? node = none := by
      have : ¬ s.failed.contains node = true := fun yes => apart' ⟨yes, here⟩
      simpa [Dict.contains] using this
    simp [disposition, first, second, here]
  · intro ended
    simp only [disposition] at ended
    split at ended
    · cases ended
    · split at ended
      · cases ended
      · split at ended
        · next here => exact here
        · split at ended <;> cases ended

/-- Another round may be tried on the nodes that failed or timed out. -/
theorem Exclusive.retryable_iff : s.retryable.contains node = true ↔
    (∃ message, s.disposition node = some (.failed message)) ∨ s.disposition node = some .timedOut := by
  rw [retryable, NameSet.contains_ofNames, List.mem_append, ← Dict.contains_iff_mem_keys,
    ← Dict.contains_iff_mem_keys, h.timedOut_iff, Dict.contains, Option.isSome_iff_exists]
  simp only [h.failed_iff]

end Exclusive

/-! ### Counting -/

theorem settled_eq_length (s : StepState) : s.settled = s.groups.flatten.length := by
  simp [settled, groups]
  omega

theorem Exclusive.nodup (h : s.Exclusive) : s.groups.flatten.Nodup := by
  rw [List.nodup_flatten]
  refine ⟨?_, h⟩
  intro group member
  simp only [groups, List.mem_cons, List.not_mem_nil, or_false] at member
  rcases member with rfl | rfl | rfl | rfl <;> exact Dict.keys_nodup _

section Counts

variable {nodes : List String} (h : s.Sorted nodes) (distinct : nodes.Nodup)
include h distinct

theorem Sorted.perm : s.groups.flatten.Perm nodes :=
  (List.perm_ext_iff_of_nodup h.exclusive.nodup distinct).2 h.ended

/-- As many nodes have ended as there are. -/
theorem Sorted.settled_eq : s.settled = nodes.length := by
  rw [settled_eq_length]
  exact (h.perm distinct).length_eq

/-- The nodes that did not succeed, counted one by one. -/
theorem Sorted.unsuccessful_eq :
    s.unsuccessful = nodes.countP fun node => decide (s.disposition node ≠ some .succeeded) := by
  have total : nodes.length = s.settled := (h.settled_eq distinct).symm
  have split := List.length_eq_countP_add_countP (fun node => decide (s.disposition node = some .succeeded))
    (l := nodes)
  have good : nodes.countP (fun node => decide (s.disposition node = some .succeeded))
      = s.succeeded.size := by
    rw [← (h.perm distinct).countP_eq, List.countP_eq_length_filter, ← Dict.length_keys]
    refine List.Perm.length_eq ((List.perm_ext_iff_of_nodup (h.exclusive.nodup.filter _)
      s.succeeded.keys_nodup).2 fun node => ?_)
    rw [List.mem_filter, ← Dict.contains_iff_mem_keys, contains_succeeded_iff,
      ← disposition_isSome_iff, decide_eq_true_eq]
    constructor
    · exact fun both => both.2
    · intro ended
      exact ⟨by rw [ended]; rfl, ended⟩
  rw [unsuccessful, ← total, split, good]
  simp

end Counts

end Muster.StepState
