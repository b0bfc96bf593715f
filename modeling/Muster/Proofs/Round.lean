import Muster.Engine.Round
import Muster.Proofs.Endings

/-!
# What a round keeps

Who takes part in a round is fixed when it begins, and a node step that is settled stays settled:
`roster` is what `work` leaves as it is and what settling changes in one place. Both need the line for
permits to be in order (`Sound`), since a permit is given to whoever stands first in it.

`sweep_cases` says what giving up a round does to the record of one node.
-/

set_option autoImplicit false

namespace Muster.Engine

/-! ### The roster -/

namespace Lane

/-- Who a lane is for and whether it is settled. -/
def entry (l : Lane) : String × NodeStep × Bool := (l.id, l.nodeStep, l.slot.isSettled)

end Lane

namespace Round

variable {r : Round} {i j : Nat} {slot old : Slot}

/-- Who takes part in a round, and who of them is settled. -/
def roster (r : Round) : List (String × NodeStep × Bool) := r.lanes.map Lane.entry

/-- The node steps that take part in a round, under their identifiers. -/
def called (r : Round) : List (String × NodeStep) := r.lanes.map fun lane => (lane.id, lane.nodeStep)

/-- The nodes that take part in a round. -/
def targets (r : Round) : List String := r.lanes.map fun lane => lane.nodeStep.nodeId

/-- Those who stand in line for a permit do so once, and do nothing else. -/
structure Sound (r : Round) : Prop where
  queued : ∀ i ∈ r.line, r.slot? i = some .queued
  once : r.line.Nodup

theorem mem_of_roster_eq {t : Round} (same : t.roster = r.roster) {lane : Lane}
    (member : lane ∈ t.lanes) : ∃ other ∈ r.lanes, other.entry = lane.entry := by
  have listed : lane.entry ∈ r.roster := same ▸ List.mem_map_of_mem member
  exact List.mem_map.1 listed

theorem called_eq_of_roster {t : Round} (same : t.roster = r.roster) : t.called = r.called := by
  have mapped := congrArg (List.map fun entry => (entry.1, entry.2.1)) same
  simpa [roster, called, Lane.entry, Function.comp_def] using mapped

theorem nodeSteps_eq (r : Round) : r.lanes.map Lane.nodeStep = r.called.map Prod.snd := by
  simp [called]

theorem targets_eq (r : Round) : r.targets = (r.called.map Prod.snd).map NodeStep.nodeId := by
  simp [targets, called]

theorem targets_eq_of_called {t : Round} (same : t.called = r.called) : t.targets = r.targets := by
  rw [targets_eq, targets_eq, same]

/-! ### Slots one by one -/

theorem slot?_setSlot :
    (r.setSlot i slot).slot? j = if i = j then (r.slot? j).map fun _ => slot else r.slot? j := by
  simp only [slot?, setSlot, List.getElem?_modify]
  by_cases same : i = j
  · cases r.lanes[j]? <;> simp [same]
  · simp [same]

theorem roster_setSlot (here : r.slot? i = some old) (same : slot.isSettled = old.isSettled) :
    (r.setSlot i slot).roster = r.roster := by
  apply List.ext_getElem?
  intro j
  simp only [roster, setSlot, List.getElem?_map, List.getElem?_modify]
  by_cases at_i : i = j
  · subst at_i
    simp only [slot?, Option.map_eq_some_iff] at here
    obtain ⟨lane, found, rfl⟩ := here
    simp [found, Lane.entry, same]
  · simp [at_i]

theorem Sound.setSlot (h : r.Sound) (away : i ∉ r.line) : (r.setSlot i slot).Sound := by
  refine ⟨fun j member => ?_, h.once⟩
  have differ : i ≠ j := fun same => away (same ▸ member)
  rw [slot?_setSlot, if_neg differ]
  exact h.queued j member

theorem Sound.not_mem_line (h : r.Sound) (here : r.slot? i = some slot) (busy : slot ≠ .queued) :
    i ∉ r.line := by
  intro member
  have queued := h.queued i member
  rw [here] at queued
  exact busy (Option.some.inj queued)

/-! ### Permits -/

theorem Sound.release (h : r.Sound) : r.release.Sound := by
  rw [Round.release]
  split
  · exact ⟨h.queued, h.once⟩
  · next next rest found =>
    have once := h.once
    rw [found, List.nodup_cons] at once
    refine ⟨fun j member => ?_, once.2⟩
    have differ : next ≠ j := fun same => once.1 (same ▸ member)
    have queued := h.queued j (found ▸ List.mem_cons_of_mem next member)
    have moved : (r.setSlot next .granted).slot? j = some .queued := by
      rw [slot?_setSlot, if_neg differ]
      exact queued
    exact moved

theorem Sound.roster_release (h : r.Sound) : r.release.roster = r.roster := by
  rw [Round.release]
  split
  · rfl
  · next next rest found =>
    have queued := h.queued next (by rw [found]; exact List.mem_cons_self)
    have kept : (r.setSlot next .granted).roster = r.roster := roster_setSlot queued rfl
    exact kept

theorem Sound.slot?_release (h : r.Sound) (here : r.slot? i = some slot) (busy : slot ≠ .queued) :
    r.release.slot? i = some slot := by
  rw [Round.release]
  split
  · exact here
  · next next rest found =>
    have queued := h.queued next (by rw [found]; exact List.mem_cons_self)
    have differ : next ≠ i := by
      intro same
      rw [same, here] at queued
      exact busy (Option.some.inj queued)
    have kept : (r.setSlot next .granted).slot? i = some slot := by
      rw [slot?_setSlot, if_neg differ]
      exact here
    exact kept

/-! ### A node step goes on -/

/-- What the moves of node steps keep of a round. -/
structure Keeps (r t : Round) : Prop where
  sound : r.Sound → t.Sound
  roster : r.Sound → t.roster = r.roster
  context : t.context = r.context

theorem keeps_setSlot (here : r.slot? i = some old) (same : slot.isSettled = old.isSettled)
    (busy : old ≠ .queued) : r.Keeps (r.setSlot i slot) where
  sound h := h.setSlot (h.not_mem_line here busy)
  roster _ := roster_setSlot here same
  context := rfl

theorem Keeps.trans {t u : Round} (first : r.Keeps t) (second : t.Keeps u) : r.Keeps u where
  sound h := second.sound (first.sound h)
  roster h := (second.roster (first.sound h)).trans (first.roster h)
  context := second.context.trans first.context

theorem keeps_report {outcome : Outcome} (here : r.slot? i = some old) (unsettled : old.isSettled = false)
    (busy : old ≠ .queued) : r.Keeps (r.report i outcome) := by
  have kept : r.Keeps (r.setSlot i (.ended outcome)) := keeps_setSlot here unsettled.symm busy
  exact ⟨fun h => ⟨(kept.sound h).queued, (kept.sound h).once⟩, kept.roster, kept.context⟩

theorem keeps_follow (move : Move) (here : r.slot? i = some old) (unsettled : old.isSettled = false)
    (busy : old ≠ .queued) : r.Keeps (r.follow i move) := by
  rw [follow]
  cases move.standing with
  | waiting e => exact keeps_setSlot here unsettled.symm busy
  | ended outcome => exact keeps_report here unsettled busy

theorem keeps_release (r : Round) : r.Keeps r.release where
  sound h := h.release
  roster h := h.roster_release
  context := by rw [Round.release]; split <;> rfl

theorem keeps_free (r : Round) (free : Nat) : r.Keeps { r with free } :=
  ⟨fun h => ⟨h.queued, h.once⟩, fun _ => rfl, rfl⟩

theorem keeps_start (s : Settings) (scene : Scene) (desk : Desk) (here : r.slot? i = some old)
    (unsettled : old.isSettled = false) (busy : old ≠ .queued) :
    r.Keeps (start s scene desk r i).1 := by
  rw [start]
  split
  · exact ⟨id, fun _ => rfl, rfl⟩
  · exact keeps_follow _ here unsettled busy

/-- **A node step that goes on** changes neither who takes part in the round nor who is settled. -/
theorem keeps_work (s : Settings) (scene : Scene) (desk : Desk) (r : Round) (i : Nat) :
    r.Keeps (r.work s scene desk i).1 := by
  rw [work]
  split
  · next here =>
    split
    · exact keeps_report here rfl (by simp)
    · split
      · -- The node step joins the line, at which nobody stood in its place.
        refine ⟨fun h => ?_, fun _ => roster_setSlot here rfl, rfl⟩
        have away := h.not_mem_line here (by simp)
        refine ⟨fun j member => ?_, ?_⟩
        · have moved : (r.setSlot i .queued).slot? j = some .queued := by
            rw [slot?_setSlot]
            rcases List.mem_append.1 member with old | new
            · have differ : i ≠ j := fun same => away (same ▸ old)
              rw [if_neg differ]
              exact h.queued j old
            · rw [if_pos (List.mem_singleton.1 new).symm, List.mem_singleton.1 new, here]
              rfl
          exact moved
        · rw [List.nodup_append]
          refine ⟨h.once, List.nodup_singleton i, fun a old b new same => ?_⟩
          rw [List.mem_singleton] at new
          exact away (new ▸ same ▸ old)
      · have began := keeps_start (r := { r with free := r.free - 1 }) s scene desk here rfl (by simp)
        exact (keeps_free r (r.free - 1)).trans began
  · next here =>
    split
    · -- Leaving the line keeps the others in it.
      refine ⟨fun h => ⟨fun j member => ?_, h.once.filter _⟩, fun _ => roster_setSlot here rfl, rfl⟩
      obtain ⟨old, differ⟩ := List.mem_filter.1 member
      have differ : i ≠ j := fun same => of_decide_eq_true differ same.symm
      have kept : (r.setSlot i (.ended .notDispatched)).slot? j = some .queued := by
        rw [slot?_setSlot, if_neg differ]
        exact h.queued j old
      exact kept
    · exact ⟨id, fun _ => rfl, rfl⟩
  · next here =>
    split
    · have report (h : r.Sound) : r.release.Keeps (r.release.report i .notDispatched) :=
        keeps_report (h.slot?_release here (by simp)) rfl (by simp)
      exact ⟨fun h => (report h).sound h.release,
        fun h => ((report h).roster h.release).trans h.roster_release, (keeps_release r).context⟩
    · exact keeps_start s scene desk here rfl (by simp)
  · next e here => exact keeps_follow _ here rfl (by simp)
  · exact ⟨id, fun _ => rfl, rfl⟩

theorem identifiers_start (s : Settings) (scene : Scene) (desk : Desk) (r : Round) (i : Nat) :
    (start s scene desk r i).2.identifiers = desk.identifiers := by
  rw [start]
  split <;> rfl

theorem identifiers_work (s : Settings) (scene : Scene) (desk : Desk) (r : Round) (i : Nat) :
    (r.work s scene desk i).2.identifiers = desk.identifiers := by
  rw [work]
  split
  · split
    · rfl
    · split
      · rfl
      · exact identifiers_start ..
  · split <;> rfl
  · split
    · rfl
    · exact identifiers_start ..
  · rfl
  · rfl

/-! ### An outcome is settled -/

theorem called_setSlot (r : Round) (i : Nat) (slot : Slot) : (r.setSlot i slot).called = r.called := by
  apply List.ext_getElem?
  intro j
  simp only [called, setSlot, List.getElem?_map, List.getElem?_modify]
  cases r.lanes[j]? <;> by_cases same : i = j <;> simp [same]

/-- What taking an outcome out of a round means: a lane that was not settled is, and the others stay as
they are. -/
structure Took (r : Round) (lane : Lane) (outcome : Outcome) (t : Round) : Prop where
  mem : lane ∈ r.lanes
  ended : lane.slot = .ended outcome
  called : t.called = r.called
  taken : { lane with slot := .settled outcome.data? } ∈ t.lanes
  others : ∀ l ∈ t.lanes, l ∈ r.lanes ∨ l = { lane with slot := .settled outcome.data? }
  sound : r.Sound → t.Sound
  context : t.context = r.context

theorem took_of_take? {lane : Lane} {outcome : Outcome} {t : Round}
    (took : r.take? = some (lane, outcome, t)) : r.Took lane outcome t := by
  rw [take?] at took
  split at took
  · cases took
  · next i later found =>
    split at took
    · next here at_i =>
      split at took
      · next result ended =>
        simp only [Option.some.injEq, Prod.mk.injEq] at took
        obtain ⟨rfl, rfl, rfl⟩ := took
        have slot : r.slot? i = some (.ended result) := by simp [slot?, at_i, ended]
        have kept : r.Sound → (r.setSlot i (.settled result.data?)).Sound :=
          fun h => h.setSlot (h.not_mem_line slot (by simp))
        refine ⟨List.mem_of_getElem? at_i, ended, called_setSlot r i _,
          List.mem_of_getElem? (i := i) (by simp [setSlot, at_i]), ?_,
          fun h => ⟨(kept h).queued, (kept h).once⟩, rfl⟩
        intro l member
        obtain ⟨j, hj⟩ := List.mem_iff_getElem?.1 member
        simp only [setSlot, List.getElem?_modify] at hj
        by_cases same : i = j
        · subst same
          rw [at_i] at hj
          simp only [if_true, Option.map_eq_map, Option.map_some, Option.some.injEq] at hj
          exact .inr hj.symm
        · simp only [same, if_false, Option.map_eq_map, Option.map_id_fun', id] at hj
          exact .inl (List.mem_of_getElem? hj)
      · cases took
    · cases took

theorem keeps_count (r : Round) (outcome : Outcome) : r.Keeps (r.count outcome) :=
  ⟨fun h => ⟨h.queued, h.once⟩, fun _ => rfl, rfl⟩

theorem keeps_passOn (r : Round) (halts : Bool) (outcome : Outcome) :
    r.Keeps (r.passOn halts outcome) := by
  have noted : r.Keeps { r with halted := r.halted || halts } :=
    ⟨fun h => ⟨h.queued, h.once⟩, fun _ => rfl, rfl⟩
  rw [passOn]
  split
  · exact noted.trans (keeps_release _)
  · exact noted

theorem isOver_iff : r.isOver = true ↔ ∀ lane ∈ r.lanes, lane.slot.isSettled = true := by
  rw [isOver, List.all_eq_true]

/-! ### A round begins -/

section Begin

variable (s : Settings) (scene : Scene) (skip : Bool) (c : RoundContext)
  (named : List (String × NodeStep))

theorem sound_begin : (begin s scene skip c named).Sound := ⟨by simp [begin], by simp [begin]⟩

theorem called_begin : (begin s scene skip c named).called = named := by
  simp [begin, called, Function.comp_def]

theorem unsettled_begin {lane : Lane} (member : lane ∈ (begin s scene skip c named).lanes) :
    lane.slot.isSettled = false := by
  simp only [begin, List.mem_map] at member
  obtain ⟨entry, -, rfl⟩ := member
  simp only [firstSlot]
  split <;> rfl

end Begin

/-! ### A round is given up -/

section Sweep

variable (ending : Slot → Disposition) (state : StepState) (node : String)

/-- How those who are not settled end if a round is given up. -/
def abandoned (r : Round) : List (String × Disposition) :=
  (r.lanes.filter fun lane => !lane.slot.isSettled).map fun lane => (lane.nodeStep.nodeId, ending lane.slot)

theorem sweep_eq (r : Round) : r.sweep ending state = state.classifyAll (r.abandoned ending) := by
  rw [sweep, abandoned, StepState.classifyAll, List.foldl_map, List.foldl_filter]
  congr
  funext state lane
  cases lane.slot.isSettled <;> rfl

theorem mem_abandoned {r : Round} {d : Disposition} : (node, d) ∈ r.abandoned ending ↔
    ∃ lane ∈ r.lanes, lane.slot.isSettled = false ∧ lane.nodeStep.nodeId = node ∧ ending lane.slot = d := by
  simp [abandoned, and_assoc]

/-- Giving up a round leaves a node alone unless it is that of a lane that is not settled; such a node
ends the way that its lane says. -/
theorem sweep_cases (r : Round) :
    (∃ lane ∈ r.lanes, lane.slot.isSettled = false ∧ lane.nodeStep.nodeId = node ∧
      (r.sweep ending state).disposition node = some (ending lane.slot)) ∨
    ((∀ lane ∈ r.lanes, lane.slot.isSettled = false → lane.nodeStep.nodeId ≠ node) ∧
      (r.sweep ending state).disposition node = state.disposition node) := by
  rw [sweep_eq, StepState.disposition_classifyAll]
  cases last : StepState.lastGiven (r.abandoned ending) node with
  | some d =>
    -- Of several lanes of the same node the last one has the last word.
    obtain ⟨lane, member, unsettled, here, rfl⟩ := (mem_abandoned ending node).1 (StepState.mem_of_lastGiven last)
    exact .inl ⟨lane, member, unsettled, here, rfl⟩
  | none =>
    refine .inr ⟨fun lane member unsettled here => ?_, rfl⟩
    have given : node ∈ StepState.classified (r.abandoned ending) :=
      StepState.mem_classified.2 (List.mem_map_of_mem
        ((mem_abandoned ending node).2 ⟨lane, member, unsettled, here, rfl⟩))
    rw [← StepState.lastGiven_isSome_iff, last] at given
    cases given

theorem attempts_sweep (r : Round) : (r.sweep ending state).attempts = state.attempts := by
  rw [sweep_eq]
  exact StepState.classifyAll_keeps StepState.attempts (fun _ _ _ => StepState.attempts_classify) ..

theorem status_sweep (r : Round) : (r.sweep ending state).status = state.status := by
  rw [sweep_eq]
  exact StepState.classifyAll_keeps StepState.status (fun _ _ _ => StepState.status_classify) ..

theorem exclusive_sweep (r : Round) (h : state.Exclusive) : (r.sweep ending state).Exclusive := by
  rw [sweep_eq]
  exact h.classifyAll _

end Sweep

end Round

end Muster.Engine
