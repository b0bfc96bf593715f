import Muster.Proofs.EngineCourse
import Muster.Proofs.Log

/-!
# What a step is built from

The node steps of a step are built once, when the step is taken up, out of the record that is saved then:
the first one to show the step running. `Acts.built` says so of every chain of acts. It rests on the
records of the steps to come, which nobody has touched, so no record shows a step running early.
-/

set_option autoImplicit false

namespace Muster

/-- The record shows a step running. -/
def Operation.shows (k : Nat) (op : Operation) : Bool := decide (op.statuses[k]? = some .running)

namespace Engine

/-- The first record of a log that shows a step running. -/
def firstShowing (k : Nat) (log : List Effect) : Option Operation := (records log).find? (Operation.shows k)

/-- No record of a log shows a step running at a position or after it. -/
def SilentFrom (i : Nat) (log : List Effect) : Prop :=
  ∀ record ∈ records log, ∀ k, i ≤ k → record.shows k = false

/-- What the log says of the step in progress and of those to come: the node steps of a round are those
that the step yields on the first record that shows it running. -/
def Station.Built (cluster : Cluster) (log : List Effect) (a : Station) : Prop :=
  match a.point with
  | .starting => SilentFrom a.drive.index log
  | .entering => SilentFrom a.drive.index log
  | .takenUp _ => SilentFrom (a.drive.index + 1) log ∧ firstShowing a.drive.index log = some a.drive.op
  | .calling step nodeSteps _ => SilentFrom (a.drive.index + 1) log ∧
      ∃ record, firstShowing a.drive.index log = some record ∧
        step.workload.yield cluster record = .ok nodeSteps
  | .stopping _ => True
  | .ended => True

section

variable {s : Settings} {cluster : Cluster} {a b : Station} {log effects : List Effect} {d d' : Drive}
  {op record : Operation} {i j k : Nat}

theorem firstShowing_append (found : firstShowing k log = some record) (more : List Effect) :
    firstShowing k (log ++ more) = some record := by
  rw [firstShowing, records_append, List.find?_append, show (records log).find? _ = _ from found]
  rfl

/-- The first to show a step running is the record with which it is taken up. -/
theorem SilentFrom.firstShowing_save (h : SilentFrom i log) (le : i ≤ k) (shows : record.shows k = true) :
    firstShowing k (log ++ [.save record]) = some record := by
  have none : (records log).find? (Operation.shows k) = none := by
    rw [List.find?_eq_none]
    intro earlier member
    simp [h earlier member k le]
  rw [firstShowing, records_append, List.find?_append, none, Option.none_or]
  exact List.find?_cons_of_pos shows

theorem SilentFrom.mono (h : SilentFrom i log) (le : i ≤ j) : SilentFrom j log :=
  fun record member k from_ => h record member k (le.trans from_)

theorem SilentFrom.save (h : SilentFrom i log) (silent : ∀ k, i ≤ k → record.shows k = false) :
    SilentFrom i (log ++ [.save record]) := by
  intro other member
  have added : records (log ++ [.save record]) = records log ++ [record] := records_append ..
  rw [added, List.mem_append, List.mem_singleton] at member
  rcases member with old | rfl
  · exact h other old
  · exact silent

theorem SilentFrom.append (h : SilentFrom i log) (none : records effects = []) :
    SilentFrom i (log ++ effects) := by
  intro other member
  rw [records_append, none, List.append_nil] at member
  exact h other member

/-- Records that nobody has touched do not show their steps running. -/
theorem Drive.Reserves.shows (h : d.Reserves i) (k : Nat) (le : i ≤ k) : d.op.shows k = false := by
  rw [Operation.shows, decide_eq_false_iff_not, Operation.statuses, List.getElem?_map]
  intro running
  obtain ⟨state, found, status⟩ := Option.map_eq_some_iff.1 running
  obtain ⟨name, rfl⟩ := h.untouched k state le found
  cases status

theorem Round.Sends.records_eq {round : Round} {desk : Desk} {after : Round × Desk} {sent : List Effect}
    (sends : round.Sends s desk after sent) (faithful : round.Faithful) : records sent = [] := by
  apply List.filterMap_eq_nil_iff.2
  intro effect member
  obtain ⟨lane, -, k, task, -, rfl⟩ := sends.carries faithful effect member
  rfl

theorem Drive.shows_takeUp {step : Step} {later : List Step} (reserves : d.Reserves d.index) (scene : Scene)
    (some : d.later = step :: later) : (d.takeUp scene later).op.shows d.index = true := by
  have inside : d.index < d.op.statuses.length := by
    rw [Operation.statuses, List.length_map, reserves.length, some, List.length_cons]
    omega
  rw [Operation.shows, decide_eq_true_eq, Drive.statuses_takeUp]
  exact List.getElem?_set_self inside

/-- **An act** builds a step from the first record that shows it running, or not at all. -/
theorem Act.built {id : String} (act : Act s a effects b) (filed : a.Filed id) (reserved : a.Reserved)
    (same : a.drive.cluster = cluster) (built : a.Built cluster log) :
    b.Built cluster (log ++ effects) ∧ b.drive.cluster = cluster := by
  have next := act.reserved reserved
  have quiet {log : List Effect} {c : Station} (h : c.Built cluster log) : c.Built cluster (log ++ []) := by
    rw [List.append_nil]
    exact h
  cases act with
  | setsOff scene => exact ⟨SilentFrom.save built next.shows, same⟩
  | completes none => exact ⟨trivial, same⟩
  | turnsBack some requested => exact ⟨trivial, same⟩
  | takesUp scene some wanted =>
    have silent : SilentFrom _ log := built
    have shows := Drive.shows_takeUp reserved scene some
    exact ⟨⟨(silent.mono (Nat.le_succ _)).save next.2.shows,
      silent.firstShowing_save (Nat.le_refl _) shows⟩, same⟩
  | breaksOff requested => exact ⟨trivial, same⟩
  | skips fails ignored => exact ⟨built.1.save next.shows, same⟩
  | calls scene desk yields =>
    have same' : _ = cluster := same
    rw [same'] at yields
    exact ⟨quiet ⟨built.1, _, built.2, yields⟩, same⟩
  | works sends =>
    obtain ⟨silent, record, first, yields⟩ := built
    have none := sends.records_eq (filed.context _ _ _ rfl).2
    exact ⟨⟨silent.append none, record, firstShowing_append first _, yields⟩, same⟩
  | records edits continues =>
    obtain ⟨silent, record, first, yields⟩ := built
    have index := edits.index
    refine ⟨⟨SilentFrom.save ?_ next.shows, record, ?_, yields⟩, edits.cluster.trans same⟩
    · rw [index]
      exact silent
    · rw [index]
      exact firstShowing_append first _
  | retries scene desk => exact ⟨quiet built, same⟩
  | proceeds scene => exact ⟨built.1.save next.shows, same⟩
  | fails e within => exact ⟨trivial, same⟩
  | finishes scene result => exact ⟨trivial, same⟩
  | @rests p d d' n m still more =>
    refine ⟨quiet ?_, still.cluster.trans same⟩
    simp only [Station.Built] at built ⊢
    rw [still.op, still.index]
    exact built

/-- **A chain of acts** builds every step from the first record that shows it running. -/
theorem Acts.built {id : String} (acts : Acts s a effects b) (filed : a.Filed id) (reserved : a.Reserved)
    (same : a.drive.cluster = cluster) (built : a.Built cluster log) :
    b.Built cluster (log ++ effects) ∧ b.drive.cluster = cluster := by
  induction acts with
  | refl =>
    rw [List.append_nil]
    exact ⟨built, same⟩
  | snoc acts act ih =>
    rw [← List.append_assoc]
    exact act.built (acts.filed filed).1 (acts.reserved reserved) ih.2 ih.1

end

end Engine

end Muster
