import Muster.Proofs.Silence

/-!
# Who is left out

Which agents are unreachable is looked up when a round is set up, and never again until another one is. Whoever
is left out then never gets an envelope (`Run.leftOut`), and what is stored about agents afterwards makes
no difference to the round: every move of it can be made in the same way with other agents unreachable
(`Next.storing`, `Run.storing`).
-/

set_option autoImplicit false

namespace Muster.Engine

/-- The same moment with other agents stored as unreachable. -/
def Scene.storing (scene : Scene) (agents : String → Bool) : Scene := { scene with unreachable := agents }

variable {s : Settings} {scene : Scene}

/-! ### What does not look at the agents -/

namespace Drive

/-- Another turn that differs at most in a round that it begins, after so many. -/
inductive Resembles (rounds : Nat) (u : Turn) : Turn → Prop where
  | same : Resembles rounds u u
  | begins {u' : Turn} (underWay : u.verdict = .underWay) (more : u.drive.rounds = rounds + 1)
      (verdict : u'.verdict = u.verdict) (desk : u'.desk = u.desk)
      (drive : u'.drive = { u.drive with phase := u'.drive.phase }) : Resembles rounds u u'

variable (s : Settings) (scene : Scene) (agents : String → Bool) (desk : Desk) (d : Drive) (step : Step)
  (nodeSteps : List NodeStep) (round : Round)

theorem resembles_concludeRound : Resembles d.rounds (concludeRound s scene desk d step nodeSteps round)
    (concludeRound s (scene.storing agents) desk d step nodeSteps round) := by
  have collected : d.collect (scene.storing agents) round = d.collect scene round := rfl
  simp only [concludeRound, collected]
  split
  · exact .same
  · exact .same
  · split
    · exact .same
    · exact .begins rfl rfl rfl rfl rfl

theorem resembles_settle : Resembles d.rounds (settle s scene desk d step nodeSteps round)
    (settle s (scene.storing agents) desk d step nodeSteps round) := by
  have noted (n : NodeStep) (outcome : Outcome) :
      d.note (scene.storing agents) n outcome = d.note scene n outcome := rfl
  have concludes {e : Drive} {after : Round} {desk : Desk} (rounds : e.rounds = d.rounds) :
      Resembles d.rounds (concludeRound s scene desk e step nodeSteps after)
        (concludeRound s (scene.storing agents) desk e step nodeSteps after) := by
    rw [← rounds]
    exact resembles_concludeRound s scene agents desk e step nodeSteps after
  simp only [settle]
  split
  · exact .same
  · simp only [noted]
    split
    · exact concludes rfl
    · split
      · exact concludes rfl
      · exact .same

end Drive

namespace Proceedings

variable {p q r : Proceedings} {motion : Motion} {sent more : List Effect}
  {history later : List (Scene × Motion)} {step : Step} {nodeSteps : List NodeStep} {round : Round}
  {c : Chapter} {d : Drive}

/-- Nothing tells two proceedings apart but a round that has just begun. -/
structure Alike (p q : Proceedings) : Prop where
  verdict : q.turn.verdict = p.turn.verdict
  op : q.turn.drive.op = p.turn.drive.op
  desk : q.turn.desk = p.turn.desk
  concluded : q.concluded = p.concluded

theorem chapter?_of_decided {u : Turn} (decided : u.verdict ≠ .underWay) (scene : Scene) :
    u.chapter? scene = none := by
  obtain ⟨verdict, drive, desk⟩ := u
  cases verdict with
  | underWay => exact absurd rfl decided
  | _ => rfl

/-- **What is stored about agents** makes no difference to a move of a round that is under way: the same
move can be made, and it leads to the same unless another round begins. -/
theorem Next.storing (agents : String → Bool) (next : Next s p scene motion sent q) :
    (q.turn.drive.rounds = p.turn.drive.rounds → Next s p (scene.storing agents) motion sent q) ∧
    ∃ q', Next s p (scene.storing agents) motion sent q' ∧ q.Alike q' := by
  -- It is enough to say where the same move leads to.
  have same (next' : Next s p (scene.storing agents) motion sent q) :
      (q.turn.drive.rounds = p.turn.drive.rounds → Next s p (scene.storing agents) motion sent q) ∧
      ∃ q', Next s p (scene.storing agents) motion sent q' ∧ q.Alike q' :=
    ⟨fun _ => next', q, next', rfl, rfl, rfl, rfl⟩
  cases next with
  | @settles step nodeSteps round c u sent scene desk inRound here later turn effects goesOn =>
    have resembles := Drive.resembles_settle s scene agents desk p.turn.drive step nodeSteps round
    rw [turn] at resembles
    generalize turn' : Drive.settle s (scene.storing agents) desk p.turn.drive step nodeSteps round = u' at resembles
    cases resembles with
    | same => exact same (.settles (scene.storing agents) desk inRound here later turn' effects goesOn)
    | begins underWay more verdict desk' drive => exact absurd (.inr (by omega)) goesOn
  | @concludes step nodeSteps round c u sent scene desk inRound here later turn effects ends =>
    have resembles := Drive.resembles_settle s scene agents desk p.turn.drive step nodeSteps round
    rw [turn] at resembles
    generalize turn' : Drive.settle s (scene.storing agents) desk p.turn.drive step nodeSteps round = u' at resembles
    cases resembles with
    | same =>
      have next' := Next.concludes (scene.storing agents) desk inRound here later turn' effects ends
      refine ⟨fun still => ?_, _, next', rfl, rfl, rfl, rfl⟩
      have decided : u.verdict ≠ .underWay := ends.resolve_right (absurd still)
      rw [conclude, chapter?_of_decided decided, ← chapter?_of_decided decided (scene.storing agents)]
      exact next'
    | begins underWay more verdict desk' drive =>
      have rounds : u'.drive.rounds = u.drive.rounds := by rw [drive]
      have ends' : Turn.EndsRound p.turn u' := .inr (by omega)
      have next' := Next.concludes (scene.storing agents) desk inRound here later turn' (desk' ▸ effects) ends'
      have still (same : u.drive.rounds = p.turn.drive.rounds) : False := by omega
      exact ⟨fun same => (still same).elim, _, next', verdict, by rw [conclude, drive]; rfl, desk', rfl⟩
  | works scene desk i inRound later went effects =>
    exact same (.works (scene.storing agents) desk i inRound later went effects)
  | asks scene => exact same (.asks _)
  | abandons scene desk inRound here requested later turn effects =>
    exact same (.abandons (scene.storing agents) desk inRound here requested later turn effects)

/-- The same history, with other agents stored as unreachable at every moment. -/
def storing (agents : Nat → String → Bool) (history : List (Scene × Motion)) : List (Scene × Motion) :=
  history.mapIdx fun n moment => (moment.1.storing (agents n), moment.2)

/-- **What is stored about agents while a round is under way** does not affect it: everything happens in the
same way. -/
theorem Run.storing (run : Run s p history sent q) (agents : Nat → String → Bool)
    (within : q.turn.drive.rounds = p.turn.drive.rounds) : Run s p (storing agents history) sent q := by
  induction run with
  | refl => exact .refl
  | @snoc q r history sent more scene motion run next ih =>
    have between : q.turn.drive.rounds = p.turn.drive.rounds :=
      Nat.le_antisymm (next.move.rounds_le.trans within.le) run.course.rounds_le
    have last := (next.storing (agents history.length)).1 (within.trans between.symm)
    rw [Proceedings.storing, List.mapIdx_concat]
    exact (ih between).snoc last

/-! ### Who is left out -/

/-- A chapter that was opened for a round that has just been set up. -/
structure Opens (scene : Scene) (used : Nat) (step : Step) (nodeSteps : List NodeStep) (c : Chapter)
    (q : Proceedings) : Prop where
  unreachable : c.unreachable = scene.unreachable
  sets : ∃ round, Drive.Sets scene used step nodeSteps q.turn round ∧ round.called = c.called

theorem opens_of_chapter? {u : Turn} {used : Nat} (sets : Drive.Sets scene used step nodeSteps u round)
    (here : u.chapter? scene = some c) (turn : q.turn = u) : q.Opens scene used step nodeSteps c := by
  have opened : u.chapter? scene = some ⟨round.called, scene.unreachable, []⟩ := by
    rw [Turn.chapter?, sets.inRound.1, sets.inRound.2]
  rw [opened] at here
  cases here
  refine ⟨rfl, round, ?_, rfl⟩
  rw [turn]
  exact sets

/-- After a move there are the same chapters, and one more if another round has begun. -/
theorem Next.chapters (kept : p.Kept d step nodeSteps) (next : Next s p scene motion sent q) {c : Chapter}
    (member : c ∈ q.chapters) :
    (∃ old ∈ p.chapters, c.called = old.called ∧ c.unreachable = old.unreachable) ∨
    q.Opens scene p.turn.desk.identifiers.used step nodeSteps c := by
  have still (member : c ∈ p.chapters) :
      ∃ old ∈ p.chapters, c.called = old.called ∧ c.unreachable = old.unreachable :=
    ⟨c, member, rfl, rfl⟩
  by_cases underWay : p.turn.verdict = .underWay
  · obtain ⟨round, c₀, here⟩ := kept.underWay underWay
    -- More minutes make no other chapter.
    have added {minutes : List Minute} (member : c ∈ p.concluded ++ [c₀.add minutes]) :
        ∃ old ∈ p.chapters, c.called = old.called ∧ c.unreachable = old.unreachable := by
      rcases List.mem_append.1 member with past | current
      · exact still (List.mem_append_left _ past)
      · rw [List.mem_singleton.1 current]
        refine ⟨c₀, List.mem_append_right _ ?_, rfl, rfl⟩
        rw [here.here]
        exact List.mem_singleton_self c₀
    have concluded {e : Drive} {after : Round} {desk : Desk} {minutes : List Minute}
        (later : p.turn.desk.identifiers.used ≤ desk.identifiers.used)
        (member : c ∈ (p.conclude scene (Drive.concludeRound s scene desk e step nodeSteps after)
          (c₀.add minutes)).chapters) :
        (∃ old ∈ p.chapters, c.called = old.called ∧ c.unreachable = old.unreachable) ∨
        (p.conclude scene (Drive.concludeRound s scene desk e step nodeSteps after) (c₀.add minutes)).Opens
          scene p.turn.desk.identifiers.used step nodeSteps c := by
      rcases List.mem_append.1 member with past | current
      · exact .inl (added past)
      · refine .inr ?_
        have opened := Option.mem_toList.1 current
        by_cases goesOn : (Drive.concludeRound s scene desk e step nodeSteps after).verdict = .underWay
        · obtain ⟨next, sets⟩ := Drive.sets_concludeRound later goesOn
          exact opens_of_chapter? sets opened rfl
        · have none := chapter?_of_decided goesOn scene
          rw [show Turn.chapter? scene _ = some c from opened] at none
          cases none
    cases next.stage here with
    | idle desk later none => exact .inl (still member)
    | settles desk later took note patient busy saved => exact .inl (added member)
    | ends desk later took note patient atEnd saved => exact concluded later member
    | finalizes desk later took note gaveUp sweep saved =>
      rw [Chapter.add_add] at member ⊢
      exact concluded later member
    | works desk i later speaks => exact .inl (still member)
    | asks => exact .inl (still member)
    | abandons desk later requested saved => exact .inl (added member)
  · obtain ⟨-, rfl⟩ := next.asked_of_decided underWay
    exact .inl (still member)

/-- Whoever is left out in a round has not been heard of, and never will be. -/
def LeftOut (step : Step) (sent : List Effect) (p : Proceedings) : Prop :=
  step.skipUnreachable = true → ∀ c ∈ p.chapters, ∀ entry ∈ c.called,
    c.unreachable entry.2.nodeId = true →
      p.Confined Slot.Silent entry.1 ∧ ∀ effect ∈ sent, ¬ effect.Names entry.1

/-- Whoever is left out of a round that has just been set up is silent. -/
theorem Opens.silent {used : Nat} (opens : q.Opens scene used step nodeSteps c) (kept : q.Kept d step nodeSteps)
    (skip : step.skipUnreachable = true) {entry : String × NodeStep} (listed : entry ∈ c.called)
    (away : c.unreachable entry.2.nodeId = true) :
    q.Confined Slot.Silent entry.1 ∧ Identifiers.Between used q.turn.desk.identifiers.used entry.1 := by
  obtain ⟨unreachable, round, sets, called⟩ := opens
  obtain ⟨round', c', here⟩ := kept.underWay sets.inRound.1
  obtain ⟨-, -, rfl⟩ := here.inRound.unique sets.inRound
  rw [← called] at listed
  obtain ⟨lane, member, rfl⟩ := List.mem_map.1 listed
  have fresh := sets.fresh lane member
  refine ⟨confined_of_inRound (fresh.mono (Nat.zero_le _) (Nat.le_refl _)) sets.inRound ?_, fresh⟩
  intro lane' member' same
  obtain ⟨i, there⟩ := List.mem_iff_getElem?.1 member
  obtain ⟨j, there'⟩ := List.mem_iff_getElem?.1 member'
  obtain rfl := here.eq_of_id there there' same.symm
  obtain rfl := Option.some.inj (there.symm.trans there')
  rw [sets.left skip lane member (unreachable ▸ away)]
  trivial

theorem Next.leftOut {before : List Effect} (kept : p.Kept d step nodeSteps)
    (named : ∀ effect ∈ before, ∀ id, effect.Names id →
      Identifiers.Between 0 p.turn.desk.identifiers.used id)
    (next : Next s p scene motion sent q) (leftOut : p.LeftOut step before) :
    q.LeftOut step (before ++ sent) := by
  intro skip c member entry listed away
  rcases next.chapters kept member with ⟨old, present, called, unreachable⟩ | opens
  · rw [called] at listed
    rw [unreachable] at away
    obtain ⟨silent, unheard⟩ := leftOut skip old present entry listed away
    refine ⟨next.confined kept Slot.lasting_silent silent, fun effect member => ?_⟩
    rcases List.mem_append.1 member with earlier | latest
    · exact unheard effect earlier
    · exact next.silent kept silent effect latest
  · obtain ⟨silent, fresh⟩ := opens.silent (next.kept kept) skip listed away
    refine ⟨silent, fun effect member names => ?_⟩
    have old : Identifiers.Between 0 p.turn.desk.identifiers.used entry.1 := by
      rcases List.mem_append.1 member with earlier | latest
      · exact named effect earlier entry.1 names
      · exact next.named kept latest names
    exact old.ne fresh (Nat.le_refl _) rfl

/-- **Whoever is left out** of a round never gets an envelope. -/
theorem Run.leftOut (run : Run s p history sent q) (kept : p.Kept d step nodeSteps)
    (leftOut : p.LeftOut step []) : q.LeftOut step sent := by
  induction run with
  | refl => exact leftOut
  | snoc run next ih =>
    refine next.leftOut (run.kept kept) (fun effect member id names => ?_) ih
    exact (run.heard kept member names).spent

theorem leftOut_opening (s : Settings) (scene : Scene) (desk : Desk) (d : Drive) (step : Step)
    (nodeSteps : List NodeStep) : (opening s scene desk d step nodeSteps).LeftOut step [] := by
  intro skip c member entry listed away
  refine ⟨?_, fun _ member => nomatch member⟩
  have kept := kept_opening s scene desk d step nodeSteps
  rcases List.mem_append.1 member with past | current
  · -- Only the round of an empty step is over at once.
    rw [opening] at past
    split at past
    · rw [List.mem_singleton.1 past] at listed
      cases listed
    · cases past
  · have opened : (Drive.firstRound s scene desk d step nodeSteps).chapter? scene = some c :=
      Option.mem_toList.1 current
    by_cases empty : nodeSteps = []
    · subst empty
      rw [Drive.firstRound_nil] at opened
      by_cases goesOn : (Drive.firstRound s scene desk d step []).verdict = .underWay
      · obtain ⟨next, sets⟩ := Drive.sets_concludeRound (Nat.le_refl _) goesOn
        have opens := opens_of_chapter? sets opened (q := opening s scene desk d step []) rfl
        exact (opens.silent kept skip listed away).1
      · have none := chapter?_of_decided goesOn scene
        rw [Drive.firstRound_nil, opened] at none
        cases none
    · have turn := Drive.firstRound_of_ne_nil s scene desk d step nodeSteps empty
      rw [turn] at opened
      have opens := opens_of_chapter? (q := opening s scene desk d step nodeSteps)
        (Drive.sets_dispatch s scene desk d step nodeSteps nodeSteps) opened turn
      exact (opens.silent kept skip listed away).1

end Proceedings

end Muster.Engine
