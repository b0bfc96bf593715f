import Muster.Proofs.Proceedings

/-!
# What a step adds to the returned data

A step takes over what its rounds return, each when it comes to its end: within a round in the order in which
the node steps were called up, whatever the order in which they finished. `return_data_by_round` says so
of everything that can happen while a step is run. A round that is under way or that was cancelled adds
nothing, and its envelopes carry the data as it was when the round began.
-/

set_option autoImplicit false

namespace Muster.Engine

/-- Two rounds with as many node steps that were done with in the same way. -/
def Chapter.Agrees (a b : Chapter) : Prop :=
  a.called.length = b.called.length ∧ ∀ i, a.closing? i = b.closing? i

theorem Chapter.Agrees.returned {a b : Chapter} (agrees : a.Agrees b) : a.returned = b.returned := by
  obtain ⟨length, closings⟩ := agrees
  simp only [Chapter.returned, length, closings]

theorem flatMap_returned {cs ds : List Chapter} (agrees : List.Forall₂ Chapter.Agrees cs ds) :
    cs.flatMap Chapter.returned = ds.flatMap Chapter.returned := by
  induction agrees with
  | nil => rfl
  | cons first _ ih => rw [List.flatMap_cons, List.flatMap_cons, first.returned, ih]

namespace Drive

variable (s : Settings) (scene : Scene) (desk : Desk) (d : Drive) (step : Step) (nodeSteps : List NodeStep)
  (round : Round)

/-- The end of a round takes over what the round returned. -/
theorem returnData_concludeRound :
    (concludeRound s scene desk d step nodeSteps round).drive.op.returnData
      = round.returned.foldl Dict.merge d.op.returnData := by
  have cases := concludeRound_cases s scene desk d step nodeSteps round
  generalize concludeRound s scene desk d step nodeSteps round = turn at cases ⊢
  cases cases with
  | proceeds decided => rfl
  | aborts reason decided => rfl
  | nothingLeft decided none => rfl
  | retries decided some => rfl

end Drive

namespace Proceedings

variable {s : Settings} {p q r : Proceedings} {scene : Scene} {motion : Motion} {sent more : List Effect}
  {history later : List (Scene × Motion)} {step : Step} {nodeSteps : List NodeStep} {round : Round}
  {c : Chapter} {d : Drive} {data : ReturnData}

/-- Some data overwritten by what the rounds returned that have come to an end. -/
def merged (p : Proceedings) (data : ReturnData) : ReturnData :=
  (p.concluded.flatMap Chapter.returned).foldl Dict.merge data

theorem merged_conclude (scene : Scene) (u : Turn) (c : Chapter) (data : ReturnData) :
    (p.conclude scene u c).merged data = c.returned.foldl Dict.merge (p.merged data) := by
  rw [merged, conclude, List.flatMap_append, List.foldl_append, List.flatMap_singleton, merged]

/-- **A move takes over what a round returned** if the round comes to its end, and nothing otherwise. -/
theorem Next.merged (kept : p.Kept d step nodeSteps) (next : Next s p scene motion sent q)
    (merged : p.turn.drive.op.returnData = p.merged data) : q.turn.drive.op.returnData = q.merged data := by
  by_cases underWay : p.turn.verdict = .underWay
  · obtain ⟨round, c, here⟩ := kept.underWay underWay
    have order := kept.sound step nodeSteps round here.inRound
    cases next.stage here with
    | idle desk later none => exact merged
    | settles desk later took note patient busy saved =>
      rw [note]
      exact merged
    | @ends lane outcome taken noted sent desk later took note patient atEnd saved =>
      have returned := (here.tells.onward order noted step took).returned
      have same : noted.op.returnData = p.turn.drive.op.returnData := by
        rw [note]
        rfl
      rw [merged_conclude, conclude, Drive.returnData_concludeRound, returned, same, merged]
    | @finalizes lane outcome taken noted swept sent desk later took note gaveUp sweep saved =>
      have returned := (here.tells.take took).returned_swept Round.givenUp
      have same : swept.op.returnData = p.turn.drive.op.returnData := by
        rw [sweep, note]
        rfl
      rw [merged_conclude, conclude, Drive.returnData_concludeRound, returned, same, merged]
    | works desk i later speaks => exact merged
    | asks => exact merged
    | abandons desk later requested saved => exact merged
  · obtain ⟨-, rfl⟩ := next.asked_of_decided underWay
    exact merged

theorem Run.merged (run : Run s p history sent q) (kept : p.Kept d step nodeSteps)
    (merged : p.turn.drive.op.returnData = p.merged data) : q.turn.drive.op.returnData = q.merged data := by
  induction run with
  | refl => exact merged
  | snoc run next ih => exact next.merged (run.kept kept) ih

theorem merged_opening (s : Settings) (scene : Scene) (desk : Desk) (d : Drive) (step : Step)
    (nodeSteps : List NodeStep) :
    (opening s scene desk d step nodeSteps).turn.drive.op.returnData
      = (opening s scene desk d step nodeSteps).merged d.op.returnData := by
  by_cases empty : nodeSteps = []
  · subst empty
    have first : (opening s scene desk d step []).turn.drive.op.returnData = d.op.returnData := by
      rw [opening, Drive.firstRound_nil, Drive.returnData_concludeRound]
      rfl
    exact first
  · rw [opening, Drive.firstRound_of_ne_nil s scene desk d step nodeSteps empty, if_neg empty]
    rfl

/-! ### What envelopes carry -/

theorem Next.rounds_le (next : Next s p scene motion sent q) : p.turn.drive.rounds ≤ q.turn.drive.rounds :=
  next.move.rounds_le

theorem Run.rounds_le (run : Run s p history sent q) : p.turn.drive.rounds ≤ q.turn.drive.rounds :=
  run.course.rounds_le

/-- **Within a round** the data stays as it is, and every envelope carries it. -/
theorem Next.carries (kept : p.Kept d step nodeSteps) (next : Next s p scene motion sent q) :
    (q.turn.verdict = .underWay → q.turn.drive.rounds = p.turn.drive.rounds →
      q.turn.drive.op.returnData = p.turn.drive.op.returnData) ∧
    ∀ nodeId envelope, .send nodeId envelope ∈ sent →
      p.turn.verdict = .underWay ∧ envelope.returnData = p.turn.drive.op.returnData := by
  have silent {sent : List Effect} (saved : ∃ ops : List Operation, sent = ops.map .save) (nodeId : String)
      (envelope : Envelope) (member : .send nodeId envelope ∈ sent) :
      p.turn.verdict = .underWay ∧ envelope.returnData = p.turn.drive.op.returnData := by
    obtain ⟨ops, rfl⟩ := saved
    simp at member
  by_cases underWay : p.turn.verdict = .underWay
  · obtain ⟨round, c, here⟩ := kept.underWay underWay
    cases next.stage here with
    | idle desk later none => exact ⟨fun _ _ => rfl, fun _ _ member => nomatch member⟩
    | settles desk later took note patient busy saved =>
      refine ⟨fun _ _ => ?_, silent saved⟩
      rw [note]
      rfl
    | ends desk later took note patient atEnd saved =>
      refine ⟨fun goesOn same => ?_, silent saved⟩
      refine absurd (endsRound_concludeRound _ ?_) (not_endsRound goesOn same)
      rw [note]
      rfl
    | finalizes desk later took note gaveUp sweep saved =>
      refine ⟨fun goesOn same => ?_, silent saved⟩
      refine absurd (endsRound_concludeRound _ ?_) (not_endsRound goesOn same)
      rw [sweep, note]
      rfl
    | works desk i later speaks =>
      refine ⟨fun _ _ => rfl, fun nodeId envelope member => ?_⟩
      obtain ⟨lane, -, -, k, task, -, same⟩ := speaks.own here.faithful _ member
      cases same
      exact ⟨underWay, here.data⟩
    | asks => exact ⟨fun _ _ => rfl, fun _ _ member => nomatch member⟩
    | abandons desk later requested saved => exact ⟨fun goesOn => (nomatch goesOn), silent saved⟩
  · obtain ⟨rfl, rfl⟩ := next.asked_of_decided underWay
    exact ⟨fun _ _ => rfl, fun _ _ member => nomatch member⟩

theorem Run.carries (run : Run s p history sent q) (kept : p.Kept d step nodeSteps)
    (same : q.turn.drive.rounds = p.turn.drive.rounds) :
    (q.turn.verdict = .underWay → q.turn.drive.op.returnData = p.turn.drive.op.returnData) ∧
    ∀ nodeId envelope, .send nodeId envelope ∈ sent →
      envelope.returnData = p.turn.drive.op.returnData := by
  induction run with
  | refl => exact ⟨fun _ => rfl, fun _ _ member => nomatch member⟩
  | @snoc q r history sent more scene motion run next ih =>
    have between : q.turn.drive.rounds = p.turn.drive.rounds :=
      Nat.le_antisymm (next.rounds_le.trans same.le) run.rounds_le
    obtain ⟨data, old⟩ := ih between
    obtain ⟨data', new⟩ := next.carries (run.kept kept)
    refine ⟨fun underWay => ?_, fun nodeId envelope member => ?_⟩
    · exact (data' underWay (same.trans between.symm)).trans (data (next.move.underWay_of underWay))
    · rcases List.mem_append.1 member with earlier | latest
      · exact old nodeId envelope earlier
      · obtain ⟨underWay, carried⟩ := new nodeId envelope latest
        exact carried.trans (data underWay)

/-- **What a step adds to the returned data.** Whatever happens while a step is run, the data is what it was
before the step, overwritten by what the rounds returned that have come to an end, the oldest first, and
of each round by what its node steps returned that succeeded, in the order of the step. Every round that was
begun is among these once the step is decided, but for a last one that was cancelled. Until a round
comes to its end every envelope carries the data as it was when the round began. In another run of the
step, in another world and in any order, the same outcomes give the same data. -/
theorem return_data_by_round (s : Settings) (scene : Scene) (desk : Desk) (d : Drive) (step : Step)
    (nodeSteps : List NodeStep) (history : List (Scene × Motion)) (sent : List Effect) (p : Proceedings)
    (run : Run s (opening s scene desk d step nodeSteps) history sent p) :
    p.turn.drive.op.returnData = (p.concluded.flatMap Chapter.returned).foldl Dict.merge d.op.returnData ∧
    (∀ c ∈ p.concluded, c.Complete ∧ (c.called.map Prod.snd).Sublist nodeSteps ∧
      ∀ i closing, c.closing? i = some closing → closing.disposition ≠ .succeeded → closing.data? = none) ∧
    p.turn.drive.rounds = d.rounds + p.chapters.length ∧
    (p.turn.verdict ≠ .underWay → p.turn.verdict ≠ .stopped .cancelled → p.chapters = p.concluded) ∧
    (p.turn.verdict = .stopped .cancelled → ∃ c, p.chapters = p.concluded ++ [c] ∧ c.Complete) ∧
    (∀ later more q, Run s p later more q → q.turn.drive.rounds = p.turn.drive.rounds →
      ∀ nodeId envelope, .send nodeId envelope ∈ more →
        envelope.returnData = p.turn.drive.op.returnData) ∧
    ∀ s' scene' desk' d' history' sent' q,
      Run s' (opening s' scene' desk' d' step nodeSteps) history' sent' q →
      d'.op.returnData = d.op.returnData → List.Forall₂ Chapter.Agrees q.concluded p.concluded →
      q.turn.drive.op.returnData = p.turn.drive.op.returnData := by
  have kept := run.kept (kept_opening s scene desk d step nodeSteps)
  have data := run.merged (kept_opening s scene desk d step nodeSteps) (merged_opening ..)
  refine ⟨data, fun c member => ?_, kept.rounds, fun decided done => ?_, fun cancelled => ?_, ?_, ?_⟩
  · obtain ⟨complete, inOrder⟩ := kept.concluded c member
    refine ⟨complete, inOrder, fun i closing _ failed => ?_⟩
    cases none : closing.data? with
    | none => rfl
    | some data => exact absurd (closing.succeeded_of_data? none) failed
  · rw [chapters, kept.ended decided done, Option.toList_none, List.append_nil]
  · obtain ⟨c, here, complete⟩ := kept.cancelled cancelled
    exact ⟨c, by rw [chapters, here, Option.toList_some], complete⟩
  · intro later more q further same
    exact (further.carries kept same).2
  · intro s' scene' desk' d' history' sent' q other before agrees
    have data' := other.merged (kept_opening s' scene' desk' d' step nodeSteps) (merged_opening ..)
    rw [data, data', merged, merged, flatMap_returned agrees, before]

end Proceedings

/-! ### Three nodes that are asked the same -/

namespace Sample

/-- An engine that runs all node steps of a round at a time. -/
def abreast : Settings := { settings with maxParallel := 0 }

def ask (node : String) (tasks : Nat) : NodeStep :=
  .forNode ("ask " ++ node) node (List.replicate tasks (.runCommand ⟨default, ["hostname"], false⟩))

/-- The last of the nodes has two tasks. -/
def asks : List NodeStep := [ask "a" 1, ask "b" 1, ask "c" 2]

def askStep : Step := .fixed "ask" asks

/-- Something has been returned before the step. -/
def asker : Drive := { drive with op := { drive.op with returnData := .single "last" "nobody" } }

def atAsking : Proceedings := .opening abreast scene desk asker askStep asks

/-- What a node returns: under a key of its own, and under one that all of them have. -/
def told (node : String) : ReturnData := (Dict.single "last" node).insert node "up"

/-- A reply to the node step with a number. -/
def reply (number : Nat) (node : String) (index : UInt64) (status : ReplyStatus) : Reply :=
  ⟨"op", status, "exit 1", told node, node, Identifiers.text number, index⟩

/-- A reply comes, if there is one, and the node step at a position goes on. -/
def visit (p : Proceedings) (reply? : Option Reply) (i : Nat) : Proceedings :=
  let router := (reply?.map fun r => (p.turn.desk.router.route r).2).getD p.turn.desk.router
  let moved := p.turn.drive.work abreast scene { p.turn.desk with router } p.turn.drive.rounds i
  { p with turn := ⟨.underWay, moved.1, moved.2⟩ }

/-- All are asked. The second node answers first, and the first one last; in between the third one does its
first task and fails at the other. -/
def visits : List (Option Reply × Nat) :=
  [(none, 0), (none, 1), (none, 2), (some (reply 1 "b" 0 .successful), 1), (some (reply 2 "c" 0 .successful), 2),
    (some (reply 2 "c" 1 .error), 2), (some (reply 0 "a" 0 .successful), 0)]

def heard : Proceedings := visits.foldl (fun p v => visit p v.1 v.2) atAsking

/-- The turn after the outcome that was handed in first is settled. -/
def settled (t : Turn) : Turn := Drive.settle abreast scene t.desk t.drive askStep asks (roundOf t)

def minuted (p : Proceedings) : Chapter :=
  (p.current?.getD ⟨[], scene.unreachable, []⟩).add (p.turn.drive.minutes scene askStep (roundOf p.turn))

/-- The outcome that was handed in first is settled, and the round goes on. -/
def onward (p : Proceedings) : Proceedings := { p with turn := settled p.turn, current? := some (minuted p) }

/-- The second node is settled, then the third. -/
def settledTwice : Proceedings := onward (onward heard)

/-- And then the first, which ends the round. -/
def settledAll : Proceedings := settledTwice.conclude scene (settled settledTwice.turn) (minuted settledTwice)

theorem run_visits {p : Proceedings} {round : Round} (inRound : p.turn.InRound askStep asks round)
    (visits : List (Option Reply × Nat)) :
    ∃ history sent, Proceedings.Run abreast p history sent (visits.foldl (fun p v => visit p v.1 v.2) p) ∧
      (visits.foldl (fun p v => visit p v.1 v.2) p).turn.desk.effects = p.turn.desk.effects ++ sent := by
  induction visits generalizing p round with
  | nil => exact ⟨[], [], .refl, (List.append_nil _).symm⟩
  | cons v rest ih =>
    let desk : Desk :=
      { p.turn.desk with router := (v.1.map fun r => (p.turn.desk.router.route r).2).getD p.turn.desk.router }
    obtain ⟨sent, speaks⟩ := Round.speaks_work abreast scene desk round v.2
    have went := Drive.work_dispatching abreast scene desk v.2 inRound.2
    have effects : (p.turn.drive.work abreast scene desk p.turn.drive.rounds v.2).2.effects
        = desk.effects ++ sent := by
      rw [went]
      exact speaks.effects
    have next : Proceedings.Next abreast p scene (.work v.2) sent (visit p v.1 v.2) :=
      .works scene desk v.2 inRound (Nat.le_refl _) rfl effects
    have within : (visit p v.1 v.2).turn.InRound askStep asks (round.work abreast scene desk v.2).1 :=
      ⟨rfl, congrArg (fun moved => moved.1.phase) went⟩
    obtain ⟨history, more, run, further⟩ := ih within
    refine ⟨_, _, (Proceedings.Run.refl.snoc next).trans run, further.trans ?_⟩
    rw [List.nil_append, ← List.append_assoc]
    exact congrArg (· ++ more) effects

theorem next_settled {p : Proceedings} (inRound : p.turn.InRound askStep asks (roundOf p.turn))
    (here : p.current?.isSome) :
    ∃ sent,
      (¬ Turn.EndsRound p.turn (settled p.turn) → Proceedings.Next abreast p scene .settle sent (onward p)) ∧
      (Turn.EndsRound p.turn (settled p.turn) → Proceedings.Next abreast p scene .settle sent
        (p.conclude scene (settled p.turn) (minuted p))) := by
  obtain ⟨c, here⟩ := Option.isSome_iff_exists.1 here
  obtain ⟨⟨ops, effects⟩, -⟩ :=
    Drive.saves_settle abreast scene p.turn.desk p.turn.drive askStep asks (roundOf p.turn)
  rw [onward, minuted, here]
  exact ⟨_, fun goesOn => .settles scene p.turn.desk inRound here (Nat.le_refl _) rfl effects goesOn,
    fun ends => .concludes scene p.turn.desk inRound here (Nat.le_refl _) rfl effects ends⟩

end Sample

open Sample in
/-- The outcomes are settled in another order than that of the step, and the data is as if they were not: the
second node counts where both have a key, and what the third one did returns nothing. -/
theorem sample_merged :
    settledAll.concluded.map Chapter.outcomes = [[.succeeded (told "b"), .failed "exit 1", .succeeded (told "a")]] ∧
    settledAll.turn.drive.op.returnData = ((Dict.single "last" "b").insert "a" "up").insert "b" "up" ∧
    ∃ history sent envelope, Proceedings.Run abreast atAsking history sent settledAll ∧
      .send "a" envelope ∈ sent ∧ envelope.returnData = .single "last" "nobody" := by
  have inRound : atAsking.turn.InRound askStep asks (roundOf atAsking.turn) := ⟨rfl, rfl⟩
  obtain ⟨history, sent, run, effects⟩ := run_visits inRound visits
  have heard_inRound : heard.turn.InRound askStep asks (roundOf heard.turn) := ⟨rfl, rfl⟩
  have once_inRound : (onward heard).turn.InRound askStep asks (roundOf (onward heard).turn) := ⟨rfl, rfl⟩
  have twice_inRound : settledTwice.turn.InRound askStep asks (roundOf settledTwice.turn) := ⟨rfl, rfl⟩
  have goesOn : ¬ Turn.EndsRound heard.turn (settled heard.turn) := Proceedings.not_endsRound rfl rfl
  have goesOn' : ¬ Turn.EndsRound (onward heard).turn settledTwice.turn := Proceedings.not_endsRound rfl rfl
  have decided : (settled settledTwice.turn).verdict ≠ .underWay := fun underWay => nomatch underWay
  obtain ⟨first, once, -⟩ := next_settled heard_inRound rfl
  obtain ⟨second, twice, -⟩ := next_settled once_inRound rfl
  obtain ⟨third, -, atEnd⟩ := next_settled twice_inRound rfl
  have whole := ((run.snoc (once goesOn)).snoc (twice goesOn')).snoc (atEnd (.inl decided))
  obtain ⟨data, -⟩ := Proceedings.return_data_by_round abreast scene Sample.desk asker askStep asks _ _ _ whole
  obtain ⟨-, -, -, -, -, carried, -⟩ :=
    Proceedings.return_data_by_round abreast scene Sample.desk asker askStep asks _ _ _ .refl
  have sameRound : settledAll.turn.drive.rounds = atAsking.turn.drive.rounds := rfl
  obtain ⟨envelope, sends⟩ : ∃ envelope, heard.turn.desk.effects.head? = some (.send "a" envelope) := ⟨_, rfl⟩
  rw [show heard.turn.desk.effects = sent from effects] at sends
  have member : .send "a" envelope ∈ sent ++ first ++ second ++ third := by
    simp [List.mem_of_head? sends]
  exact ⟨rfl, data.trans rfl, _, _, envelope, whole, member, carried _ _ _ whole sameRound "a" envelope member⟩

end Muster.Engine
