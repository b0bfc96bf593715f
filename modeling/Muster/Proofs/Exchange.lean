import Muster.Proofs.Session

/-!
# A node step asks one task at a time

While a node step waits, every talk but the last was answered with success and the mailbox holds what
the last one has heard and not read (`Waits`). A look takes the first reply that answers the task of the
last talk, if there is one, so replies to other tasks, redelivered or premature, move nothing. When the
node step has ended (`Ends`) the log is closed, and it tells why.

Once the deadline has come no look leaves the node step as it was, so it has ended after as many looks as
there are tasks (`Orderly.left_run`), and a clock that does not leave out the deadline finds it ended there
(`OnTime.run`).
-/

set_option autoImplicit false

namespace Muster.Engine

open ReplyRouter (Traffic)

section

variable {s : Settings} {c : RoundContext} {id : String} {n : NodeStep} {deadline : Nat}
  {x : Session} {e : Exchange} {log : List Note} {router : ReplyRouter} {done rest : List Talk}
  {last : Talk} {answers : List (Nat × Reply)} {m : Mailbox} {outcome : Outcome}

/-! ### Waiting and ended -/

/-- What was asked and answered: envelopes went out in the order of the tasks, and those in `done` were
answered with success. -/
structure Spoken (s : Settings) (c : RoundContext) (id : String) (n : NodeStep) (log : List Note)
    (done rest : List Talk) (answers : List (Nat × Reply)) : Prop where
  talks : talks log = done ++ rest
  inOrder : (done ++ rest).map Talk.addressed = (asked s c id n).take (done ++ rest).length
  answered : Answered id done answers

/-- A node step waits for the answer to the task of its last talk. -/
structure Waits (s : Settings) (c : RoundContext) (id : String) (n : NodeStep) (deadline : Nat)
    (x : Session) (e : Exchange) (done : List Talk) (last : Talk) (answers : List (Nat × Reply))
    (m : Mailbox) : Prop where
  standing : x.standing = .waiting e
  spoken : Spoken s c id n x.log done [last] answers
  index : e.index = done.length
  tasks : ∃ task, n.tasks.drop done.length = task :: e.rest
  nodeStepId : e.nodeStepId = id
  nodeId : e.nodeId = n.nodeId
  deadline : e.deadline = deadline
  data : e.data = gathered answers
  sound : x.router.Sound
  mailbox : x.router.mailbox? e.handle = some m
  owner : m.nodeStepId = id
  /-- What was read of the last talk answers other tasks; the rest of it is in the mailbox. -/
  unread : ∃ skipped pending, last.heard = skipped ++ pending ∧ pending.map Prod.snd = m.replies ∧
    ∀ a ∈ skipped, a.2.taskIndex.toNat ≠ done.length
  carries : ∀ a ∈ last.heard, a.2.nodeStepId = id
  noEnd : ∀ note ∈ x.log, note.isEnd = false

/-- A node step has ended; at most one talk was left without a successful answer. -/
structure Ends (s : Settings) (c : RoundContext) (id : String) (n : NodeStep) (x : Session)
    (outcome : Outcome) (done rest : List Talk) (answers : List (Nat × Reply)) : Prop where
  standing : x.standing = .ended outcome
  spoken : Spoken s c id n x.log done rest answers
  closed : ∃ earlier now, x.log = earlier ++ [.ended now outcome] ∧ ∀ note ∈ earlier, note.isEnd = false
  one : rest.length ≤ 1
  succeeded : ∀ data, outcome = .succeeded data →
    rest = [] ∧ done.length = n.tasks.length ∧ data = gathered answers
  failed : ∀ last a, rest = [last] → last.answer done.length = some a →
    a.2.isSuccess = false ∧ outcome = .failed a.2.message

/-- Every session is in one of the two. -/
def Orderly (s : Settings) (c : RoundContext) (id : String) (n : NodeStep) (deadline : Nat) (x : Session) :
    Prop :=
  (∃ e done last answers m, Waits s c id n deadline x e done last answers m) ∨
  ∃ outcome done rest answers, Ends s c id n x outcome done rest answers

/-! ### The next task goes out -/

theorem length_asked : (asked s c id n).length = n.tasks.length := by simp [asked]

theorem Spoken.length_le (h : Spoken s c id n log done rest answers) :
    (done ++ rest).length ≤ n.tasks.length := by
  have lengths := congrArg List.length h.inOrder
  rw [List.length_map, List.length_take, length_asked] at lengths
  omega

theorem take_asked {task : Task} {later : List Task} (here : n.tasks.drop done.length = task :: later)
    (inOrder : done.map Talk.addressed = (asked s c id n).take done.length) (now : Nat) :
    let talk : Talk := ⟨now, n.nodeId, Exchange.envelope s c id done.length task, []⟩
    (done ++ [talk]).map Talk.addressed = (asked s c id n).take (done ++ [talk]).length := by
  intro talk
  have found : n.tasks[done.length]? = some task := by
    rw [← List.head?_drop, here]
    rfl
  have next : (asked s c id n)[done.length]? = some talk.addressed := by
    simp [asked, List.getElem?_map, List.getElem?_zipIdx, found, Talk.addressed, talk]
  rw [List.map_append, inOrder, List.length_append, List.length_singleton, List.take_add_one, next]
  rfl

/-- Once every task so far is answered the next one goes out, or the node step ends. -/
theorem orderly_dispatch {scene : Scene} {tasks : List Task} (spoken : Spoken s c id n log done [] answers)
    (tasks_eq : n.tasks.drop done.length = tasks) (nodeStepId : e.nodeStepId = id)
    (nodeId : e.nodeId = n.nodeId) (due : e.deadline = deadline) (data : e.data = gathered answers)
    (sound : router.Sound) (mailbox : router.mailbox? e.handle = some m) (owner : m.nodeStepId = id)
    (noEnd : ∀ note ∈ log, note.isEnd = false) :
    Orderly s c id n deadline
      (Session.after scene.now (Exchange.dispatch s c scene router e done.length tasks) log) := by
  have inOrder := spoken.inOrder
  rw [List.append_nil] at inOrder
  have said := spoken.talks
  rw [List.append_nil] at said
  have ended (outcome : Outcome)
      (succeeded : ∀ data, outcome = .succeeded data →
        done.length = n.tasks.length ∧ data = gathered answers) :
      Orderly s c id n deadline
        (Session.after scene.now (Exchange.conclude router e.handle outcome) log) := by
    rw [Session.after_conclude]
    exact .inr ⟨outcome, done, [], answers, rfl,
      ⟨(talks_ended log scene.now outcome).trans spoken.talks, spoken.inOrder, spoken.answered⟩,
      ⟨log, scene.now, rfl, noEnd⟩, Nat.zero_le _, fun data same => ⟨rfl, succeeded data same⟩, by simp⟩
  cases tasks with
  | nil =>
    rw [Exchange.dispatch]
    refine ended _ fun data' same => ?_
    have short := spoken.length_le
    rw [List.append_nil] at short
    rw [List.drop_eq_nil_iff] at tasks_eq
    simp only [Outcome.succeeded.injEq] at same
    exact ⟨by omega, same ▸ data⟩
  | cons task later =>
    rw [Exchange.dispatch]
    split
    · rw [Session.after_send, nodeId, nodeStepId]
      let talk : Talk := ⟨scene.now, n.nodeId, Exchange.envelope s c id done.length task, []⟩
      refine .inl ⟨⟨id, n.nodeId, e.handle, e.deadline, done.length, later, e.data⟩, done, talk, answers,
        { m with replies := [] }, rfl, ⟨?_, take_asked tasks_eq inOrder scene.now, spoken.answered⟩, rfl,
        ⟨task, tasks_eq⟩, rfl, rfl, due, data, sound.setReplies _ _, ?_, owner, ⟨[], [], rfl, rfl, by simp⟩,
        by simp [talk], ?_⟩
      · rw [talks_sent, said]
      · simp [ReplyRouter.discard, ReplyRouter.mailbox?_setReplies, mailbox]
      · intro note member
        rcases List.mem_append.1 member with old | new
        · exact noEnd note old
        · rw [List.mem_singleton.1 new]
          rfl
    · refine ended _ fun data' same => ?_
      cases same

/-! ### A look into the mailbox -/

theorem head?_dropWhile_ne {α : Type} (f : α → Nat) (k : Nat) (l : List α) :
    (l.dropWhile fun a => decide (f a ≠ k)).head? = l.find? fun a => decide (f a = k) := by
  induction l with
  | nil => rfl
  | cons a rest ih =>
    by_cases here : f a = k
    · simp [here]
    · simpa [here] using ih

/-- The first reply in the mailbox that answers the outstanding task is the first one heard. -/
theorem Waits.answer_eq (h : Waits s c id n deadline x e done last answers m) :
    (last.answer done.length).map Prod.snd
      = ((x.router.replies e.handle).dropWhile fun r => r.taskIndex.toNat ≠ e.index).head? := by
  obtain ⟨skipped, pending, heard, unread, others⟩ := h.unread
  have none : (skipped.find? fun a => decide (a.2.taskIndex.toNat = done.length)) = none := by
    rw [List.find?_eq_none]
    intro a member
    simpa using others a member
  rw [ReplyRouter.replies_of_mailbox? h.mailbox, head?_dropWhile_ne, ← unread, List.find?_map, h.index,
    Talk.answer, heard, List.find?_append, none, Option.none_or]
  rfl

theorem Waits.carries_answer (h : Waits s c id n deadline x e done last answers m) {a : Nat × Reply}
    (answer : last.answer done.length = some a) : a.2.nodeStepId = id :=
  h.carries a (List.mem_of_find?_eq_some answer)

/-- A look that finds an error ends the node step with its message. -/
theorem Waits.resume_error (h : Waits s c id n deadline x e done last answers m) {a : Nat × Reply}
    (answer : last.answer done.length = some a) (failed : a.2.isSuccess = false) (scene : Scene) :
    e.resume s c scene x.router = Exchange.conclude x.router e.handle (.failed a.2.message) := by
  have first := h.answer_eq
  rw [answer, Option.map_some] at first
  rw [Exchange.resume]
  split
  · next none =>
    rw [none] at first
    cases first
  · next reply later found =>
    rw [found, List.head?_cons] at first
    obtain rfl := Option.some.inj first
    rw [if_neg (by simp [failed])]

/-- As long as there is no answer, a look asks first whether one can still come, and then the time. -/
theorem Waits.resume_unanswered (h : Waits s c id n deadline x e done last answers m)
    (unanswered : last.answer done.length = none) (scene : Scene) :
    e.resume s c scene x.router =
      if x.router.reaches e.handle = false then
        Exchange.conclude (x.router.discard e.handle) e.handle (.failed "reply channel closed")
      else if deadline ≤ scene.now then
        Exchange.conclude (x.router.discard e.handle) e.handle .timedOut
      else ⟨.waiting e, x.router.discard e.handle, []⟩ := by
  have first := h.answer_eq
  rw [unanswered, Option.map_none] at first
  have nothing := List.head?_eq_none_iff.1 first.symm
  rw [Exchange.resume]
  split
  · simp only [ReplyRouter.reaches_discard, h.deadline]
  · next reply later found =>
    rw [found] at nothing
    cases nothing

/-- **A look** takes the answer to the outstanding task, or gives up, or changes nothing. -/
theorem Waits.look (h : Waits s c id n deadline x e done last answers m) (scene : Scene) :
    Orderly s c id n deadline (Session.after scene.now (e.resume s c scene x.router) x.log) := by
  have ended (outcome : Outcome) (fails : ∀ data, outcome ≠ .succeeded data)
      (failed : ∀ a, last.answer done.length = some a →
        a.2.isSuccess = false ∧ outcome = .failed a.2.message) (router : ReplyRouter) :
      Orderly s c id n deadline
        (Session.after scene.now (Exchange.conclude router e.handle outcome) x.log) := by
    rw [Session.after_conclude]
    refine .inr ⟨outcome, done, [last], answers, rfl,
      ⟨(talks_ended x.log scene.now outcome).trans h.spoken.talks, h.spoken.inOrder, h.spoken.answered⟩,
      ⟨x.log, scene.now, rfl, h.noEnd⟩, Nat.le_refl _, fun data same => absurd same (fails data), ?_⟩
    intro other a same answer
    simp only [List.cons.injEq, and_true] at same
    exact failed a (same ▸ answer)
  have first := h.answer_eq
  cases answer : last.answer done.length with
  | none =>
    have unanswered (outcome : Outcome) : ∀ a, last.answer done.length = some a →
        a.2.isSuccess = false ∧ outcome = .failed a.2.message := by
      intro a found
      rw [answer] at found
      cases found
    rw [h.resume_unanswered answer]
    split
    · exact ended _ (by simp) (unanswered _) _
    · split
      · exact ended _ (by simp) (unanswered _) _
      · -- Everything that was heard so far is read now, and answers other tasks.
        rw [Session.after_wait]
        refine .inl ⟨e, done, last, answers, { m with replies := [] }, rfl, h.spoken, h.index, h.tasks,
          h.nodeStepId, h.nodeId, h.deadline, h.data, h.sound.setReplies _ _, ?_, h.owner,
          ⟨last.heard, [], by simp, rfl, ?_⟩, h.carries, h.noEnd⟩
        · simp [ReplyRouter.discard, ReplyRouter.mailbox?_setReplies, h.mailbox]
        · intro a member
          have other := List.find?_eq_none.1 answer a member
          simpa using other
  | some a =>
    cases success : a.2.isSuccess with
    | false =>
      rw [h.resume_error answer success]
      refine ended _ (by simp) (fun b found => ?_) _
      rw [answer] at found
      obtain rfl := Option.some.inj found
      exact ⟨success, rfl⟩
    | true =>
      rw [answer, Option.map_some] at first
      rw [Exchange.resume]
      split
      · next none =>
        rw [none] at first
        cases first
      · next reply later found =>
        rw [found, List.head?_cons] at first
        obtain rfl := Option.some.inj first
        rw [if_pos success]
        obtain ⟨task, tasks⟩ := h.tasks
        have onward : n.tasks.drop (done ++ [last]).length = e.rest := by
          rw [List.length_append, List.length_singleton, ← List.tail_drop, tasks]
          rfl
        have spoken : Spoken s c id n x.log (done ++ [last]) [] (answers ++ [a]) :=
          ⟨by rw [List.append_nil]; exact h.spoken.talks, by rw [List.append_nil]; exact h.spoken.inOrder,
            h.spoken.answered.snoc answer (h.carries_answer answer) success⟩
        have index : e.index + 1 = (done ++ [last]).length := by
          rw [h.index, List.length_append, List.length_singleton]
        rw [index]
        refine orderly_dispatch spoken onward h.nodeStepId h.nodeId h.deadline ?_ h.sound h.mailbox h.owner
          h.noEnd
        rw [gathered_snoc, h.data]

/-! ### Every session is orderly -/

theorem orderly_start (sound : router.Sound) (scene : Scene) :
    Orderly s c id n (scene.now + n.timeout.getD s.nodeStepTimeout)
      (Session.start s c scene router id n) := by
  have spoken : Spoken s c id n [] [] [] [] := ⟨rfl, by simp, answered_nil⟩
  have mailbox := sound.mailbox?_register id
  exact orderly_dispatch spoken rfl rfl rfl rfl rfl (sound.register id) mailbox rfl (by simp)

theorem Orderly.next (h : Orderly s c id n deadline x) (scene : Scene) (happening : Happening) :
    Orderly s c id n deadline (x.next s c scene happening) := by
  rcases h with ⟨e, done, last, answers, m, h⟩ | ⟨outcome, done, rest, answers, h⟩
  · cases happening with
    | look =>
      rw [Session.next, h.standing]
      exact h.look scene
    | traffic t =>
      rw [Session.next, h.standing]
      simp only
      split
      · next spares =>
        obtain ⟨mailbox, carries⟩ := h.sound.mailbox?_bear h.mailbox spares
        have talks := talks_heard h.spoken.talks scene.now (x.router.delivered e.handle t)
        obtain ⟨skipped, pending, heard, unread, others⟩ := h.unread
        let new := (x.router.delivered e.handle t).map fun r => (scene.now, r)
        refine .inl ⟨e, done, { last with heard := last.heard ++ new }, answers, _, rfl,
          ⟨talks, ?_, h.spoken.answered⟩, h.index, h.tasks, h.nodeStepId, h.nodeId, h.deadline, h.data,
          h.sound.bear t, mailbox, h.owner, ⟨skipped, pending ++ new, ?_, ?_, others⟩, ?_, ?_⟩
        · have inOrder := h.spoken.inOrder
          simpa [Talk.addressed] using inOrder
        · rw [heard, List.append_assoc]
        · rw [List.map_append, unread]
          simp [new, Function.comp_def]
        · intro a member
          rcases List.mem_append.1 member with old | new
          · exact h.carries a old
          · obtain ⟨r, arrived, rfl⟩ := List.mem_map.1 new
            exact (carries r arrived).trans h.owner
        · intro note member
          rcases List.mem_append.1 member with old | new
          · exact h.noEnd note old
          · obtain ⟨r, -, rfl⟩ := List.mem_map.1 new
            rfl
      · exact .inl ⟨e, done, last, answers, m, h⟩
  · refine .inr ⟨outcome, done, rest, answers, ?_⟩
    cases happening with
    | look =>
      rw [Session.next, h.standing]
      exact h
    | traffic t =>
      rw [Session.next, h.standing]
      exact ⟨rfl, h.spoken, h.closed, h.one, h.succeeded, h.failed⟩

theorem Orderly.run (h : Orderly s c id n deadline x) (history : List (Scene × Happening)) :
    Orderly s c id n deadline (x.run s c history) := by
  induction history generalizing x with
  | nil => exact h
  | cons happening rest ih => exact ih (h.next happening.1 happening.2)

theorem Orderly.deadline_eq (h : Orderly s c id n deadline x) (waits : x.standing = .waiting e) :
    e.deadline = deadline := by
  rcases h with ⟨e', done, last, answers, m, h⟩ | ⟨outcome, done, rest, answers, h⟩
  · have same := waits.symm.trans h.standing
    simp only [Standing.waiting.injEq] at same
    rw [same]
    exact h.deadline
  · cases waits.symm.trans h.standing

/-! ### In time -/

/-- What has been noted was in time, and whoever waits is in time still. -/
structure OnTime (deadline : Nat) (x : Session) (now : Nat) : Prop where
  noted : ∀ note ∈ x.log, note.moment ≤ deadline
  waiting : ∀ e, x.standing = .waiting e → now ≤ deadline

theorem moment_of_mem_after {now : Nat} {move : Move} {note : Note}
    (member : note ∈ (Session.after now move log).log) : note ∈ log ∨ note.moment = now := by
  simp only [Session.after, Move.sends, Move.ends, List.mem_append, List.mem_filterMap] at member
  rcases member with (old | ⟨effect, -, sent⟩) | ended
  · exact .inl old
  · cases effect <;> simp only [Option.some.injEq, reduceCtorEq] at sent
    subst sent
    exact .inr rfl
  · cases standing : move.standing <;> rw [standing] at ended
    · cases ended
    · rw [List.mem_singleton] at ended
      subst ended
      exact .inr rfl

theorem moment_of_mem_next {scene : Scene} {happening : Happening} {note : Note}
    (waits : x.standing = .waiting e) (member : note ∈ (x.next s c scene happening).log) :
    note ∈ x.log ∨ note.moment = scene.now := by
  cases happening with
  | look =>
    rw [Session.next, waits] at member
    exact moment_of_mem_after member
  | traffic t =>
    rw [Session.next, waits] at member
    simp only at member
    split at member
    · rcases List.mem_append.1 member with old | new
      · exact .inl old
      · obtain ⟨r, -, rfl⟩ := List.mem_map.1 new
        exact .inr rfl
    · exact .inl member

/-- A happening before the deadline has passed leaves everything in time. -/
theorem OnTime.next {now : Nat} (h : OnTime deadline x now) {scene : Scene} (happening : Happening)
    (soon : ∀ e, x.standing = .waiting e → scene.now ≤ deadline) :
    OnTime deadline (x.next s c scene happening) scene.now := by
  cases standing : x.standing with
  | waiting e =>
    have soon := soon e standing
    refine ⟨fun note member => ?_, fun _ _ => soon⟩
    rcases moment_of_mem_next standing member with old | new
    · exact h.noted note old
    · rw [new]
      exact soon
  | ended outcome =>
    obtain ⟨ended, same⟩ := Session.standing_next_of_ended (s := s) (c := c) standing scene happening
    refine ⟨fun note member => h.noted note (same ▸ member), fun e waits => ?_⟩
    cases waits.symm.trans ended

/-- Whoever is let run at the deadline does not wait beyond it. -/
theorem OnTime.run {now : Nat} (h : OnTime deadline x now) (orderly : Orderly s c id n deadline x)
    {history : List (Scene × Happening)} (prompt : x.Prompt s c deadline now history) :
    OnTime deadline (x.run s c history) (Session.clock now history) := by
  induction history generalizing x now with
  | nil => exact h
  | cons happening rest ih =>
    obtain ⟨scene, happening⟩ := happening
    obtain ⟨forward, rests, prompt⟩ := prompt
    refine ih (h.next happening fun e waits => ?_) (orderly.next scene happening) prompt
    by_contra late
    exact Session.not_rests_of_waiting waits (Nat.le_of_eq (orderly.deadline_eq waits))
      (rests (h.waiting e waits) (Nat.lt_of_not_le late))

theorem Orderly.left_next (h : Orderly s c id n deadline x) (scene : Scene) (happening : Happening) :
    (x.next s c scene happening).left ≤ x.left - Session.looksFrom deadline [(scene, happening)] := by
  have fewer := Session.left_next (s := s) (c := c) x scene happening
  cases counts : happening.isLook && decide (deadline ≤ scene.now) with
  | false => simpa [Session.looksFrom, counts] using fewer
  | true =>
    simp only [Session.looksFrom, List.countP_singleton, counts, if_true]
    cases standing : x.standing with
    | ended outcome =>
      have ended := (Session.standing_next_of_ended (s := s) (c := c) standing scene happening).1
      simp [Session.left, ended]
    | waiting e =>
      cases happening with
      | traffic t => cases counts
      | look =>
        have late : e.deadline ≤ scene.now := by
          rw [h.deadline_eq standing]
          simpa [Happening.isLook] using counts
        exact Nat.le_sub_one_of_lt (Session.left_look standing late)

/-- Every look at the deadline or later brings the end nearer. -/
theorem Orderly.left_run (h : Orderly s c id n deadline x) (history : List (Scene × Happening)) :
    (x.run s c history).left ≤ x.left - Session.looksFrom deadline history := by
  induction history generalizing x with
  | nil => exact Nat.le_refl _
  | cons happening rest ih =>
    obtain ⟨scene, happening⟩ := happening
    have first := h.left_next scene happening
    have others := ih (h.next scene happening)
    rw [← List.singleton_append, Session.looksFrom_append]
    exact Nat.le_trans others (by omega)

/-- **The clock can pass the deadline.** Whatever comes before and after, a history is prompt in which
there are looks at the deadline, one for each task that is left. -/
theorem Orderly.prompt_of_looks (h : Orderly s c id n deadline x) {now : Nat}
    {early looks late : List (Scene × Happening)} (forward : Session.Forward now (early ++ looks ++ late))
    (atDeadline : ∀ happening ∈ looks, happening.1.now = deadline ∧ happening.2 = .look)
    (enough : x.left ≤ looks.length) : x.Prompt s c deadline now (early ++ looks ++ late) := by
  rcases List.eq_nil_or_concat looks with rfl | ⟨init, look, rfl⟩
  · obtain ⟨outcome, ended⟩ := Session.ended_of_left (Nat.le_zero.1 enough)
    exact Session.prompt_of_ended forward ended
  · rw [List.concat_eq_append] at *
    have nearer := h.left_run (early ++ (init ++ [look]))
    rw [Session.looksFrom_append, Session.looksFrom_eq_length atDeadline] at nearer
    obtain ⟨outcome, ended⟩ := Session.ended_of_left
      (show (x.run s c (early ++ (init ++ [look]))).left = 0 by omega)
    obtain ⟨first, last⟩ := Session.forward_append.1 forward
    refine Session.prompt_append.2 ⟨Session.prompt_of_early first ?_, Session.prompt_of_ended last ended⟩
    have moment := (atDeadline look (by simp)).1
    simp [Session.clock, moment]

/-! ### What a log tells -/

theorem Answered.get (h : Answered id done answers) {t : Nat} (bound : t < done.length) :
    ∃ (talk : Talk) (a : Nat × Reply), done[t]? = some talk ∧ talk.answer t = some a ∧
      a.2.nodeStepId = id ∧ a.2.isSuccess = true := by
  have found : answers[t]? = some (answers.get ⟨t, h.length ▸ bound⟩) := List.getElem?_eq_getElem _
  obtain ⟨talk, rest⟩ := h.each t _ found
  exact ⟨talk, _, rest⟩

/-- A talk that was answered with an error is the last one, and not among those answered with success. -/
theorem Spoken.eq_of_error (h : Spoken s c id n log done rest answers) (one : rest.length ≤ 1) {t : Nat}
    {talk : Talk} {a : Nat × Reply} (found : (Engine.talks log)[t]? = some talk) (answer : talk.answer t = some a)
    (error : a.2.isSuccess = false) : t = done.length ∧ rest = [talk] := by
  rw [h.talks] at found
  by_cases old : t < done.length
  · -- Its first answer was a success.
    rw [List.getElem?_append_left old] at found
    obtain ⟨talk', a', found', answer', -, success⟩ := h.answered.get old
    rw [found] at found'
    obtain rfl := Option.some.inj found'
    rw [answer] at answer'
    obtain rfl := Option.some.inj answer'
    rw [error] at success
    cases success
  · rw [List.getElem?_append_right (Nat.le_of_not_lt old)] at found
    have bound := (List.getElem?_eq_some_iff.1 found).1
    have here : t = done.length := by omega
    refine ⟨here, ?_⟩
    obtain ⟨last, rfl⟩ := List.length_eq_one_iff.1 (show rest.length = 1 by omega)
    rw [here, Nat.sub_self] at found
    simp only [List.getElem?_cons_zero, Option.some.injEq] at found
    rw [found]

theorem Ends.mem_log (h : Ends s c id n x outcome done rest answers) {now : Nat} {other : Outcome}
    (member : .ended now other ∈ x.log) : other = outcome := by
  obtain ⟨earlier, now', log, noEnd⟩ := h.closed
  rw [log] at member
  rcases List.mem_append.1 member with old | new
  · cases noEnd _ old
  · simp only [List.mem_singleton, Note.ended.injEq] at new
    exact new.2

theorem Ends.eq_nil (h : Ends s c id n x outcome done rest answers) {earlier later : List Note} {now : Nat}
    {other : Outcome} (split : x.log = earlier ++ .ended now other :: later) : later = [] := by
  obtain ⟨earlier', now', log, noEnd⟩ := h.closed
  rcases List.eq_nil_or_concat later with rfl | ⟨init, last, rfl⟩
  · rfl
  · -- The end would be among the notes before the end.
    rw [log, List.concat_eq_append, ← List.cons_append, ← List.append_assoc] at split
    have same := (List.append_inj' split rfl).1
    have member : Note.ended now other ∈ earlier' := by simp [same]
    cases noEnd _ member

theorem Orderly.end_mem_log (h : Orderly s c id n deadline x) (ended : x.standing = .ended outcome) :
    ∃ now outcome, .ended now outcome ∈ x.log := by
  rcases h with ⟨e, done, last, answers, m, h⟩ | ⟨outcome', done, rest, answers, h⟩
  · cases ended.symm.trans h.standing
  · obtain ⟨earlier, now, log, -⟩ := h.closed
    exact ⟨now, outcome', by rw [log]; simp⟩

theorem Orderly.spoken (h : Orderly s c id n deadline x) :
    ∃ done rest answers, Spoken s c id n x.log done rest answers ∧ rest.length ≤ 1 := by
  rcases h with ⟨e, done, last, answers, m, h⟩ | ⟨outcome, done, rest, answers, h⟩
  · exact ⟨done, [last], answers, h.spoken, Nat.le_refl _⟩
  · exact ⟨done, rest, answers, h.spoken, h.one⟩

theorem Orderly.inOrder (h : Orderly s c id n deadline x) :
    (talks x.log).map Talk.addressed = (asked s c id n).take (talks x.log).length := by
  obtain ⟨done, rest, answers, spoken, -⟩ := h.spoken
  rw [spoken.talks]
  exact spoken.inOrder

theorem Orderly.eq_nil (h : Orderly s c id n deadline x) {earlier later : List Note} {now : Nat}
    (split : x.log = earlier ++ .ended now outcome :: later) : later = [] := by
  rcases h with ⟨e, done, last, answers, m, h⟩ | ⟨outcome', done, rest, answers, h⟩
  · have ended := h.noEnd (.ended now outcome) (by rw [split]; simp)
    cases ended
  · exact h.eq_nil split

/-- All but the last talk were answered with success. -/
theorem Orderly.answered (h : Orderly s c id n deadline x) {t : Nat} (more : t + 1 < (talks x.log).length) :
    ∃ (talk : Talk) (a : Nat × Reply), (talks x.log)[t]? = some talk ∧ talk.answer t = some a ∧
      a.2.nodeStepId = id ∧ a.2.isSuccess = true := by
  obtain ⟨done, rest, answers, spoken, one⟩ := h.spoken
  rw [spoken.talks, List.length_append] at more
  have old : t < done.length := by omega
  rw [spoken.talks, List.getElem?_append_left old]
  exact spoken.answered.get old

/-- Success is the success of every task, and its data is theirs. -/
theorem Orderly.succeeded (h : Orderly s c id n deadline x) {now : Nat} {data : ReturnData}
    (ended : .ended now (.succeeded data) ∈ x.log) :
    (talks x.log).length = n.tasks.length ∧ ∃ answers : List (Nat × Reply),
      answers.length = n.tasks.length ∧
      (∀ (t : Nat) (a : Nat × Reply), answers[t]? = some a → ∃ talk : Talk,
        (talks x.log)[t]? = some talk ∧ talk.answer t = some a ∧ a.2.nodeStepId = id ∧
        a.2.isSuccess = true) ∧
      ∀ key, data.get? key = answers.reverse.findSome? fun a => a.2.returnData.get? key := by
  rcases h with ⟨e, done, last, answers, m, h⟩ | ⟨outcome', done, rest, answers, h⟩
  · cases h.noEnd _ ended
  · obtain ⟨rfl, length, data⟩ := h.succeeded data (h.mem_log ended).symm
    have said := h.spoken.talks
    rw [List.append_nil] at said
    rw [said]
    refine ⟨length, answers, h.spoken.answered.length.trans length, h.spoken.answered.each, fun key => ?_⟩
    rw [data, get?_gathered]

/-- An answer that is an error has ended the node step, or the next look does. -/
theorem Orderly.error (h : Orderly s c id n deadline x) {t : Nat} {talk : Talk} {a : Nat × Reply}
    (found : (talks x.log)[t]? = some talk) (answer : talk.answer t = some a) (error : a.2.isSuccess = false) :
    (talks x.log).length = t + 1 ∧
      ((∃ now, .ended now (.failed a.2.message) ∈ x.log) ∨
        ∀ later, (x.next s c later .look).log = x.log ++ [.ended later.now (.failed a.2.message)]) := by
  rcases h with ⟨e, done, last, answers, m, h⟩ | ⟨outcome', done, rest, answers, h⟩
  · obtain ⟨rfl, same⟩ := h.spoken.eq_of_error (Nat.le_refl _) found answer error
    simp only [List.cons.injEq, and_true] at same
    subst same
    refine ⟨by rw [h.spoken.talks]; simp, .inr fun later => ?_⟩
    rw [Session.next, h.standing]
    simp only
    rw [h.resume_error answer error, Session.after_conclude]
  · obtain ⟨rfl, rfl⟩ := h.spoken.eq_of_error h.one found answer error
    obtain ⟨-, outcome⟩ := h.failed talk a rfl answer
    obtain ⟨earlier, now, log, -⟩ := h.closed
    refine ⟨by rw [h.spoken.talks]; simp, .inl ⟨now, ?_⟩⟩
    rw [log, outcome]
    simp

/-- What a look shows that finds no answer. -/
theorem Orderly.unanswered (h : Orderly s c id n deadline x) {t : Nat} {talk : Talk}
    (found : (talks x.log)[t]? = some talk) (count : (talks x.log).length = t + 1)
    (unanswered : talk.answer t = none) (waits : x.standing = .waiting e) (later : Scene) :
    (x.next s c later .look).log = x.log ++
      if x.router.reaches e.handle = false then [.ended later.now (.failed "reply channel closed")]
      else if deadline ≤ later.now then [.ended later.now .timedOut]
      else [] := by
  rcases h with ⟨e', done, last, answers, m, h⟩ | ⟨outcome, done, rest, answers, h⟩
  · have same := waits.symm.trans h.standing
    simp only [Standing.waiting.injEq] at same
    subst same
    rw [h.spoken.talks, List.length_append, List.length_singleton] at count
    obtain rfl : t = done.length := by omega
    rw [h.spoken.talks, List.getElem?_concat_length] at found
    obtain rfl := Option.some.inj found
    rw [Session.next, waits]
    simp only
    rw [h.resume_unanswered unanswered]
    split
    · rw [Session.after_conclude]
    · split
      · rw [Session.after_conclude]
      · rw [Session.after_wait, List.append_nil]
  · cases waits.symm.trans h.standing

theorem onTime_start (s : Settings) (c : RoundContext) (scene : Scene) (router : ReplyRouter) (id : String)
    (n : NodeStep) : OnTime (scene.now + n.timeout.getD s.nodeStepTimeout)
      (Session.start s c scene router id n) scene.now := by
  refine ⟨fun note member => ?_, fun _ _ => Nat.le_add_right _ _⟩
  rcases moment_of_mem_after member with old | new
  · cases old
  · rw [new]
    exact Nat.le_add_right _ _

/-! ### Main theorem -/

/-- **A node step asks one task at a time and keeps to its deadline.** Its mailbox is opened at a router at
which anything may have happened, and then anything may happen: replies come, others open, empty and
close mailboxes, the node step looks. Envelopes go out in the order of the tasks, each once, and nothing
follows the end. The next task is asked only after a reply to the one before, heard since that was asked
and under the identifier of the node step, said success; the first reply that says otherwise ends the
node step with its message. When the node step succeeds it returns what these replies returned, the
last one counting under each key.

A look that finds no answer ends the node step when none can come any more, or when the deadline has
come; before that it shows nothing. So the end has come at the latest when there have been, since the
deadline, as many looks as tasks. Where the node step is let run at the deadline before the clock goes on,
everything happens by the deadline, and the end does. That is so in every history that has, at the
deadline, as many looks as there are tasks. -/
theorem node_step_in_order (s : Settings) (c : RoundContext) (before : List Traffic) (scene : Scene)
    (id : String) (n : NodeStep) (history : List (Scene × Happening)) :
    let first := Session.start s c scene (before.foldl ReplyRouter.bear .idle) id n
    let deadline := scene.now + n.timeout.getD s.nodeStepTimeout
    let x := first.run s c history
    (talks x.log).map Talk.addressed = (asked s c id n).take (talks x.log).length ∧
    (∀ earlier now outcome later, x.log = earlier ++ .ended now outcome :: later → later = []) ∧
    (∀ t, t + 1 < (talks x.log).length → ∃ (talk : Talk) (a : Nat × Reply),
      (talks x.log)[t]? = some talk ∧ talk.answer t = some a ∧ a.2.nodeStepId = id ∧ a.2.isSuccess = true) ∧
    (∀ now data, .ended now (.succeeded data) ∈ x.log →
      (talks x.log).length = n.tasks.length ∧ ∃ answers : List (Nat × Reply),
        answers.length = n.tasks.length ∧
        (∀ (t : Nat) (a : Nat × Reply), answers[t]? = some a → ∃ talk : Talk,
          (talks x.log)[t]? = some talk ∧ talk.answer t = some a ∧ a.2.nodeStepId = id ∧
          a.2.isSuccess = true) ∧
        ∀ key, data.get? key = answers.reverse.findSome? fun a => a.2.returnData.get? key) ∧
    (∀ (t : Nat) (talk : Talk) (a : Nat × Reply), (talks x.log)[t]? = some talk → talk.answer t = some a →
      a.2.isSuccess = false →
      (talks x.log).length = t + 1 ∧
      ((∃ now, .ended now (.failed a.2.message) ∈ x.log) ∨
        ∀ later, (x.next s c later .look).log = x.log ++ [.ended later.now (.failed a.2.message)])) ∧
    (∀ (t : Nat) (talk : Talk) (e : Exchange), (talks x.log)[t]? = some talk →
      (talks x.log).length = t + 1 → talk.answer t = none → x.standing = .waiting e → ∀ later : Scene,
      (x.next s c later .look).log = x.log ++
        if x.router.reaches e.handle = false then [.ended later.now (.failed "reply channel closed")]
        else if deadline ≤ later.now then [.ended later.now .timedOut]
        else []) ∧
    (n.tasks.length ≤ Session.looksFrom deadline history → ∃ now outcome, .ended now outcome ∈ x.log) ∧
    (first.Prompt s c deadline scene.now history →
      (∀ note ∈ x.log, note.moment ≤ deadline) ∧
      (∀ talk ∈ talks x.log, ∀ a ∈ talk.heard, a.1 ≤ deadline) ∧
      (deadline < Session.clock scene.now history → ∃ now outcome, .ended now outcome ∈ x.log)) ∧
    (∀ early looks late, history = early ++ looks ++ late → Session.Forward scene.now history →
      (∀ happening ∈ looks, happening.1.now = deadline ∧ happening.2 = .look) →
      n.tasks.length ≤ looks.length → first.Prompt s c deadline scene.now history) := by
  intro first deadline x
  have sound : (before.foldl ReplyRouter.bear .idle).Sound := ReplyRouter.sound_idle.foldl_bear before
  have begun : Orderly s c id n deadline first := orderly_start sound scene
  have few : first.left ≤ n.tasks.length := Session.left_start ..
  have orderly : Orderly s c id n deadline x := begun.run history
  refine ⟨orderly.inOrder, fun _ _ _ _ split => orderly.eq_nil split, fun _ more => orderly.answered more,
    fun _ _ ended => orderly.succeeded ended, fun _ _ _ found answer error => orderly.error found answer error,
    fun _ _ _ found count silent waits later => orderly.unanswered found count silent waits later,
    fun enough => ?_, fun prompt => ?_, fun early looks late split forward atDeadline enough => ?_⟩
  · have nearer : x.left ≤ first.left - Session.looksFrom deadline history := begun.left_run history
    obtain ⟨outcome, ended⟩ := Session.ended_of_left (show x.left = 0 by omega)
    exact orderly.end_mem_log ended
  · have inTime : OnTime deadline x _ := (onTime_start ..).run begun prompt
    refine ⟨inTime.noted, fun talk said a heard => inTime.noted _ (heard_mem_log said heard), fun passed => ?_⟩
    cases standing : x.standing with
    | waiting e => exact absurd (inTime.waiting e standing) (Nat.not_le_of_lt passed)
    | ended outcome => exact orderly.end_mem_log standing
  · rw [split] at forward ⊢
    exact begun.prompt_of_looks forward atDeadline (Nat.le_trans few enough)

end

/-! ### A reply that is delivered twice -/

namespace Redelivery

def settings : Settings := ⟨"h1", 30000, 0, ""⟩

def context : RoundContext := ⟨"op", default, .empty⟩

def command (text : String) : Task := .runCommand ⟨default, [text], false⟩

def nodeStep : NodeStep := .forNode "seq" "a" [command "one", command "two", command "three"]

def scene : Scene := ⟨0, fun _ => true, fun _ => false⟩

def sceneAt (now : Nat) : Scene := { scene with now }

def reply (index : UInt64) (status : ReplyStatus) (message : String) : Reply :=
  ⟨"op", status, message, .empty, "a", "id", index⟩

/-- The first task is answered twice, and the second one fails after that. -/
def history : List (Scene × Happening) :=
  [(scene, .traffic (.reply (reply 0 .successful ""))), (scene, .look),
    (scene, .traffic (.reply (reply 0 .successful ""))), (scene, .look),
    (scene, .traffic (.reply (reply 1 .error "exit 1"))), (scene, .look)]

/-- The first task is answered a second time while the answer to the second one is waited for, which
comes when the deadline has passed. -/
def silence : List (Scene × Happening) :=
  [(sceneAt 10, .traffic (.reply (reply 0 .successful ""))), (sceneAt 10, .look),
      (sceneAt 29999, .traffic (.reply (reply 0 .successful ""))), (sceneAt 29999, .look)] ++
    List.replicate 3 (sceneAt 30000, .look) ++
    [(sceneAt 30001, .traffic (.reply (reply 1 .successful ""))), (sceneAt 30002, .look)]

def last : Session := (Session.start settings context scene .idle "id" nodeStep).run settings context history

def overdue : Session := (Session.start settings context scene .idle "id" nodeStep).run settings context silence

end Redelivery

open Redelivery in
theorem redelivery_answers_nothing :
    (last.standing = .ended (.failed "exit 1") ∧ (talks last.log).length = 2 ∧
      ∀ note ∈ last.log, note.moment ≤ 30000) ∧
    overdue.log.getLast? = some (.ended 30000 .timedOut) ∧ (talks overdue.log).length = 2 ∧
      Session.clock 0 silence = 30002 ∧ (∀ note ∈ overdue.log, note.moment ≤ 30000) ∧
      ∃ now outcome, .ended now outcome ∈ overdue.log := by
  constructor
  · obtain ⟨-, -, -, -, errors, -, -, timely, -⟩ :=
      node_step_in_order Redelivery.settings context [] Redelivery.scene "id" nodeStep history
    have error : (0, reply 1 .error "exit 1").2.isSuccess = false := rfl
    obtain ⟨length, -⟩ := errors 1 _ (0, reply 1 .error "exit 1") rfl rfl error
    have forward : Session.Forward 0 history := by simp [history, Session.Forward, Redelivery.scene]
    exact ⟨rfl, length, (timely (Session.prompt_of_early forward (by decide))).1⟩
  · obtain ⟨-, -, -, -, -, -, -, timely, prompt⟩ :=
      node_step_in_order Redelivery.settings context [] Redelivery.scene "id" nodeStep silence
    have forward : Session.Forward 0 silence := by simp [silence, Session.Forward, sceneAt]
    have looks : ∀ happening ∈ List.replicate 3 (sceneAt 30000, Happening.look),
        happening.1.now = 30000 ∧ happening.2 = .look := by
      intro happening member
      rw [List.eq_of_mem_replicate member]
      exact ⟨rfl, rfl⟩
    obtain ⟨inTime, -, ends⟩ := timely (prompt _ _ _ rfl forward looks (by decide))
    exact ⟨rfl, rfl, rfl, inTime, ends (by decide)⟩

end Muster.Engine
