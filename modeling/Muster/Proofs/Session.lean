import Mathlib.Data.List.Induction
import Muster.Engine.Exchange
import Muster.Proofs.ReplyRouter

/-!
# One node step from outside

A `Session` is a node step together with the router and a log of what it sends, what is put into its
mailbox and how it ends. Between its looks others do what they like at the router. The log is read as
a list of talks, one for each envelope, with the replies that came while it was the last one sent.

Looks and traffic come at any moments. What the clock owes to a node step that has set an alarm is
`Prompt`; it does not speak of what the node step does when it is woken.
-/

set_option autoImplicit false

namespace Muster.Engine

open ReplyRouter (Traffic)

/-! ### Sessions -/

/-- What a node step shows of itself, with the moment. -/
inductive Note where
  | sent (now : Nat) (nodeId : String) (envelope : Envelope)
  /-- A reply was put into its mailbox. -/
  | heard (now : Nat) (reply : Reply)
  | ended (now : Nat) (outcome : Outcome)

namespace Note

/-- When it was. -/
def moment : Note → Nat
  | .sent now _ _ => now
  | .heard now _ => now
  | .ended now _ => now

/-- Whether it is the end. -/
def isEnd : Note → Bool
  | .ended _ _ => true
  | _ => false

end Note

namespace Move

/-- The envelopes that a move sends. -/
def sends (now : Nat) (move : Move) : List Note :=
  move.effects.filterMap fun effect =>
    match effect with
    | .send nodeId envelope => some (.sent now nodeId envelope)
    | _ => none

/-- The end of the node step, if a move leads to it. -/
def ends (now : Nat) (move : Move) : List Note :=
  match move.standing with
  | .waiting _ => []
  | .ended outcome => [.ended now outcome]

end Move

/-- A node step, the router it hears of, and what it has shown so far. -/
structure Session where
  standing : Standing
  router : ReplyRouter
  log : List Note

/-- What may happen to a session. -/
inductive Happening where
  | traffic (t : Traffic)
  /-- The node step looks into its mailbox. -/
  | look

/-- Whether it is a look. -/
def Happening.isLook : Happening → Bool
  | .traffic _ => false
  | .look => true

namespace Session

/-- The session after a move. -/
def after (now : Nat) (move : Move) (log : List Note) : Session :=
  ⟨move.standing, move.router, log ++ move.sends now ++ move.ends now⟩

theorem after_conclude (now : Nat) (router : ReplyRouter) (handle : Nat) (outcome : Outcome)
    (log : List Note) : after now (Exchange.conclude router handle outcome) log
      = ⟨.ended outcome, router.release handle, log ++ [.ended now outcome]⟩ := by
  simp [after, Exchange.conclude, Move.sends, Move.ends]

theorem after_send (now : Nat) (router : ReplyRouter) (e : Exchange) (nodeId : String)
    (envelope : Envelope) (log : List Note) : after now ⟨.waiting e, router, [.send nodeId envelope]⟩ log
      = ⟨.waiting e, router, log ++ [.sent now nodeId envelope]⟩ := by
  simp [after, Move.sends, Move.ends]

theorem after_wait (now : Nat) (router : ReplyRouter) (e : Exchange) (log : List Note) :
    after now ⟨.waiting e, router, []⟩ log = ⟨.waiting e, router, log⟩ := by
  simp [after, Move.sends, Move.ends]

/-- A node step begins. -/
def start (s : Settings) (c : RoundContext) (scene : Scene) (router : ReplyRouter) (id : String)
    (n : NodeStep) : Session :=
  after scene.now (Exchange.begin s c scene router id n) []

/-- What a happening does. Nobody else disposes of the mailbox while the node step waits. -/
def next (s : Settings) (c : RoundContext) (x : Session) (scene : Scene) : Happening → Session
  | .traffic t =>
    match x.standing with
    | .waiting e =>
      if t.Spares e.handle then
        { x with
          router := x.router.bear t
          log := x.log ++ (x.router.delivered e.handle t).map fun r => .heard scene.now r }
      else x
    | .ended _ => { x with router := x.router.bear t }
  | .look =>
    match x.standing with
    | .waiting e => after scene.now (e.resume s c scene x.router) x.log
    | .ended _ => x

/-- What a sequence of happenings does, each at its own moment. -/
def run (s : Settings) (c : RoundContext) (x : Session) (history : List (Scene × Happening)) : Session :=
  history.foldl (fun x happening => x.next s c happening.1 happening.2) x

/-- The moment of the last happening. -/
def clock (now : Nat) (history : List (Scene × Happening)) : Nat :=
  history.foldl (fun _ happening => happening.1.now) now

/-- The clock does not run back. -/
def Forward (now : Nat) : List (Scene × Happening) → Prop
  | [] => True
  | (scene, _) :: rest => now ≤ scene.now ∧ Forward scene.now rest

/-- A look at this moment changes nothing. -/
def Rests (s : Settings) (c : RoundContext) (x : Session) (moment : Nat) : Prop :=
  ∀ scene : Scene, scene.now = moment → x.next s c scene .look = x

/-- The clock does not run back, and it passes this moment only when the session rests at it. That is
what whoever sets an alarm is promised: to be let run at that moment for as long as it does anything.
What it does then, and whether it has ended after that, is left open. -/
def Prompt (s : Settings) (c : RoundContext) (moment : Nat) (x : Session) (now : Nat) :
    List (Scene × Happening) → Prop
  | [] => True
  | (scene, happening) :: rest =>
    now ≤ scene.now ∧
    (now ≤ moment → moment < scene.now → x.Rests s c moment) ∧
    Prompt s c moment (x.next s c scene happening) scene.now rest

/-- How often the node step looks at this moment or later. -/
def looksFrom (moment : Nat) (history : List (Scene × Happening)) : Nat :=
  history.countP fun happening => happening.2.isLook && decide (moment ≤ happening.1.now)

/-- How many tasks the node step has yet to hear of. -/
def left (x : Session) : Nat :=
  match x.standing with
  | .waiting e => e.rest.length + 1
  | .ended _ => 0

section Time

variable {s : Settings} {c : RoundContext} {x : Session} {e : Exchange} {outcome : Outcome}
  {history later : List (Scene × Happening)} {moment now : Nat}

theorem prompt_append : x.Prompt s c moment now (history ++ later) ↔
    x.Prompt s c moment now history ∧ (x.run s c history).Prompt s c moment (clock now history) later := by
  induction history generalizing x now with
  | nil => simp [Prompt, run, clock]
  | cons first rest ih =>
    rw [List.cons_append, Prompt, Prompt, ih, and_assoc, and_assoc]
    rfl

theorem forward_append : Forward now (history ++ later) ↔
    Forward now history ∧ Forward (clock now history) later := by
  induction history generalizing now with
  | nil => simp [Forward, clock]
  | cons first rest ih =>
    rw [List.cons_append, Forward, Forward, ih, and_assoc]
    rfl

theorem Forward.le_clock (forward : Forward now history) : now ≤ clock now history := by
  induction history generalizing now with
  | nil => exact Nat.le_refl now
  | cons first rest ih => exact Nat.le_trans forward.1 (ih forward.2)

/-- As long as the moment has not passed nothing is asked. -/
theorem prompt_of_early (forward : Forward now history) (early : clock now history ≤ moment) :
    x.Prompt s c moment now history := by
  induction history generalizing x now with
  | nil => trivial
  | cons first rest ih =>
    have here : first.1.now ≤ moment := Nat.le_trans forward.2.le_clock early
    exact ⟨forward.1, fun _ passed => absurd passed (Nat.not_lt_of_le here), ih forward.2 early⟩

theorem standing_next_of_ended (ended : x.standing = .ended outcome) (scene : Scene) (happening : Happening) :
    (x.next s c scene happening).standing = .ended outcome ∧
      (x.next s c scene happening).log = x.log := by
  cases happening <;> rw [next, ended]
  · exact ⟨rfl, rfl⟩
  · exact ⟨ended, rfl⟩

theorem rests_of_ended (ended : x.standing = .ended outcome) : x.Rests s c moment := by
  intro scene _
  rw [next, ended]

/-- Who has ended rests for ever. -/
theorem prompt_of_ended (forward : Forward now history) (ended : x.standing = .ended outcome) :
    x.Prompt s c moment now history := by
  induction history generalizing x now with
  | nil => trivial
  | cons first rest ih =>
    exact ⟨forward.1, fun _ _ => rests_of_ended ended,
      ih forward.2 (standing_next_of_ended ended first.1 first.2).1⟩

theorem looksFrom_append (moment : Nat) (history later : List (Scene × Happening)) :
    looksFrom moment (history ++ later) = looksFrom moment history + looksFrom moment later :=
  List.countP_append

theorem looksFrom_eq_length
    (looks : ∀ happening ∈ history, happening.1.now = moment ∧ happening.2 = .look) :
    looksFrom moment history = history.length := by
  refine List.countP_eq_length.2 fun happening member => ?_
  obtain ⟨here, look⟩ := looks happening member
  simp [here, look, Happening.isLook]

/-! ### Nearer to the end

Every look at the deadline or later hears of a task, or ends the node step. -/

theorem left_dispatch (s : Settings) (c : RoundContext) (scene : Scene) (router : ReplyRouter)
    (e : Exchange) (index : Nat) (tasks : List Task) (log : List Note) :
    (after scene.now (Exchange.dispatch s c scene router e index tasks) log).left ≤ tasks.length := by
  cases tasks with
  | nil =>
    rw [Exchange.dispatch, after_conclude]
    exact Nat.le_refl 0
  | cons task rest =>
    rw [Exchange.dispatch]
    split
    · rw [after_send]
      exact Nat.le_refl _
    · rw [after_conclude]
      exact Nat.zero_le _

theorem left_start (s : Settings) (c : RoundContext) (scene : Scene) (router : ReplyRouter) (id : String)
    (n : NodeStep) : (start s c scene router id n).left ≤ n.tasks.length :=
  left_dispatch ..

/-- A look hears of a task, or it is before the deadline and the node step waits on. -/
theorem after_resume (s : Settings) (c : RoundContext) (scene : Scene) (router : ReplyRouter)
    (e : Exchange) (log : List Note) :
    (after scene.now (e.resume s c scene router) log).left ≤ e.rest.length ∨
      scene.now < e.deadline ∧
        after scene.now (e.resume s c scene router) log = ⟨.waiting e, router.discard e.handle, log⟩ := by
  rw [Exchange.resume]
  split
  · dsimp only
    split
    · left
      rw [after_conclude]
      exact Nat.zero_le _
    · split
      · left
        rw [after_conclude]
        exact Nat.zero_le _
      · next early => exact .inr ⟨Nat.lt_of_not_le early, after_wait ..⟩
  · left
    split
    · exact left_dispatch s c scene router { e with data := _ } _ e.rest log
    · rw [after_conclude]
      exact Nat.zero_le _

theorem left_look (waits : x.standing = .waiting e) {scene : Scene} (late : e.deadline ≤ scene.now) :
    (x.next s c scene .look).left < x.left := by
  have before : x.left = e.rest.length + 1 := by rw [left, waits]
  rw [next, waits, before]
  rcases after_resume s c scene x.router e x.log with fewer | ⟨early, -⟩
  · exact Nat.lt_succ_of_le fewer
  · exact absurd early (Nat.not_lt_of_le late)

theorem left_next (x : Session) (scene : Scene) (happening : Happening) :
    (x.next s c scene happening).left ≤ x.left := by
  cases standing : x.standing with
  | ended outcome =>
    have after := (standing_next_of_ended (s := s) (c := c) standing scene happening).1
    simp [left, after]
  | waiting e =>
    have before : x.left = e.rest.length + 1 := by rw [left, standing]
    cases happening with
    | traffic t =>
      rw [next, standing]
      simp only
      split <;> simp [left, standing]
    | look =>
      rw [next, standing, before]
      simp only
      rcases after_resume s c scene x.router e x.log with fewer | ⟨-, same⟩
      · exact Nat.le_succ_of_le fewer
      · rw [same]
        exact Nat.le_refl _

/-- Nobody who still waits rests at his deadline. -/
theorem not_rests_of_waiting (waits : x.standing = .waiting e) (late : e.deadline ≤ moment) :
    ¬ x.Rests s c moment := by
  intro rests
  let scene : Scene := ⟨moment, fun _ => true, fun _ => false⟩
  have fewer : (x.next s c scene .look).left < x.left := left_look waits late
  rw [rests scene rfl] at fewer
  exact Nat.lt_irrefl _ fewer

theorem ended_of_left (none : x.left = 0) : ∃ outcome, x.standing = .ended outcome := by
  cases standing : x.standing with
  | waiting e => simp [left, standing] at none
  | ended outcome => exact ⟨outcome, rfl⟩

end Time

end Session

/-! ### Talks -/

/-- An envelope and the replies that came after it and before the next one. -/
structure Talk where
  sent : Nat
  nodeId : String
  envelope : Envelope
  heard : List (Nat × Reply)

namespace Talk

/-- The first reply that answers the task at an index. -/
def answer (index : Nat) (talk : Talk) : Option (Nat × Reply) :=
  talk.heard.find? fun a => a.2.taskIndex.toNat = index

/-- To whom the envelope went. -/
def addressed (talk : Talk) : String × Envelope := (talk.nodeId, talk.envelope)

end Talk

/-- Takes a note into account. -/
def hear (talks : List Talk) : Note → List Talk
  | .sent now nodeId envelope => talks ++ [⟨now, nodeId, envelope, []⟩]
  | .heard now r =>
    match talks.getLast? with
    | some last => talks.dropLast ++ [{ last with heard := last.heard ++ [(now, r)] }]
    | none => talks
  | .ended _ _ => talks

/-- The talks of a log. -/
def talks (log : List Note) : List Talk := log.foldl hear []

section Talks

variable {log : List Note} {done : List Talk} {last : Talk}

theorem talks_sent (log : List Note) (now : Nat) (nodeId : String) (envelope : Envelope) :
    talks (log ++ [.sent now nodeId envelope]) = talks log ++ [⟨now, nodeId, envelope, []⟩] := by
  simp [talks, hear]

theorem talks_ended (log : List Note) (now : Nat) (outcome : Outcome) :
    talks (log ++ [.ended now outcome]) = talks log := by
  simp [talks, hear]

/-- Replies belong to the last talk. -/
theorem talks_heard (h : talks log = done ++ [last]) (now : Nat) (replies : List Reply) :
    talks (log ++ replies.map fun r => .heard now r)
      = done ++ [{ last with heard := last.heard ++ replies.map fun r => (now, r) }] := by
  induction replies generalizing log last with
  | nil => simpa using h
  | cons r rest ih =>
    have first : talks (log ++ [.heard now r])
        = done ++ [{ last with heard := last.heard ++ [(now, r)] }] := by
      have step : talks (log ++ [.heard now r]) = hear (talks log) (.heard now r) := by
        simp [talks]
      rw [step, h]
      simp [hear]
    have others := ih first
    simpa using others

/-- What a talk has heard is in the log, with the moment. -/
theorem heard_mem_log {talk : Talk} {a : Nat × Reply} (member : talk ∈ talks log) (heard : a ∈ talk.heard) :
    .heard a.1 a.2 ∈ log := by
  induction log using List.reverseRecOn generalizing talk with
  | nil => cases member
  | append_singleton log note ih =>
    have step : talks (log ++ [note]) = hear (talks log) note := by simp [talks]
    rw [step] at member
    have earlier {talk : Talk} (member : talk ∈ talks log) (heard : a ∈ talk.heard) :
        .heard a.1 a.2 ∈ log ++ [note] := List.mem_append_left _ (ih member heard)
    cases note with
    | sent now nodeId envelope =>
      rcases List.mem_append.1 member with old | new
      · exact earlier old heard
      · rw [List.mem_singleton.1 new] at heard
        cases heard
    | ended now outcome => exact earlier member heard
    | heard now r =>
      rw [hear] at member
      split at member
      · next last found =>
        rcases List.mem_append.1 member with old | new
        · exact earlier ((List.dropLast_sublist _).mem old) heard
        · rw [List.mem_singleton.1 new] at heard
          rcases List.mem_append.1 heard with old | new
          · exact earlier (List.mem_of_getLast? found) old
          · rw [List.mem_singleton.1 new]
            simp
      · exact earlier member heard

end Talks

/-! ### What has been said so far -/

/-- The envelopes of a node step, in the order of its tasks. -/
def asked (s : Settings) (c : RoundContext) (id : String) (n : NodeStep) : List (String × Envelope) :=
  n.tasks.zipIdx.map fun (task, i) => (n.nodeId, Exchange.envelope s c id i task)

/-- What a list of answers has returned, later ones before earlier ones. -/
def gathered (answers : List (Nat × Reply)) : ReturnData :=
  answers.foldl (fun data a => data.merge a.2.returnData) .empty

/-- Every talk was answered with success, by these replies. -/
structure Answered (id : String) (done : List Talk) (answers : List (Nat × Reply)) : Prop where
  length : answers.length = done.length
  each : ∀ (t : Nat) (a : Nat × Reply), answers[t]? = some a → ∃ talk : Talk, done[t]? = some talk ∧
    talk.answer t = some a ∧ a.2.nodeStepId = id ∧ a.2.isSuccess = true

section Answered

variable {id : String} {done : List Talk} {answers : List (Nat × Reply)}

theorem answered_nil : Answered id [] [] := ⟨rfl, by simp⟩

theorem Answered.snoc (h : Answered id done answers) {last : Talk} {a : Nat × Reply}
    (answer : last.answer done.length = some a) (carries : a.2.nodeStepId = id)
    (success : a.2.isSuccess = true) : Answered id (done ++ [last]) (answers ++ [a]) := by
  refine ⟨by simp [h.length], fun t b found => ?_⟩
  by_cases old : t < answers.length
  · rw [List.getElem?_append_left old] at found
    obtain ⟨talk, present, rest⟩ := h.each t b found
    exact ⟨talk, by rw [List.getElem?_append_left (h.length ▸ old)]; exact present, rest⟩
  · have bound : t < (answers ++ [a]).length := (List.getElem?_eq_some_iff.1 found).1
    rw [List.length_append, List.length_singleton] at bound
    have here : t = answers.length := by omega
    subst here
    rw [List.getElem?_concat_length] at found
    obtain rfl := Option.some.inj found
    rw [h.length]
    exact ⟨last, by simp, answer, carries, success⟩

theorem gathered_snoc (answers : List (Nat × Reply)) (a : Nat × Reply) :
    gathered (answers ++ [a]) = (gathered answers).merge a.2.returnData := by
  simp [gathered]

/-- Of what the answers returned under one key the last counts. -/
theorem get?_gathered (answers : List (Nat × Reply)) (key : String) :
    (gathered answers).get? key = answers.reverse.findSome? fun a => a.2.returnData.get? key := by
  have merged := Dict.get?_foldl_merge (answers.map fun a => a.2.returnData) .empty key
  rw [List.foldl_map, ← List.map_reverse, List.findSome?_map] at merged
  simp only [Dict.get?_empty, Option.or_none] at merged
  exact merged

end Answered

end Muster.Engine
