import Muster.Proofs.Errand
import Muster.Proofs.Json.Soundness

/-!
# The correlation of an unreadable request

A request that is no envelope is answered all the same, by what can be told of its correlation. That is
read from whatever object the bytes spell, and so it is all there as long as the three members are, each
of them once, whatever else the object holds (`recover_of_spelled`). A request that is an envelope says
the same to both readers, because what an envelope writes is sound and nested a few levels only. Of bytes
that spell nothing nothing is told. `correlation_recovered` states this together.
-/

set_option autoImplicit false

namespace Muster

open Json
open Text (symbols)

/-! ### Members of an object -/

/-- Among the members exactly one has this name, and it holds this. -/
def Json.Once (name : String) (node : Node) (members : List (String × Node)) : Prop :=
  ∃ before after, members = before ++ (name, node) :: after ∧
    name ∉ before.map Prod.fst ∧ name ∉ after.map Prod.fst

/-- Where no two members have the same name, each is the only one of its name. -/
theorem Json.Once.of_nodup {name : String} {node : Node} {members : List (String × Node)}
    (distinct : (members.map Prod.fst).Nodup) (here : (name, node) ∈ members) : Once name node members := by
  obtain ⟨before, after, rfl⟩ := List.append_of_mem here
  rw [List.map_append, List.map_cons] at distinct
  obtain ⟨-, behind, apart⟩ := List.nodup_append.1 distinct
  exact ⟨before, after, rfl, fun there => apart name there name List.mem_cons_self rfl,
    (List.nodup_cons.1 behind).1⟩

namespace Correlation

variable {name : String} {node : Node} {members : List (String × Node)}

theorem lastMember?_cons (name key : String) (node : Node) (members : List (String × Node)) :
    lastMember? name (Node.ofNamed ((key, node) :: members)) =
      (lastMember? name (Node.ofNamed members)).or (if key = name then some node else none) := by
  show lastMember? name ((.sound key, node) :: Node.ofNamed members) = _
  rw [lastMember?]
  cases lastMember? name (Node.ofNamed members) <;> rfl

theorem lastMember?_eq_none (absent : name ∉ members.map Prod.fst) :
    lastMember? name (Node.ofNamed members) = none := by
  induction members with
  | nil => rfl
  | cons member members ih =>
    obtain ⟨other, later⟩ := not_or.1 fun here => absent (List.mem_cons.2 here)
    rw [lastMember?_cons, ih later, if_neg (Ne.symm other)]
    rfl

/-- The only member of its name is the last one. -/
theorem lastMember?_once (once : Once name node members) :
    lastMember? name (Node.ofNamed members) = some node := by
  obtain ⟨before, after, rfl, -, last⟩ := once
  induction before with
  | nil =>
    rw [List.nil_append, lastMember?_cons, lastMember?_eq_none last, if_pos rfl]
    rfl
  | cons member before ih =>
    rw [List.cons_append, lastMember?_cons, ih]
    rfl

/-- What is recovered from bytes that spell an object. -/
theorem recover_of_spelled {bytes : ByteArray} {nodeId operationId nodeStepId : String} {index : UInt64}
    (spelled : Spelled nestingLimit (.obj (Node.ofNamed members) none) (symbols bytes))
    (operation : Once "operation_id" (.str (.sound operationId)) members)
    (step : Once "node_step_id" (.str (.sound nodeStepId)) members)
    (task : Once "task_index" (.num (.sound (.nat index))) members) :
    recover bytes nodeId = ⟨operationId, nodeId, nodeStepId, index⟩ := by
  obtain ⟨read, sound⟩ := spelled_iff.1 spelled
  simp only [recover, Document.read, read, sound, textMember, sizeMember, lastMember?_once operation,
    lastMember?_once step, lastMember?_once task, Lexeme.sound]

/-- Nothing is recovered from bytes that spell nothing. -/
theorem recover_of_not_spelled {bytes : ByteArray}
    (nothing : ∀ node, ¬ Spelled nestingLimit node (symbols bytes)) (nodeId : String) :
    recover bytes nodeId = ⟨"", nodeId, "", 0⟩ := by
  have faulty : ∀ node, Document.ofSymbols (symbols bytes) = ⟨node, false⟩ →
      node.check nestingLimit ≠ .ok () :=
    fun node read sound => nothing node (spelled_iff.2 ⟨read, sound⟩)
  obtain ⟨⟨root, trailing⟩, read⟩ : ∃ d, Document.ofSymbols (symbols bytes) = d := ⟨_, rfl⟩
  have lost : recover bytes nodeId =
      ⟨textMember "operation_id" [], nodeId, textMember "node_step_id" [], sizeMember "task_index" []⟩ := by
    simp only [recover, Document.read, read]
    split
    · next sound => exact absurd sound (faulty _ read)
    · rfl
  exact lost

end Correlation

/-! ### How deep records lie -/

namespace Json

variable {α β ρ : Type} {depth : Nat}

/-- Whatever is written has at most so many levels. -/
def Codec.Within (depth : Nat) (c : Codec α) : Prop :=
  ∀ a, (Node.ofJson (c.write a)).check depth = .ok ()

/-- Whatever members are written have at most so many levels. -/
def Record.Within (depth : Nat) (r : Record ρ α) : Prop :=
  ∀ x, Node.checkMembers depth (Node.ofMembers (r.members x)) = .ok ()

theorem Codec.Within.list {c : Codec α} (within : c.Within depth) : c.list.Within (depth + 1) := by
  intro as
  have items : Node.checkItems depth (Node.ofItems (as.map c.write)) = .ok () := by
    induction as with
    | nil => rfl
    | cons a as ih => simpa [Node.ofItems, Node.checkItems, within a] using ih
  simp [Codec.list, Node.ofJson, Node.check, items]

theorem Node.checkMembers_append {front back : List (String × Json)}
    (first : Node.checkMembers depth (Node.ofMembers front) = .ok ())
    (second : Node.checkMembers depth (Node.ofMembers back) = .ok ()) :
    Node.checkMembers depth (Node.ofMembers (front ++ back)) = .ok () := by
  induction front with
  | nil => exact second
  | cons member front ih =>
    rw [Node.ofMembers] at first
    obtain ⟨-, value, others⟩ := Node.checkMembers_cons first
    simpa [Node.ofMembers, Node.checkMembers, Lexeme.sound, value] using ih others

theorem Codec.Within.dict {c : Codec α} (within : c.Within depth) : c.dict.Within (depth + 1) := by
  intro d
  have members : Node.checkMembers depth
      (Node.ofMembers (d.toList.map fun entry => (entry.1, c.write entry.2))) = .ok () := by
    induction d.toList with
    | nil => rfl
    | cons entry entries ih =>
      simpa [Node.ofMembers, Node.checkMembers, Lexeme.sound, within entry.2] using ih
  simp [Codec.dict, Node.ofJson, Node.check, members]

theorem Record.Within.member {c : Codec β} (within : c.Within depth) (name : String) (get : ρ → β) :
    (Record.member name c get).Within depth := by
  intro x
  simp [Record.member, Node.ofMembers, Node.checkMembers, Lexeme.sound, within (get x)]

theorem Record.Within.memberOr {c : Codec β} (within : c.Within depth) (name : String) (default : β)
    (get : ρ → β) : (Record.memberOr name default c get).Within depth :=
  Record.Within.member within name get

theorem Record.Within.map {r : Record ρ α} (within : r.Within depth) (f : α → β) :
    (f <$> r).Within depth := within

theorem Record.Within.seq {r : Record ρ (α → β)} {s : Record ρ α} (left : r.Within depth)
    (right : s.Within depth) : (r <*> s).Within depth :=
  fun x => Node.checkMembers_append (left x) (right x)

/-- A record adds one level to those of its members. -/
theorem Record.Within.codec {r : Record ρ ρ} (within : r.Within depth) (kind : String) :
    (r.codec kind).Within (depth + 1) := by
  intro x
  simp [Record.codec, Node.ofJson, Node.check, within x]

end Json

/-! ### An envelope says the same to both readers -/

theorem Cluster.within_codec (depth : Nat) : Cluster.codec.Within (depth + 3) :=
  have machine : Machine.codec.Within (depth + 1) := fun _ => rfl
  have spec : ClusterSpec.codec.Within (depth + 2) := fun _ => rfl
  have text : Codec.text.Within (depth + 2) := fun _ => rfl
  Json.Record.Within.codec
    ((Json.Record.Within.member text _ _).map _
      |>.seq (.member text _ _)
      |>.seq (.member text _ _)
      |>.seq (.memberOr spec _ _ _)
      |>.seq (.memberOr machine.list _ _ _)) _

/-- An envelope has its own level and those of the cluster. -/
theorem Envelope.within_codec (depth : Nat) : Envelope.codec.Within (depth + 4) :=
  have text : Codec.text.Within (depth + 3) := fun _ => rfl
  have size : Codec.size.Within (depth + 3) := fun _ => rfl
  have hex : Codec.hex.Within (depth + 3) := fun _ => rfl
  have data : (Codec.dict .text).Within (depth + 3) :=
    have text : Codec.text.Within (depth + 2) := fun _ => rfl
    text.dict
  Json.Record.Within.codec
    ((Json.Record.Within.member text _ _).map _
      |>.seq (.member text _ _)
      |>.seq (.member (Cluster.within_codec depth) _ _)
      |>.seq (.member text _ _)
      |>.seq (.memberOr size _ _ _)
      |>.seq (.member hex _ _)
      |>.seq (.memberOr text _ _ _)
      |>.seq (.memberOr data _ _ _)) _

/-- What is written with few levels is spelled by its compact form. -/
theorem Json.spelled_compact {depth : Nat} {j : Json} (sound : (Node.ofJson j).check depth = .ok ()) :
    Spelled depth (Node.ofJson j) (symbols j.compact.toUTF8) :=
  spelled_iff.2 ⟨Document.read_compact j, sound⟩

theorem Correlation.recover_encode (e : Envelope) (nodeId : String) :
    recover e.encode nodeId = ofEnvelope e nodeId := by
  have spelled := spelled_compact (Envelope.within_codec 123 e)
  have object : Node.ofJson (Envelope.codec.write e) =
      .obj (Node.ofNamed (namedTrees (Envelope.record.members e))) none :=
    congrArg (Node.obj · none) (Node.ofMembers_eq_ofNamed _)
  have distinct : ((namedTrees (Envelope.record.members e)).map Prod.fst).Nodup := by
    have names : (namedTrees (Envelope.record.members e)).map Prod.fst = Envelope.record.names := rfl
    rw [names]
    decide
  rw [object] at spelled
  refine recover_of_spelled spelled (.of_nodup distinct ?_) (.of_nodup distinct ?_) (.of_nodup distinct ?_)
  · exact .head _
  · exact .tail _ (.tail _ (.tail _ (.head _)))
  · exact .tail _ (.tail _ (.tail _ (.tail _ (.head _))))

/-- **What can be told of the correlation of a request is told**, whatever else is wrong with it. Of bytes
that spell an object, nested as deep as a document may be, in which the operation and the node step stand
once each as texts and the index stands once as a natural number, exactly these are recovered, so the
reply to such a request, if it is no envelope, bears them. What an envelope writes says the same as the
envelope itself, and of bytes that spell no document nothing is told. -/
theorem correlation_recovered :
    (∀ (bytes : ByteArray) (members : List (String × Node)) (operationId nodeStepId : String)
      (index : UInt64),
      Spelled nestingLimit (.obj (Node.ofNamed members) none) (symbols bytes) →
      Once "operation_id" (.str (.sound operationId)) members →
      Once "node_step_id" (.str (.sound nodeStepId)) members →
      Once "task_index" (.num (.sound (.nat index))) members →
      (∀ nodeId, Correlation.recover bytes nodeId = ⟨operationId, nodeId, nodeStepId, index⟩) ∧
      ∀ (d : Dispatcher) (cause : TaskError), Envelope.decode bytes = .error cause →
        ∃ r, d.handle bytes = .reply false r ∧
          r.correlation = ⟨operationId, d.nodeId, nodeStepId, index⟩) ∧
    (∀ (e : Envelope) (nodeId : String),
      Correlation.recover e.encode nodeId = Correlation.ofEnvelope e nodeId) ∧
    ∀ (bytes : ByteArray) (nodeId : String),
      (∀ node, ¬ Spelled nestingLimit node (symbols bytes)) →
      Correlation.recover bytes nodeId = ⟨"", nodeId, "", 0⟩ := by
  refine ⟨?_, Correlation.recover_encode, fun bytes nodeId nothing =>
    Correlation.recover_of_not_spelled nothing nodeId⟩
  intro bytes members operationId nodeStepId index spelled operation step task
  have recovered (nodeId : String) :
      Correlation.recover bytes nodeId = ⟨operationId, nodeId, nodeStepId, index⟩ :=
    Correlation.recover_of_spelled spelled operation step task
  refine ⟨recovered, fun d cause unreadable => ?_⟩
  refine ⟨.ofError (.recover bytes d.nodeId) cause.message, by rw [Dispatcher.handle, unreadable], ?_⟩
  rw [recovered]
  rfl

/-! ### A partial envelope -/

namespace Dispatcher.Sample

/-- The members that a partial envelope has: its kind of task is no text, and others are missing. -/
def partialEnvelope : Json := .obj
  [("operation_id", .str "op-7"), ("node_step_id", .str "ns-2"), ("task_index", .nat 3),
    ("task_type", .nat 42)]

/-- An agent that does no tasks. -/
def agent : Dispatcher := ⟨"n1", .error "no provider", none⟩

end Dispatcher.Sample

open Dispatcher.Sample in
theorem sample_partial_envelope : ∃ r,
    agent.handle partialEnvelope.compact.toUTF8 = .reply false r ∧
      r.correlation = ⟨"op-7", "n1", "ns-2", 3⟩ := by
  have spelled : Spelled nestingLimit (Node.ofJson partialEnvelope)
      (symbols partialEnvelope.compact.toUTF8) := spelled_compact rfl
  have unreadable : Envelope.decode partialEnvelope.compact.toUTF8 =
      .error (.envelope (.kind (.number (.nat 42)) "a string")) := by
    rw [Envelope.decode, Json.Codec.decode, Document.read_compact]
    rfl
  obtain ⟨-, answered⟩ := correlation_recovered.1 partialEnvelope.compact.toUTF8
    [("operation_id", .str (.sound "op-7")), ("node_step_id", .str (.sound "ns-2")),
      ("task_index", .num (.sound (.nat 3))), ("task_type", .num (.sound (.nat 42)))] "op-7" "ns-2" 3 spelled
    (.of_nodup (by decide) (.head _)) (.of_nodup (by decide) (.tail _ (.head _)))
    (.of_nodup (by decide) (.tail _ (.tail _ (.head _))))
  exact answered agent _ unreadable

end Muster
