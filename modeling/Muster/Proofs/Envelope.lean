import Muster.Engine.Exchange
import Muster.Proofs.Task

/-!
# Envelopes and replies survive the wire

An envelope nests a whole task, in hexadecimal, beside a snapshot of the cluster. Every record of the
snapshot reads back, and so do envelopes and replies; with the tasks, what the engine asks for is what
the agent understands (`envelopes_and_replies_read_back`).
-/

set_option autoImplicit false

namespace Muster

open Json Json.Codec
open Json.Record (Faithful)

/-! ### The cluster snapshot -/

theorem AgentStatus.lawful_codec : AgentStatus.codec.Lawful :=
  lawful_choice fun status => by cases status <;> rfl

theorem Machine.lawful_codec : Machine.codec.Lawful :=
  Faithful.lawful
    ((Faithful.member _ lawful_text).map _
      |>.seq (.member _ lawful_text)
      |>.seq (.member _ lawful_text)
      |>.seq (.member _ Role.lawful_codec)
      |>.seq (.memberOr _ lawful_text)
      |>.seq (.memberOr _ AgentStatus.lawful_codec))
    (by decide) _

theorem ClusterSpec.lawful_codec : ClusterSpec.codec.Lawful :=
  Faithful.lawful
    ((Faithful.memberOr _ lawful_text).map _
      |>.seq (.memberOr _ lawful_text)
      |>.seq (.memberOr _ lawful_text)
      |>.seq (.memberOr _ lawful_nat16)
      |>.seq (.memberOr _ lawful_nat16)
      |>.seq (.memberOr _ lawful_bool)
      |>.seq (.memberOr _ lawful_text)
      |>.seq (.memberOr _ lawful_text))
    (by decide) _

theorem Cluster.lawful_codec : Cluster.codec.Lawful :=
  Faithful.lawful
    ((Faithful.member _ lawful_text).map _
      |>.seq (.member _ lawful_text)
      |>.seq (.member _ lawful_text)
      |>.seq (.memberOr _ ClusterSpec.lawful_codec)
      |>.seq (.memberOr _ (lawful_list Machine.lawful_codec)))
    (by decide) _

/-! ### Envelopes and replies -/

theorem Envelope.lawful_codec : Envelope.codec.Lawful :=
  Faithful.lawful
    ((Faithful.member _ lawful_text).map _
      |>.seq (.member _ lawful_text)
      |>.seq (.member _ Cluster.lawful_codec)
      |>.seq (.member _ lawful_text)
      |>.seq (.memberOr _ lawful_size)
      |>.seq (.member _ lawful_hex)
      |>.seq (.memberOr _ lawful_text)
      |>.seq (.memberOr _ (lawful_dict lawful_text)))
    (by decide) _

theorem ReplyStatus.lawful_codec : ReplyStatus.codec.Lawful :=
  lawful_choice fun status => by cases status <;> rfl

theorem Reply.lawful_codec : Reply.codec.Lawful :=
  Faithful.lawful
    ((Faithful.member _ lawful_text).map _
      |>.seq (.member _ ReplyStatus.lawful_codec)
      |>.seq (.memberOr _ lawful_text)
      |>.seq (.memberOr _ (lawful_dict lawful_text))
      |>.seq (.member _ lawful_text)
      |>.seq (.member _ lawful_text)
      |>.seq (.memberOr _ lawful_size))
    (by decide) _

theorem Envelope.decode_encode_self (e : Envelope) : Envelope.decode e.encode = .ok e := by
  rw [decode, encode, lawful_codec.decode_encode]
  rfl

theorem Reply.decode_encode_self (r : Reply) : Reply.decode r.encode = .ok r := by
  rw [decode, encode, lawful_codec.decode_encode]
  rfl

/-- An envelope that carries the written form of a task asks for that task. -/
theorem Envelope.task_of_payload {e : Envelope} {t : Task} (type : e.taskType = t.type)
    (payload : e.payload = t.encode) : e.task = .ok t := by
  rw [Envelope.task, type, payload, Task.decode, Task.type, TaskKind.ofName?_name]
  simp only [Task.decode_encode_payload]

/-- **Envelopes and replies read back as they were written**, and so the agent that receives the
envelope of a task understands the same task, and answers for the operation, the node step and the
position that the engine asked for. -/
theorem envelopes_and_replies_read_back :
    (∀ e : Envelope, Envelope.decode e.encode = .ok e) ∧
    (∀ r : Reply, Reply.decode r.encode = .ok r) ∧
    ∀ (s : Engine.Settings) (c : Engine.RoundContext) (nodeStepId : String) (index : UInt64)
      (task : Task) (nodeId : String), ∃ received,
      Envelope.decode (Engine.Exchange.envelope s c nodeStepId index.toNat task).encode =
        .ok received ∧
      received.task = .ok task ∧
      Correlation.ofEnvelope received nodeId = ⟨c.operationId, nodeId, nodeStepId, index⟩ := by
  refine ⟨Envelope.decode_encode_self, Reply.decode_encode_self, ?_⟩
  intro s c nodeStepId index task nodeId
  refine ⟨_, Envelope.decode_encode_self _, Envelope.task_of_payload rfl rfl, ?_⟩
  simp [Correlation.ofEnvelope, Engine.Exchange.envelope, Envelope.ofTask]

end Muster
