import Muster.Proofs.Dict
import Muster.Proofs.Envelope
import Muster.Store

/-!
# A record file reads back

Everything that an orchestrator remembers is in its record file: operations with the state of every step,
clusters and machines. Each record that occurs there reads back, member by member, and so the bytes of a
record file decode to the records that were written (`Records.decode_encode`).
-/

set_option autoImplicit false

namespace Muster

open Json Json.Codec
open Json.Record (Faithful)

/-- The names of a set, put together again, are the set. -/
theorem NameSet.ofNames_keys (s : NameSet) : NameSet.ofNames s.keys = s := by
  refine Dict.ext_get? fun key => ?_
  have same : Dict.contains (NameSet.ofNames s.keys) key = Dict.contains s key := by
    rw [Bool.eq_iff_iff, NameSet.contains_ofNames, Dict.contains_iff_mem_keys]
  rw [Dict.contains, Dict.contains] at same
  cases found : Dict.get? s key with
  | none => simpa [found] using same
  | some value =>
    rw [found] at same
    obtain ⟨value', here⟩ := Option.isSome_iff_exists.1 same
    exact here

theorem Json.Codec.lawful_names : Codec.names.Lawful := by
  intro s
  show (readList readString (Node.ofJson (Codec.text.list.write s.keys))).map NameSet.ofNames = .ok s
  rw [show readList readString = Codec.text.list.read from rfl, (lawful_list lawful_text).map,
    NameSet.ofNames_keys]

/-! ### Steps and operations -/

theorem StepStatus.lawful_codec : StepStatus.codec.Lawful :=
  lawful_choice fun status => by cases status <;> rfl

theorem StepState.lawful_codec : StepState.codec.Lawful :=
  Faithful.lawful
    ((Faithful.member _ lawful_text).map _
      |>.seq (.member _ StepStatus.lawful_codec)
      |>.seq (.member _ lawful_names)
      |>.seq (.member _ (lawful_dict lawful_text))
      |>.seq (.member _ lawful_names)
      |>.seq (.member _ lawful_names)
      |>.seq (.member _ lawful_nat32))
    (by decide) _

theorem OperationStatus.lawful_codec : OperationStatus.codec.Lawful :=
  lawful_choice fun status => by cases status <;> rfl

theorem OperationType.lawful_codec : OperationType.codec.Lawful :=
  lawful_choice fun type => by cases type <;> rfl

theorem Operation.lawful_codec : Operation.codec.Lawful :=
  Faithful.lawful
    ((Faithful.member _ lawful_text).map _
      |>.seq (.member _ lawful_text)
      |>.seq (.member _ OperationStatus.lawful_codec)
      |>.seq (.member _ lawful_size)
      |>.seq (.member _ lawful_text)
      |>.seq (.member _ OperationType.lawful_codec)
      |>.seq (.member _ (lawful_list StepState.lawful_codec))
      |>.seq (.member _ (lawful_dict lawful_text))
      |>.seq (.member _ (lawful_dict lawful_text))
      |>.seq (.member _ lawful_text)
      |>.seq (.member _ lawful_text)
      |>.seq (.member _ (lawful_dict lawful_text))
      |>.seq (.member _ lawful_nat64)
      |>.seq (.member _ lawful_nat64))
    (by decide) _

/-! ### The record file -/

theorem Records.lawful_codec : Records.codec.Lawful :=
  Faithful.lawful
    ((Faithful.member _ (lawful_dict Operation.lawful_codec)).map _
      |>.seq (.member _ (lawful_dict Cluster.lawful_codec))
      |>.seq (.member _ (lawful_dict Machine.lawful_codec)))
    (by decide) _

/-- **The bytes of a record file decode to the records** that were written. -/
theorem Records.decode_encode (r : Records) : Records.codec.decode r.encode = .ok r := by
  rw [Codec.decode, encode, Document.read_pretty, Document.decode, lawful_codec r]
  rfl

/-- The records are loaded from a file that holds their bytes. -/
theorem Store.load_of_read {t : FileTree} {path : String} {r : Records} (read : t.read path = .ok r.encode) :
    ∃ text, t.readText path = .ok text ∧ Records.codec.decode text.toUTF8 = .ok r := by
  refine ⟨(Records.codec.write r).pretty, ?_, r.decode_encode⟩
  rw [FileTree.readText, read, Records.encode]
  simp only [Text.fromUTF8?_toUTF8]

end Muster
