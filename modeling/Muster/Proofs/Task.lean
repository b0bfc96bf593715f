import Muster.Proofs.Json.Codec
import Muster.Task.Wire

/-!
# Tasks survive the wire

The codec of every payload is lawful, and the name of a kind names that kind, so a task that is
written down and read back by the name of its kind is the same task (`Task.decode_type_encode`): whatever
characters its texts hold, whatever bytes its configurations are, whatever its optional members are.
-/

set_option autoImplicit false

namespace Muster

open Json Json.Codec

namespace TaskMeta

/-- What every task carries reads back from the members that a payload sets aside. -/
theorem read_members (m : TaskMeta) : read (Node.ofMembers m.members) = .ok m := by
  obtain ⟨action, timeout⟩ := m
  have number : nat32.read (.num (.sound (.nat timeout.toUInt64))) = .ok timeout :=
    lawful_nat32 timeout
  cases action <;>
    simp [read, members, Node.ofMembers, Node.ofJson, gather, readKeptChoice, readName, named?,
      Action.table, Action.name, number, bind, Except.bind]

theorem check_members (m : TaskMeta) :
    ∀ member ∈ m.members, (Node.ofJson member.2).check (nestingLimit - 1) = .ok () := by
  simp [members, Node.ofJson, Node.check, Lexeme.sound, Except.map]

end TaskMeta

theorem CriKind.lawful_codec : CriKind.codec.Lawful :=
  lawful_choice fun kind => by cases kind <;> rfl

theorem Role.lawful_codec : Role.codec.Lawful :=
  lawful_choice fun role => by cases role <;> rfl

/-- A text is never written as null, so it may be absent. -/
theorem Json.Codec.lawful_option_text : (Codec.option .text).Lawful :=
  lawful_option lawful_text fun _ => Json.noConfusion

/-- No two kinds have the same name, so the name of a kind names it. -/
theorem TaskKind.ofName?_name (kind : TaskKind) : ofName? kind.name = some kind := by
  cases kind <;> decide

namespace Task

section Payload

variable {ρ : Type} {common : ρ → TaskMeta} {own : Record ρ (TaskMeta → ρ)} {get : ρ → TaskMeta → ρ}

/-- A payload reads back if its own members do, are distinct and do not bear the names of what every
task carries. -/
theorem lawful_payload (faithful : own.Faithful get)
    (distinct : ("action" :: "timeout_seconds" :: own.names).Nodup)
    (rebuilt : ∀ x, get x (common x) = x) (kind : String) : (payload kind common own).Lawful := by
  obtain ⟨action, timeout, names⟩ : "action" ∉ "timeout_seconds" :: own.names ∧
      "timeout_seconds" ∉ own.names ∧ own.names.Nodup := by
    simpa only [List.nodup_cons] using distinct
  refine faithful.lawful_flattened names (fun x member here => ?_)
    (fun x => (common x).check_members) (fun x => (common x).read_members) rebuilt kind
  simp only [TaskMeta.members, List.mem_cons, List.not_mem_nil, or_false] at here
  rcases here with rfl | rfl
  · exact fun there => action (List.mem_cons_of_mem _ there)
  · exact timeout

end Payload

open Record (Faithful)

/-! ### The payloads -/

theorem Bootstrap.lawful_codec : Bootstrap.codec.Lawful :=
  lawful_payload
    ((Faithful.memberOr _ (lawful_list lawful_text)).map _
      |>.seq (.memberOr _ (lawful_dict lawful_text))
      |>.seq (.memberOr _ (lawful_list lawful_text)))
    (by decide) (fun _ => rfl) _

theorem Rename.lawful_codec : Rename.codec.Lawful :=
  lawful_payload ((Faithful.member _ lawful_text).map _) (by decide) (fun _ => rfl) _

theorem Runtime.lawful_codec : Runtime.codec.Lawful :=
  Faithful.lawful
    ((Faithful.member _ CriKind.lawful_codec).map _
      |>.seq (.memberOr _ lawful_text)
      |>.seq (.memberOr _ lawful_bool)
      |>.seq (.memberOr _ lawful_option_text))
    (by decide) _

theorem Cri.lawful_codec : Cri.codec.Lawful :=
  lawful_payload ((Faithful.member _ Runtime.lawful_codec).map _) (by decide) (fun _ => rfl) _

theorem LoadBalancer.lawful_codec : LoadBalancer.codec.Lawful :=
  lawful_payload
    ((Faithful.memberOr _ lawful_hex).map _
      |>.seq (.memberOr _ lawful_text)
      |>.seq (.member _ lawful_nat16))
    (by decide) (fun _ => rfl) _

theorem KubeadmInit.lawful_codec : KubeadmInit.codec.Lawful :=
  lawful_payload ((Faithful.member _ lawful_hex).map _) (by decide) (fun _ => rfl) _

theorem JoinControlPlane.lawful_codec : JoinControlPlane.codec.Lawful :=
  lawful_payload ((Faithful.member _ lawful_text).map _) (by decide) (fun _ => rfl) _

theorem JoinWorker.lawful_codec : JoinWorker.codec.Lawful :=
  lawful_payload ((Faithful.member _ lawful_text).map _ |>.seq (.member _ lawful_text))
    (by decide) (fun _ => rfl) _

theorem KubeadmDestroy.lawful_codec : KubeadmDestroy.codec.Lawful :=
  lawful_payload ((Faithful.member _ Role.lawful_codec).map _) (by decide) (fun _ => rfl) _

theorem RunCommand.lawful_codec : RunCommand.codec.Lawful :=
  lawful_payload
    ((Faithful.member _ (lawful_list lawful_text)).map _ |>.seq (.memberOr _ lawful_bool))
    (by decide) (fun _ => rfl) _

theorem WriteFiles.lawful_codec : WriteFiles.codec.Lawful :=
  lawful_payload
    ((Faithful.member _ (lawful_dict lawful_text)).map _
      |>.seq (.memberOr _ (lawful_option lawful_nat32 fun _ => Json.noConfusion)))
    (by decide) (fun _ => rfl) _

theorem DownloadDeps.lawful_codec : DownloadDeps.codec.Lawful :=
  lawful_payload
    ((Faithful.member _ (lawful_list lawful_text)).map _ |>.seq (.memberOr _ lawful_option_text))
    (by decide) (fun _ => rfl) _

theorem VirtualKubelet.lawful_codec : VirtualKubelet.codec.Lawful :=
  lawful_payload ((Faithful.member _ lawful_text).map _ |>.seq (.member _ lawful_text))
    (by decide) (fun _ => rfl) _

theorem PrintJoinToken.lawful_codec : PrintJoinToken.codec.Lawful :=
  lawful_payload
    ((Faithful.memberOr _ lawful_option_text).map _ |>.seq (.memberOr _ lawful_option_text))
    (by decide) (fun _ => rfl) _

theorem Symlink.lawful_codec : Symlink.codec.Lawful :=
  Faithful.lawful ((Faithful.member _ lawful_text).map _ |>.seq (.member _ lawful_text))
    (by decide) _

theorem Symlinks.lawful_codec : Symlinks.codec.Lawful :=
  lawful_payload ((Faithful.member _ (lawful_list Symlink.lawful_codec)).map _)
    (by decide) (fun _ => rfl) _

theorem Curl.lawful_codec : Curl.codec.Lawful :=
  lawful_payload ((Faithful.member _ lawful_text).map _ |>.seq (.memberOr _ lawful_nat16))
    (by decide) (fun _ => rfl) _

theorem ClusterConfig.lawful_codec : ClusterConfig.codec.Lawful :=
  lawful_payload
    ((Faithful.member _ lawful_text).map _
      |>.seq (.member _ lawful_text)
      |>.seq (.member _ lawful_text)
      |>.seq (.member _ lawful_text)
      |>.seq (.member _ lawful_text)
      |>.seq (.member _ lawful_text))
    (by decide) (fun _ => rfl) _

theorem LogShipper.lawful_codec : LogShipper.codec.Lawful :=
  lawful_payload ((Faithful.member _ lawful_hex).map _ |>.seq (.member _ lawful_text))
    (by decide) (fun _ => rfl) _

theorem PreloadImages.lawful_codec : PreloadImages.codec.Lawful :=
  lawful_payload ((Faithful.member _ (lawful_list lawful_text)).map _)
    (by decide) (fun _ => rfl) _

theorem HostEntry.lawful_codec : HostEntry.codec.Lawful :=
  Faithful.lawful ((Faithful.member _ lawful_text).map _ |>.seq (.member _ (lawful_list lawful_text)))
    (by decide) _

theorem Hosts.lawful_codec : Hosts.codec.Lawful :=
  lawful_payload ((Faithful.member _ (lawful_list HostEntry.lawful_codec)).map _)
    (by decide) (fun _ => rfl) _

/-! ### Tasks -/

/-- The payload of a task is read by the kind of the task. -/
theorem read_write (t : Task) : read t.kind (Node.ofJson t.write) = .ok t := by
  cases t with
  | bootstrap t => exact Bootstrap.lawful_codec.map _ t
  | rename t => exact Rename.lawful_codec.map _ t
  | cri t => exact Cri.lawful_codec.map _ t
  | loadBalancer t => exact LoadBalancer.lawful_codec.map _ t
  | kubeadmInit t => exact KubeadmInit.lawful_codec.map _ t
  | joinControlPlane t => exact JoinControlPlane.lawful_codec.map _ t
  | joinWorker t => exact JoinWorker.lawful_codec.map _ t
  | kubeadmDestroy t => exact KubeadmDestroy.lawful_codec.map _ t
  | runCommand t => exact RunCommand.lawful_codec.map _ t
  | asyncRunCommand t => exact RunCommand.lawful_codec.map _ t
  | writeFiles t => exact WriteFiles.lawful_codec.map _ t
  | downloadDeps t => exact DownloadDeps.lawful_codec.map _ t
  | asyncDownloadDeps t => exact DownloadDeps.lawful_codec.map _ t
  | virtualKubelet t => exact VirtualKubelet.lawful_codec.map _ t
  | printJoinToken t => exact PrintJoinToken.lawful_codec.map _ t
  | symlinks t => exact Symlinks.lawful_codec.map _ t
  | curl t => exact Curl.lawful_codec.map _ t
  | clusterConfig t => exact ClusterConfig.lawful_codec.map _ t
  | logShipper t => exact LogShipper.lawful_codec.map _ t
  | preloadImages t => exact PreloadImages.lawful_codec.map _ t
  | hosts t => exact Hosts.lawful_codec.map _ t

theorem decode_encode_payload (t : Task) :
    (Document.read t.encode).decode (read t.kind) = .ok t := by
  rw [encode, Document.read_compact, Document.decode, read_write]
  rfl

/-- **Every task that is written reads back as the same task** by the name of its kind: no content
of its texts, bytes, numbers, lists, dictionaries or optional members is lost or refused. -/
theorem decode_type_encode (t : Task) : decode t.type t.encode = .ok t := by
  rw [decode, type, TaskKind.ofName?_name]
  simp only [decode_encode_payload]

end Task

end Muster
