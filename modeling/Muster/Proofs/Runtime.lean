import Muster.Proofs.Course
import Muster.Proofs.Dict

/-!
# Installing a container runtime

A container runtime that runs is kept, or removed first if it is to be installed anew; then it is installed,
configured and started. Any of this may fail, and what was done until then still has its order
(`InstallOrder`): nothing is installed over a runtime that was half removed, nothing is configured that was
not installed, and nothing is started that was not configured.

The commands are named by their steps (`RuntimeStep`), and different steps have different commands whatever
the package manager, the version and the directories are (`RuntimeStep.command_injective`). So the order of the
entries follows from that of the stages (`takes_installAsked`, `Course.behind`).
-/

set_option autoImplicit false

namespace Muster

namespace Text

/-- Texts with different beginnings differ. -/
theorem append_ne_append {p q : List Char} (apart : ¬ p <+: q ∧ ¬ q <+: p) (x y : String) :
    String.ofList p ++ x ≠ String.ofList q ++ y := by
  intro same
  have chars : p ++ x.toList = q ++ y.toList := by simpa using congrArg String.toList same
  have first : p <+: q ++ y.toList := chars ▸ List.prefix_append p x.toList
  rcases List.prefix_or_prefix_of_prefix first (List.prefix_append q y.toList) with shorter | longer
  · exact apart.1 shorter
  · exact apart.2 longer

/-- A text differs from those with a beginning that is none of it. -/
theorem ofList_ne_append {p q : List Char} (apart : ¬ q <+: p) (y : String) :
    String.ofList p ≠ String.ofList q ++ y := by
  intro same
  have chars : p = q ++ y.toList := by simpa using congrArg String.toList same
  exact apart (chars ▸ List.prefix_append q y.toList)

end Text

namespace Linux

open Procedure (Stage Course)

/-- The commands that install a container runtime. -/
inductive RuntimeStep where
  /-- Asks whether the service is active. -/
  | probe
  /-- Stops the service. -/
  | stop
  | removePackage
  | removeData
  | install
  /-- Prints the configuration that containerd comes with. -/
  | printDefaults
  /-- Starts the service, now and whenever the machine starts. -/
  | start
  deriving DecidableEq

namespace RuntimeStep

/-- The command of a step. -/
def command (l : Linux) (runtime : Task.Runtime) : RuntimeStep → String
  | probe => "systemctl is-active --quiet " ++ runtime.kind.service
  | stop => "systemctl disable --now " ++ runtime.kind.service
  | removePackage => l.packages.remove [l.criPackage runtime.kind]
  | removeData => "rm -rf " ++ Shell.quote (runtime.dataRoot.getD (defaultDataRoot runtime.kind))
  | install => l.packages.install [l.packages.pinned (l.criPackage runtime.kind) runtime.version]
  | printDefaults => "containerd config default"
  | start => "systemctl daemon-reload && systemctl enable --now " ++ runtime.kind.service

/-- Different steps have different commands: already their beginnings differ. -/
theorem command_injective (l : Linux) (runtime : Task.Runtime) : Function.Injective (command l runtime) := by
  intro a b same
  cases l with
  | mk platform packages retry timeout root =>
    cases packages
    all_goals
      cases a with
      | printDefaults =>
        cases b with
        | printDefaults => rfl
        | _ => exact absurd same (Text.ofList_ne_append (by decide) _)
      | _ =>
        cases b with
        | printDefaults => exact absurd same.symm (Text.ofList_ne_append (by decide) _)
        | _ => first | rfl | exact absurd same (Text.append_ne_append (by decide) _ _)

end RuntimeStep

open RuntimeStep (command command_injective)

variable {l : Linux} {runtime : Task.Runtime} {es before after : Transcript} {entry : Script.Entry}

/-! ### The stages -/

/-- What is done to remove a container runtime. -/
def removalStages (l : Linux) (runtime : Task.Runtime) : List Stage :=
  [.may (command l runtime .stop), .must (command l runtime .removePackage), .must (command l runtime .removeData)]

/-- The file that a container runtime is configured by. -/
def runtimeConfig? : CriKind → Option String
  | .containerd => some containerdConfigFile
  | .docker => some dockerConfig
  | .crio => none

/-- What is done to configure a container runtime. -/
def configStages (l : Linux) (runtime : Task.Runtime) : List Stage :=
  (if runtime.kind = .containerd then [.must (command l runtime .printDefaults)] else []) ++
    (runtimeConfig? runtime.kind).toList.map fun path => .write path (l.hostPath path)

/-- What is done to install a container runtime that is not kept: one that runs is removed first. -/
def installStages (l : Linux) (runtime : Task.Runtime) (active : Bool) : List Stage :=
  (if active then l.removalStages runtime else []) ++
    .must (command l runtime .install) :: (l.configStages runtime ++ [.must (command l runtime .start)])

theorem takes_uninstallRuntime (l : Linux) (runtime : Task.Runtime) :
    (l.uninstallRuntime runtime).Takes (l.removalStages runtime) :=
  Procedure.takes_bind (l.takes_shLenient _) fun _ => Procedure.takes_bind (l.takes_sh _) fun _ =>
    Procedure.takes_bind (l.takes_sh _) fun _ => Procedure.takes_pure ()

theorem takes_configureRuntime (l : Linux) (runtime : Task.Runtime) :
    (l.configureRuntime runtime).Takes (l.configStages runtime) := by
  unfold configureRuntime configStages
  cases runtime.kind with
  | containerd => exact Procedure.takes_bind (l.takes_sh _) fun _ => l.takes_writeFile _ _ _
  | docker => exact l.takes_writeFile _ _ _
  | crio => exact Procedure.takes_pure ()

/-- Installs, configures and starts a container runtime, with none there. -/
def installFresh (l : Linux) (runtime : Task.Runtime) : Procedure ReturnData := do
  let _ ← l.sh (command l runtime .install)
  l.configureRuntime runtime
  let _ ← l.sh (command l runtime .start)
  return criReport "false" runtime.kind.service

/-- What comes after asking for the service. -/
def installAsked (l : Linux) (runtime : Task.Runtime) (active : Bool) : Procedure ReturnData :=
  if active && !runtime.reinstall then return criReport "true" runtime.kind.service
  else if active then l.uninstallRuntime runtime >>= fun _ => l.installFresh runtime
  else l.installFresh runtime

theorem installCri_eq (l : Linux) (t : Task.Cri) : l.installCri t =
    (Procedure.run (command l t.runtime .probe) l.commandTimeout >>= fun output =>
      l.installAsked t.runtime output.success) := by
  rfl

theorem takes_installFresh (l : Linux) (runtime : Task.Runtime) : (l.installFresh runtime).Takes
    (.must (command l runtime .install) :: (l.configStages runtime ++ [.must (command l runtime .start)])) :=
  Procedure.takes_bind (l.takes_sh _) fun _ => Procedure.takes_bind (l.takes_configureRuntime runtime) fun _ =>
    Procedure.takes_bind (l.takes_sh _) fun _ => Procedure.takes_pure _

theorem takes_installAsked {active : Bool} (notKept : active = true → runtime.reinstall = true) :
    (l.installAsked runtime active).Takes (l.installStages runtime active) := by
  unfold installAsked installStages
  cases active with
  | false => exact l.takes_installFresh runtime
  | true =>
    rw [notKept rfl]
    exact Procedure.takes_bind (l.takes_uninstallRuntime runtime) fun _ => l.takes_installFresh runtime

theorem criReport_skipped (skipped service : String) :
    (criReport skipped service).get? ReturnKey.criSkipped = some skipped := by
  have differ : ReturnKey.criSkipped ≠ ReturnKey.criRuntime := by decide
  unfold criReport Dict.ofList
  rw [List.foldl_cons, List.foldl_cons, List.foldl_nil, Dict.get?_insert_of_ne differ, Dict.get?_insert_self]

/-- It reports whether the runtime was kept. -/
theorem installAsked_ok {active : Bool} {data : ReturnData}
    (yields : (l.installAsked runtime active).Yields es (.ok data)) :
    data = criReport (if active && !runtime.reinstall then "true" else "false") runtime.kind.service := by
  have fresh : ∀ {es}, (l.installFresh runtime).Yields es (.ok data) →
      data = criReport "false" runtime.kind.service := by
    intro es yields
    obtain ⟨_, _, _, -, -, yields⟩ := Procedure.yields_bind_ok.1 yields
    obtain ⟨_, _, _, -, -, yields⟩ := Procedure.yields_bind_ok.1 yields
    obtain ⟨_, _, _, -, -, yields⟩ := Procedure.yields_bind_ok.1 yields
    exact Except.ok.inj (Procedure.yields_pure.1 yields).2
  unfold installAsked at yields
  split at yields
  · next kept =>
    rw [if_pos kept]
    exact Except.ok.inj (Procedure.yields_pure.1 yields).2
  · next notKept =>
    rw [if_neg notKept]
    split at yields
    · obtain ⟨_, _, _, -, -, yields⟩ := Procedure.yields_bind_ok.1 yields
      exact fresh yields
    · exact fresh yields

/-! ### The order of things -/

/-- The service was asked for and is active. -/
def Active (l : Linux) (runtime : Task.Runtime) (es : Transcript) : Prop :=
  (Stage.must (command l runtime .probe)).PassedIn es

/-- The service was asked for and is not active. -/
def Inactive (l : Linux) (runtime : Task.Runtime) (es : Transcript) : Prop :=
  ∃ limit output, .ran (command l runtime .probe) limit (.ok output) ∈ es ∧ output.code ≠ 0

/-- Package and data were removed. -/
def Removed (l : Linux) (runtime : Task.Runtime) (es : Transcript) : Prop :=
  (Stage.must (command l runtime .removePackage)).PassedIn es ∧
    (Stage.must (command l runtime .removeData)).PassedIn es

theorem Removed.mono {es' : Transcript} (removed : Removed l runtime es) (subset : es ⊆ es') :
    Removed l runtime es' :=
  ⟨removed.1.mono subset, removed.2.mono subset⟩

/-- A runtime is kept, or its installation takes its stages. -/
theorem installCri_yields {t : Task.Cri} {outcome : Except ProviderError ReturnData}
    (yields : (l.installCri t).Yields es outcome) :
    ∃ answer rest, es = .ran (command l t.runtime .probe) l.commandTimeout answer :: rest ∧
      ((rest = [] ∧ ∀ data, outcome = .ok data → data = criReport "true" t.runtime.kind.service) ∨
        ∃ output, answer = .ok output ∧ (output.code = 0 → t.runtime.reinstall = true) ∧
          Course (l.installStages t.runtime output.success) rest (Procedure.failure? outcome) ∧
          ∀ data, outcome = .ok data → data = criReport "false" t.runtime.kind.service) := by
  rw [installCri_eq] at yields
  rcases Procedure.yields_bind.1 yields with ⟨e, failed, rfl⟩ | ⟨output, _, rest, rfl, asked, onward⟩
  · exact ⟨_, [], Procedure.yields_run.1 failed, .inl ⟨rfl, nofun⟩⟩
  · refine ⟨_, rest, by rw [Procedure.yields_run.1 asked]; rfl, ?_⟩
    cases kept : output.success && !t.runtime.reinstall with
    | true =>
      rw [installAsked, if_pos kept] at onward
      obtain ⟨rfl, rfl⟩ := Procedure.yields_pure.1 onward
      exact .inl ⟨rfl, fun data same => (Except.ok.inj same).symm⟩
    | false =>
      have notKept : output.success = true → t.runtime.reinstall = true := by simpa using kept
      refine .inr ⟨output, rfl, ?_, takes_installAsked notKept rest outcome onward, ?_⟩
      · intro zero
        exact notKept (by simp [CommandOutput.success, zero])
      · rintro data rfl
        rw [installAsked_ok onward, kept]
        rfl

section Placement

variable {active : Bool} {failure : Option ProviderError} {limit : Option Nat}
  {answer : Except ProviderError CommandOutput} {stage : Stage} {step : RuntimeStep}

/-- A command belongs to one step. -/
theorem step_unique {step' : RuntimeStep} {limit' : Option Nat} {answer' : Except ProviderError CommandOutput}
    (same : .ran (command l runtime step) limit answer =
      Script.Entry.ran (command l runtime step') limit' answer') :
    step = step' :=
  command_injective l runtime (Script.Entry.ran.inj same).1

theorem does_removalStages (listed : stage ∈ l.removalStages runtime) (does : stage.Does entry) :
    ∃ step ∈ [RuntimeStep.stop, .removePackage, .removeData], ∃ limit answer,
      entry = .ran (command l runtime step) limit answer := by
  simp only [removalStages, List.mem_cons, List.not_mem_nil, or_false] at listed
  rcases listed with rfl | rfl | rfl
  · exact ⟨.stop, by decide, Stage.does_may_iff.1 does⟩
  · exact ⟨.removePackage, by decide, Stage.does_must_iff.1 does⟩
  · exact ⟨.removeData, by decide, Stage.does_must_iff.1 does⟩

theorem does_configStages (listed : stage ∈ l.configStages runtime) (does : stage.Does entry) :
    (∃ limit answer, entry = .ran (command l runtime .printDefaults) limit answer) ∨
      ∃ path data mode answer, runtimeConfig? runtime.kind = some path ∧
        entry = .touched (.write (l.hostPath path) data mode) answer := by
  rcases List.mem_append.1 listed with printing | writing
  · split at printing
    · obtain rfl := List.mem_singleton.1 printing
      exact .inl (Stage.does_must_iff.1 does)
    · cases printing
  · obtain ⟨path, config, rfl⟩ := List.mem_map.1 writing
    obtain ⟨data, mode, answer, rfl⟩ := Stage.does_write_iff.1 does
    exact .inr ⟨path, data, mode, answer, Option.mem_toList.1 config, rfl⟩

/-- A command that belongs to no stage of the removal. -/
theorem not_does_removal (other : step ∉ [RuntimeStep.stop, .removePackage, .removeData]) :
    ∀ stage ∈ (if active then l.removalStages runtime else []),
      ¬ stage.Does (.ran (command l runtime step) limit answer) := by
  intro stage listed does
  cases active with
  | false => cases listed
  | true =>
    obtain ⟨step', which, _, _, same⟩ := does_removalStages listed does
    obtain rfl := step_unique same
    exact other which

/-- A command that belongs to no stage of the configuration. -/
theorem not_does_config (other : step ≠ .printDefaults) :
    ∀ stage ∈ l.configStages runtime, ¬ stage.Does (.ran (command l runtime step) limit answer) := by
  intro stage listed does
  rcases does_configStages listed does with ⟨_, _, same⟩ | ⟨_, _, _, _, -, same⟩
  · exact other (step_unique same)
  · cases same

theorem not_does_step {step' : RuntimeStep} (other : step ≠ step') :
    ¬ (Stage.must (command l runtime step')).Does (.ran (command l runtime step) limit answer) := by
  intro does
  obtain ⟨_, _, same⟩ := Stage.does_must_iff.1 does
  exact other (step_unique same)

/-- Only an active runtime is removed. -/
theorem active_of_removal (course : Course (l.installStages runtime active)
      (before ++ .ran (command l runtime step) limit answer :: after) failure)
    (removing : step = .removePackage ∨ step = .removeData) : active = true := by
  obtain ⟨stage, listed, does⟩ := course.exists_stage (List.mem_append_right before List.mem_cons_self)
  have others : step ≠ .install ∧ step ≠ .printDefaults ∧ step ≠ .start := by
    rcases removing with rfl | rfl <;> decide
  rcases List.mem_append.1 listed with removal | installing
  · cases active with
    | true => rfl
    | false => cases removal
  · rcases List.mem_cons.1 installing with rfl | behind
    · exact absurd does (not_does_step others.1)
    · rcases List.mem_append.1 behind with config | starting
      · exact absurd does (not_does_config others.2.1 stage config)
      · obtain rfl := List.mem_singleton.1 starting
        exact absurd does (not_does_step others.2.2)

/-- An active runtime is removed before it is installed. -/
theorem removed_of_install (course : Course (l.installStages runtime true)
      (before ++ .ran (command l runtime .install) limit answer :: after) failure) :
    Removed l runtime before := by
  obtain ⟨front, back, rfl, passed, -⟩ := course.behind (not_does_removal (by decide))
  have removed : Removed l runtime front :=
    ⟨Stage.passedIn_of_forall₂ passed (by simp [removalStages]),
      Stage.passedIn_of_forall₂ passed (by simp [removalStages])⟩
  exact removed.mono (List.subset_append_left front back)

/-- A file that is written is the configuration, and the runtime was installed before. -/
theorem installed_of_touched {request : FileRequest} {given : Except FileError String}
    (course : Course (l.installStages runtime active) (before ++ .touched request given :: after) failure) :
    (Stage.must (command l runtime .install)).PassedIn before ∧
      ∃ path data mode, runtimeConfig? runtime.kind = some path ∧ request = .write (l.hostPath path) data mode := by
  rw [installStages, ← List.singleton_append, ← List.append_assoc] at course
  have notBefore : ∀ stage ∈ (if active then l.removalStages runtime else []) ++
      [.must (command l runtime .install)], ¬ stage.Does (.touched request given) := by
    intro stage listed does
    rcases List.mem_append.1 listed with removal | installing
    · cases active with
      | false => cases removal
      | true =>
        obtain ⟨_, -, _, _, same⟩ := does_removalStages removal does
        cases same
    · obtain rfl := List.mem_singleton.1 installing
      cases does
  obtain ⟨front, back, rfl, passed, later⟩ := course.behind notBefore
  constructor
  · exact (Stage.passedIn_of_forall₂ passed (by simp)).mono (List.subset_append_left front back)
  · obtain ⟨stage, listed, does⟩ := later.exists_stage (List.mem_append_right back List.mem_cons_self)
    rcases List.mem_append.1 listed with config | starting
    · rcases does_configStages config does with ⟨_, _, same⟩ | ⟨path, data, mode, _, config, same⟩
      · cases same
      · exact ⟨path, data, mode, config, (Script.Entry.touched.inj same).1⟩
    · obtain rfl := List.mem_singleton.1 starting
      cases does

/-- The start is the last stage, and all before it were passed. -/
theorem passed_of_start (course : Course (l.installStages runtime active)
      (before ++ .ran (command l runtime .start) limit answer :: after) failure) :
    after = [] ∧ List.Forall₂ Stage.Passes ((if active then l.removalStages runtime else []) ++
      .must (command l runtime .install) :: l.configStages runtime) before ∧
      Course [.must (command l runtime .start)] [.ran (command l runtime .start) limit answer] failure := by
  rw [installStages, ← List.cons_append, ← List.append_assoc] at course
  have notBefore : ∀ stage ∈ (if active then l.removalStages runtime else []) ++
      .must (command l runtime .install) :: l.configStages runtime,
      ¬ stage.Does (.ran (command l runtime .start) limit answer) := by
    intro stage listed
    rcases List.mem_append.1 listed with removal | installing
    · exact not_does_removal (by decide) stage removal
    · rcases List.mem_cons.1 installing with rfl | config
      · exact not_does_step (by decide)
      · exact not_does_config (by decide) stage config
  obtain ⟨front, back, rfl, passed, later⟩ := course.behind notBefore
  obtain ⟨rfl, rfl, -⟩ := later.last
  rw [List.append_nil]
  exact ⟨rfl, passed, later⟩

end Placement

section Order

variable {t : Task.Cri} {outcome : Except ProviderError ReturnData}

/-- Whatever is done besides asking for the service stands behind it, and is done in the stages. -/
theorem behind_probe (yields : (l.installCri t).Yields (before ++ entry :: after) outcome)
    (other : ¬ (Stage.must (command l t.runtime .probe)).Does entry) :
    ∃ output front, before = .ran (command l t.runtime .probe) l.commandTimeout (.ok output) :: front ∧
      (output.code = 0 → t.runtime.reinstall = true) ∧
      Course (l.installStages t.runtime output.success) (front ++ entry :: after) (Procedure.failure? outcome) ∧
      ∀ data, outcome = .ok data → data = criReport "false" t.runtime.kind.service := by
  obtain ⟨answer, rest, same, ended⟩ := installCri_yields yields
  rcases List.append_eq_cons_iff.1 same with ⟨rfl, first⟩ | ⟨front, rfl, rfl⟩
  · obtain rfl := (List.cons.inj first).1
    exact absurd .must other
  · rcases ended with ⟨none, -⟩ | ⟨output, rfl, again, course, report⟩
    · simp at none
    · exact ⟨output, front, rfl, again, course, report⟩

/-- An answer to the probe tells whether the service is active. -/
theorem active_or_inactive {limit : Option Nat} {output : CommandOutput} (front : Transcript) :
    (output.success = true ∧ output.code = 0 ∧
        Active l runtime (.ran (command l runtime .probe) limit (.ok output) :: front)) ∨
      output.success = false ∧ Inactive l runtime (.ran (command l runtime .probe) limit (.ok output) :: front) := by
  by_cases zero : output.code = 0
  · exact .inl ⟨decide_eq_true zero, zero, _, List.mem_cons_self, .must zero⟩
  · exact .inr ⟨decide_eq_false zero, limit, output, List.mem_cons_self, zero⟩

/-- In which order a container runtime is installed, wherever that fails. -/
structure InstallOrder (l : Linux) (runtime : Task.Runtime) (es : Transcript)
    (outcome : Except ProviderError ReturnData) : Prop where
  /-- First the service is asked for. -/
  probe : ∃ answer rest, es = .ran (command l runtime .probe) l.commandTimeout answer :: rest
  /-- If it is active and to be kept, nothing else is done. -/
  kept : ∀ {limit output rest}, es = .ran (command l runtime .probe) limit (.ok output) :: rest →
    output.code = 0 → runtime.reinstall = false → rest = []
  /-- Package and data are removed only from an active runtime that is to be installed anew. -/
  removal : ∀ {before entry after}, es = before ++ entry :: after →
    (Stage.must (command l runtime .removePackage)).Does entry ∨
      (Stage.must (command l runtime .removeData)).Does entry →
    Active l runtime before ∧ runtime.reinstall = true
  /-- It is installed only if it is inactive, or if package and data were removed before. -/
  install : ∀ {before entry after}, es = before ++ entry :: after →
    (Stage.must (command l runtime .install)).Does entry → Inactive l runtime before ∨ Removed l runtime before
  /-- A file is touched only to write the configuration, after the installation. -/
  configuration : ∀ {before request answer after}, es = before ++ .touched request answer :: after →
    (Stage.must (command l runtime .install)).PassedIn before ∧
      ∃ path data mode, runtimeConfig? runtime.kind = some path ∧ request = .write (l.hostPath path) data mode
  /-- It is started last, after all of these: only asking for the service and stopping it may have failed. -/
  start : ∀ {before entry after}, es = before ++ entry :: after →
    (Stage.must (command l runtime .start)).Does entry →
    after = [] ∧ (Inactive l runtime before ∨ Removed l runtime before) ∧
      (Stage.must (command l runtime .install)).PassedIn before ∧
      (∀ path, runtimeConfig? runtime.kind = some path → (Stage.write path (l.hostPath path)).PassedIn before) ∧
      ∀ earlier ∈ before, earlier.succeeded = true ∨ (Stage.must (command l runtime .probe)).Does earlier ∨
        (Stage.may (command l runtime .stop)).Does earlier
  /-- That it was not kept is reported exactly if it was started. -/
  report : (∃ data, outcome = .ok data ∧ data.get? ReturnKey.criSkipped = some "false") ↔
    (Stage.must (command l runtime .start)).PassedIn es

/-- Before the start, everything else was done and went well. -/
theorem all_before_start {active : Bool} (passed : List.Forall₂ Stage.Passes
      ((if active then l.removalStages runtime else []) ++
        .must (command l runtime .install) :: l.configStages runtime) before) :
    (active = true → Removed l runtime before) ∧
      (Stage.must (command l runtime .install)).PassedIn before ∧
      (∀ path, runtimeConfig? runtime.kind = some path → (Stage.write path (l.hostPath path)).PassedIn before) ∧
      ∀ earlier ∈ before, earlier.succeeded = true ∨ (Stage.may (command l runtime .stop)).Does earlier := by
  refine ⟨?_, ?_, ?_, ?_⟩
  · rintro rfl
    exact ⟨Stage.passedIn_of_forall₂ passed (by simp [removalStages]),
      Stage.passedIn_of_forall₂ passed (by simp [removalStages])⟩
  · exact Stage.passedIn_of_forall₂ passed (by simp)
  · intro path config
    exact Stage.passedIn_of_forall₂ passed (by simp [configStages, config])
  · intro earlier member
    obtain ⟨stage, listed, passes⟩ := Stage.exists_passes_of_forall₂ passed member
    rcases passes.succeeded with succeeded | ⟨command, rfl⟩
    · exact .inl succeeded
    · have lenient : command = RuntimeStep.command l runtime .stop := by
        rcases List.mem_append.1 listed with removal | installing
        · cases active with
          | false => cases removal
          | true => simpa [removalStages] using removal
        · simp [configStages] at installing
      rw [lenient] at passes
      exact .inr passes.does

/-- What is removed was active, and is to be installed anew. -/
theorem active_before_removal {step : RuntimeStep} {limit : Option Nat}
    {answer : Except ProviderError CommandOutput}
    (yields : (l.installCri t).Yields (before ++ .ran (command l t.runtime step) limit answer :: after) outcome)
    (removing : step = .removePackage ∨ step = .removeData) :
    Active l t.runtime before ∧ t.runtime.reinstall = true := by
  have other : step ≠ .probe := by rcases removing with rfl | rfl <;> decide
  obtain ⟨output, front, rfl, again, course, -⟩ := behind_probe yields (not_does_step other)
  have success := active_of_removal course removing
  rcases active_or_inactive front with ⟨-, zero, active⟩ | ⟨failed, -⟩
  · exact ⟨active, again zero⟩
  · rw [success] at failed
    cases failed

/-- What is started was asked for, removed if it was active, installed and configured, and that is the end. -/
theorem all_before_last {limit : Option Nat} {answer : Except ProviderError CommandOutput}
    (yields : (l.installCri t).Yields (before ++ .ran (command l t.runtime .start) limit answer :: after) outcome) :
    after = [] ∧ (Inactive l t.runtime before ∨ Removed l t.runtime before) ∧
      (Stage.must (command l t.runtime .install)).PassedIn before ∧
      (∀ path, runtimeConfig? t.runtime.kind = some path → (Stage.write path (l.hostPath path)).PassedIn before) ∧
      ∀ earlier ∈ before, earlier.succeeded = true ∨ (Stage.must (command l t.runtime .probe)).Does earlier ∨
        (Stage.may (command l t.runtime .stop)).Does earlier := by
  obtain ⟨output, front, rfl, -, course, -⟩ := behind_probe yields (not_does_step (by decide))
  obtain ⟨rfl, passed, -⟩ := passed_of_start course
  obtain ⟨removed, installed, configured, succeeded⟩ := all_before_start passed
  have inFront := List.subset_cons_self (.ran (command l t.runtime .probe) l.commandTimeout (.ok output)) front
  refine ⟨rfl, ?_, installed.mono inFront, fun path config => (configured path config).mono inFront, ?_⟩
  · rcases active_or_inactive front with ⟨success, -, -⟩ | ⟨-, inactive⟩
    · exact .inr ((removed success).mono inFront)
    · exact .inl inactive
  · intro earlier member
    rcases List.mem_cons.1 member with rfl | inside
    · exact .inr (.inl .must)
    · rcases succeeded earlier inside with succeeded | stopped
      · exact .inl succeeded
      · exact .inr (.inr stopped)

/-- The report says that the runtime was not kept exactly if it was started. -/
theorem reported_iff_started (yields : (l.installCri t).Yields es outcome) :
    (∃ data, outcome = .ok data ∧ data.get? ReturnKey.criSkipped = some "false") ↔
      (Stage.must (command l t.runtime .start)).PassedIn es := by
  constructor
  · rintro ⟨data, rfl, skipped⟩
    obtain ⟨answer, rest, rfl, ⟨-, report⟩ | ⟨output, rfl, -, course, -⟩⟩ := installCri_yields yields
    · rw [report data rfl, criReport_skipped] at skipped
      exact absurd (Option.some.inj skipped) (by decide)
    · have started : (Stage.must (command l t.runtime .start)).PassedIn rest :=
        Stage.passedIn_of_forall₂ (Course.none_iff.1 course) (by simp [installStages])
      exact started.mono (List.subset_cons_self _ _)
  · rintro ⟨entry, member, passes⟩
    obtain ⟨before, after, rfl⟩ := List.mem_iff_append.1 member
    obtain ⟨limit, answer, rfl⟩ := Stage.does_must_iff.1 passes.does
    obtain ⟨output, front, rfl, -, course, report⟩ := behind_probe yields (not_does_step (by decide))
    obtain ⟨rfl, -, last⟩ := passed_of_start course
    have succeeded : Procedure.failure? outcome = none := last.failure_eq_none_iff.2 (.cons passes .nil)
    cases outcome with
    | error e => cases succeeded
    | ok data =>
      refine ⟨data, rfl, ?_⟩
      rw [report data rfl, criReport_skipped]

/-- Wherever an installation ends, things were done in their order. -/
theorem installOrder_of_yields (yields : (l.installCri t).Yields es outcome) :
    InstallOrder l t.runtime es outcome where
  probe := by
    obtain ⟨answer, rest, same, -⟩ := installCri_yields yields
    exact ⟨answer, rest, same⟩
  kept := by
    rintro limit output rest rfl zero keep
    obtain ⟨answer, _, same, ended⟩ := installCri_yields yields
    obtain ⟨first, rfl⟩ := List.cons.inj same
    rcases ended with ⟨rfl, -⟩ | ⟨_, rfl, again, -⟩
    · rfl
    · obtain rfl := Except.ok.inj (Script.Entry.ran.inj first).2.2
      rw [again zero] at keep
      cases keep
  removal := by
    rintro before entry after rfl (does | does)
    · obtain ⟨limit, answer, rfl⟩ := Stage.does_must_iff.1 does
      exact active_before_removal yields (.inl rfl)
    · obtain ⟨limit, answer, rfl⟩ := Stage.does_must_iff.1 does
      exact active_before_removal yields (.inr rfl)
  install := by
    rintro before entry after rfl does
    obtain ⟨limit, answer, rfl⟩ := Stage.does_must_iff.1 does
    obtain ⟨output, front, rfl, -, course, -⟩ := behind_probe yields (not_does_step (by decide))
    rcases active_or_inactive front with ⟨success, -, -⟩ | ⟨-, inactive⟩
    · rw [success] at course
      exact .inr ((removed_of_install course).mono (List.subset_cons_self _ _))
    · exact .inl inactive
  configuration := by
    rintro before request answer after rfl
    obtain ⟨output, front, rfl, -, course, -⟩ := behind_probe yields nofun
    obtain ⟨installed, config⟩ := installed_of_touched course
    exact ⟨installed.mono (List.subset_cons_self _ _), config⟩
  start := by
    rintro before entry after rfl does
    obtain ⟨limit, answer, rfl⟩ := Stage.does_must_iff.1 does
    exact all_before_last yields
  report := reported_iff_started yields

end Order

/-- **A container runtime is installed in order.** Whoever answers, the installation comes to an outcome, and
whatever its commands and files answer, what was done stands in the order of `InstallOrder`. -/
theorem installCri_in_order (l : Linux) (t : Task.Cri) :
    (∀ r : Respondent, ∃ es outcome, (l.installCri t).Yields es outcome ∧ r.Answers [] es) ∧
      ∀ es outcome, (l.installCri t).Yields es outcome → InstallOrder l t.runtime es outcome :=
  ⟨fun r => Script.exists_yields r _ [], fun _ _ => installOrder_of_yields⟩

/-- A machine with dnf. -/
def dnfMachine : Linux :=
  { platform := ⟨"rocky", "9"⟩, packages := .dnf, retry := ⟨1, 0⟩, commandTimeout := none, root := "/" }

/-- A containerd that is installed anew. -/
def anew : Task.Cri := ⟨.creating, ⟨.containerd, "", true, none⟩⟩

/-- A command of its installation that ends with a code and prints nothing. -/
def ends (step : RuntimeStep) (code : Int) : Script.Entry :=
  .ran (command dnfMachine anew.runtime step) none (.ok ⟨code, "", ""⟩)

/-- It runs and does not stop, but all else goes well. -/
def anewRun : Transcript :=
  [ends .probe 0, ends .stop 1, ends .removePackage 0, ends .removeData 0, ends .install 0, ends .printDefaults 0,
    .touched (.write (dnfMachine.hostPath containerdConfigFile) (containerdConfig "" none).toUTF8 none) (.ok ""),
    ends .start 0]

theorem anewRun_yields : (dnfMachine.installCri anew).Yields anewRun (.ok (criReport "false" "containerd")) := by
  have ran : ∀ step, (dnfMachine.sh (command dnfMachine anew.runtime step)).Yields [ends step 0] (.ok ⟨0, "", ""⟩) :=
    fun step => Procedure.yields_runChecked_ok.2 ⟨rfl, rfl⟩
  have removed : (dnfMachine.uninstallRuntime anew.runtime).Yields
      [ends .stop 1, ends .removePackage 0, ends .removeData 0] (.ok ()) :=
    Procedure.yields_bind_ok.2 ⟨_, [ends .stop 1], _, rfl, Procedure.yields_runAnyway.2 ⟨_, rfl, rfl⟩,
      Procedure.yields_bind_ok.2 ⟨_, _, _, rfl, ran .removePackage,
        Procedure.yields_bind_ok.2 ⟨_, _, _, rfl, ran .removeData, Procedure.yields_pure.2 ⟨rfl, rfl⟩⟩⟩⟩
  have written : (dnfMachine.writeFile containerdConfigFile (containerdConfig "" none).toUTF8 none).Yields
      [.touched (.write (dnfMachine.hostPath containerdConfigFile) (containerdConfig "" none).toUTF8 none) (.ok "")]
      (.ok ()) := Procedure.yields_map.2 ⟨.ok "", Procedure.yields_file.2 ⟨.ok "", rfl, rfl⟩, rfl⟩
  have configured : (dnfMachine.configureRuntime anew.runtime).Yields [ends .printDefaults 0,
      .touched (.write (dnfMachine.hostPath containerdConfigFile) (containerdConfig "" none).toUTF8 none) (.ok "")]
      (.ok ()) := Procedure.yields_bind_ok.2 ⟨_, _, _, rfl, ran .printDefaults, written⟩
  rw [installCri_eq]
  exact Procedure.yields_bind_ok.2 ⟨⟨0, "", ""⟩, _, _, rfl, Procedure.yields_run.2 rfl,
    Procedure.yields_bind_ok.2 ⟨_, _, _, rfl, removed, Procedure.yields_bind_ok.2 ⟨_, _, _, rfl, ran .install,
      Procedure.yields_bind_ok.2 ⟨_, _, _, rfl, configured,
        Procedure.yields_bind_ok.2 ⟨_, _, _, rfl, ran .start, Procedure.yields_pure.2 ⟨rfl, rfl⟩⟩⟩⟩⟩⟩

/-- It is started at the end, behind its removal and its configuration. -/
theorem anewRun_in_order :
    Removed dnfMachine anew.runtime (anewRun.take 4) ∧
      (Stage.write containerdConfigFile (dnfMachine.hostPath containerdConfigFile)).PassedIn (anewRun.take 7) ∧
      (criReport "false" "containerd").get? ReturnKey.criSkipped = some "false" := by
  have order := (installCri_in_order dnfMachine anew).2 _ _ anewRun_yields
  have active : ¬ Inactive dnfMachine anew.runtime (anewRun.take 4) := by
    rintro ⟨limit, output, member, nonzero⟩
    obtain same | same | same | same : _ = ends .probe 0 ∨ _ = ends .stop 1 ∨ _ = ends .removePackage 0 ∨
      _ = ends .removeData 0 := by simpa [anewRun] using member
    · obtain rfl := Except.ok.inj (Script.Entry.ran.inj same).2.2
      exact nonzero rfl
    all_goals cases step_unique same
  have started : (Stage.must (command dnfMachine anew.runtime .start)).PassedIn anewRun :=
    ⟨ends .start 0, by simp [anewRun], .must rfl⟩
  refine ⟨(order.install rfl .must).resolve_left active, ?_, ?_⟩
  · have last : anewRun = anewRun.take 7 ++ [ends .start 0] := rfl
    obtain ⟨-, -, -, configured, -⟩ := order.start last .must
    exact configured _ rfl
  · obtain ⟨data, same, skipped⟩ := order.report.2 started
    rwa [Except.ok.inj same]

end Linux

end Muster
