import Muster.Proofs.Words
import Muster.Provider.Kubeadm

/-!
# Join commands in normal form

A join command passes through `normalize` wherever it is printed, returned or run, so this has to change
nothing the second time. A command is in normal form if single spaces part its words and no word ends in a
backslash; these are the commands that `normalize` leaves as they are (`normalize_eq_self_iff`). Replacing
the endpoint edits the one word behind the first `join`, if it is no option; a later endpoint replaces an
earlier one (`endpoint_replaced`). What is put in has to be in normal form and not empty for the command to
stay in normal form (`normalize_rewriteEndpoint_iff`).
-/

set_option autoImplicit false

namespace Muster.Kubeadm

open Text (IsWord Spaced)

variable {s : List Char} {c e e₁ e₂ w : String} {us vs ws : List String}

/-! ### The words that the normal form keeps -/

/-- The words of a text without the backslashes at their ends; a word of backslashes only is dropped. -/
def arguments (raw : List Char) : List String :=
  ((Text.wordsOf raw).map fun w => String.ofList (Text.dropTrailing (· == '\\') w)).filter (!·.isEmpty)

theorem normalize_eq (raw : String) : normalize raw = Text.join " " (arguments raw.toList) := by
  simp [normalize, arguments, Text.words, Text.trimEndOf, Function.comp_def]

/-- A word that does not end in a backslash. -/
structure IsArgument (w : String) : Prop where
  word : IsWord w.toList
  closed : w.toList.getLast? ≠ some '\\'

instance : DecidablePred IsArgument := fun w =>
  decidable_of_iff (IsWord w.toList ∧ w.toList.getLast? ≠ some '\\')
    ⟨fun ⟨word, closed⟩ => ⟨word, closed⟩, fun arg => ⟨arg.word, arg.closed⟩⟩

theorem arguments_append {x : Char} (s t : List Char) (blank : Text.isBlank x = true) :
    arguments (s ++ x :: t) = arguments s ++ arguments t := by
  simp [arguments, Text.wordsOf_append s t blank]

theorem arguments_join (ws : List String) :
    arguments (Text.join " " ws).toList = ws.flatMap fun w => arguments w.toList := by
  simp [arguments, Text.wordsOf_join, List.map_flatMap, List.filter_flatMap]

theorem IsArgument.arguments_eq (arg : IsArgument w) : arguments w.toList = [w] := by
  have kept : Text.dropTrailing (· == '\\') w.toList = w.toList :=
    Text.dropTrailing_eq_self fun x last => by
      have other : x ≠ '\\' := by
        rintro rfl
        exact arg.closed last
      simpa using other
  have notEmpty : w.isEmpty = false := by simpa using arg.word.ne_nil
  simp [arguments, arg.word.wordsOf_eq, kept, notEmpty]

theorem isArgument_of_mem_arguments (member : w ∈ arguments s) : IsArgument w := by
  obtain ⟨mapped, kept⟩ := List.mem_filter.1 member
  obtain ⟨word, inWords, rfl⟩ := List.mem_map.1 mapped
  have isWord := Text.isWord_of_mem_wordsOf inWords
  refine ⟨⟨by simpa using kept, fun x inside => isWord.solid x ?_⟩, fun last => ?_⟩
  · exact Text.mem_of_mem_dropTrailing (by simpa using inside)
  · rw [String.toList_ofList] at last
    exact absurd (Text.getLast?_dropTrailing last) (by decide)

theorem arguments_join_of_isArgument (args : ∀ w ∈ ws, IsArgument w) :
    arguments (Text.join " " ws).toList = ws := by
  rw [arguments_join, List.flatMap_congr fun w member => (args w member).arguments_eq, List.flatMap_singleton']

/-! ### The normal form -/

/-- Single spaces part the words, and no word ends in a backslash. -/
structure NormalForm (command : String) : Prop where
  spaced : Spaced command.toList
  closed : ∀ w ∈ Text.words command, w.toList.getLast? ≠ some '\\'

theorem normalForm_join (args : ∀ w ∈ ws, IsArgument w) : NormalForm (Text.join " " ws) where
  spaced := Text.spaced_join fun w member => (args w member).word
  closed w member := by
    rw [Text.words_join fun w member => (args w member).word] at member
    exact (args w member).closed

theorem normalForm_normalize (raw : String) : NormalForm (normalize raw) := by
  rw [normalize_eq]
  exact normalForm_join fun w => isArgument_of_mem_arguments

theorem isWord_of_mem_words (member : w ∈ Text.words c) : IsWord w.toList := by
  obtain ⟨word, inWords, rfl⟩ := List.mem_map.1 member
  rw [String.toList_ofList]
  exact Text.isWord_of_mem_wordsOf inWords

theorem NormalForm.isArgument (normal : NormalForm c) (member : w ∈ Text.words c) : IsArgument w :=
  ⟨isWord_of_mem_words member, normal.closed w member⟩

/-- A command in normal form stays as it is. -/
theorem NormalForm.normalize_eq (normal : NormalForm c) : normalize c = c := by
  have same := normal.spaced.join_words
  rw [Kubeadm.normalize_eq, ← same, arguments_join_of_isArgument fun w => normal.isArgument]

/-- **The normal form**: the commands that stay as they are. -/
theorem normalize_eq_self_iff : normalize c = c ↔ NormalForm c :=
  ⟨fun same => same ▸ normalForm_normalize c, NormalForm.normalize_eq⟩

theorem normalize_normalize (raw : String) : normalize (normalize raw) = normalize raw :=
  (normalForm_normalize raw).normalize_eq

/-! ### Replacing the endpoint -/

/-- The place behind the first `join`. -/
def endpointPlace (ws : List String) : Nat := ws.idxOf "join" + 1

/-- The word for the place of the endpoint: an option stays. -/
def endpointFor (e next : String) : String := if Text.startsWith "--" next then next else e

theorem endpointPlace_cons {word : String} (other : word ≠ "join") (rest : List String) :
    endpointPlace (word :: rest) = endpointPlace rest + 1 := by
  rw [endpointPlace, List.idxOf_cons_ne rest other, endpointPlace]

/-- Replacing the endpoint edits the word behind the first `join`. -/
theorem replaceEndpoint_eq (e : String) (ws : List String) :
    replaceEndpoint e ws = ws.modify (endpointPlace ws) (endpointFor e) := by
  induction ws with
  | nil => rfl
  | cons word rest ih =>
    by_cases here : word = "join"
    · subst here
      cases rest with
      | nil => simp [replaceEndpoint, endpointPlace]
      | cons next more =>
        rw [endpointPlace, List.idxOf_cons_self]
        simp only [replaceEndpoint, if_true, List.modify_succ_cons, List.modify_zero_cons, endpointFor]
        split <;> rfl
    · rw [endpointPlace_cons here, List.modify_succ_cons, ← ih]
      simp [replaceEndpoint, here]

/-- What is done to the word behind the first `join` does not move that. -/
theorem endpointPlace_modify (f : String → String) (ws : List String) :
    endpointPlace (ws.modify (endpointPlace ws) f) = endpointPlace ws := by
  induction ws with
  | nil => rfl
  | cons word rest ih =>
    by_cases here : word = "join"
    · simp [endpointPlace, here]
    · rw [endpointPlace_cons here, List.modify_succ_cons, endpointPlace_cons here, ih]

theorem mem_replaceEndpoint (member : w ∈ replaceEndpoint e ws) : w ∈ ws ∨ w = e := by
  rw [replaceEndpoint_eq] at member
  obtain ⟨k, here⟩ := List.mem_iff_getElem?.1 member
  rw [List.getElem?_modify] at here
  obtain ⟨old, found, rfl⟩ := Option.map_eq_some_iff.1 here
  have oldMember := List.mem_of_getElem? found
  split
  · rw [endpointFor]
    split
    · exact .inl oldMember
    · exact .inr rfl
  · exact .inl oldMember

theorem words_rewriteEndpoint (command : String) (word : IsWord e.toList) :
    Text.words (rewriteEndpoint command e) = replaceEndpoint e (Text.words command) := by
  refine Text.words_join fun w member => ?_
  rcases mem_replaceEndpoint member with old | rfl
  · exact isWord_of_mem_words old
  · exact word

theorem normalForm_rewriteEndpoint (normal : NormalForm c) (arg : IsArgument e) :
    NormalForm (rewriteEndpoint c e) := by
  refine normalForm_join fun w member => ?_
  rcases mem_replaceEndpoint member with old | rfl
  · exact normal.isArgument old
  · exact arg

/-- An endpoint: a word that ends in no backslash and is no option. -/
structure IsEndpoint (e : String) : Prop extends IsArgument e where
  address : Text.startsWith "--" e = false

instance : DecidablePred IsEndpoint := fun e =>
  decidable_of_iff (IsArgument e ∧ Text.startsWith "--" e = false)
    ⟨fun ⟨arg, address⟩ => ⟨arg, address⟩, fun endpoint => ⟨endpoint.toIsArgument, endpoint.address⟩⟩

theorem endpointFor_endpointFor (address : Text.startsWith "--" e₁ = false) :
    endpointFor e₂ ∘ endpointFor e₁ = endpointFor e₂ := by
  funext next
  cases option : Text.startsWith "--" next <;> simp [endpointFor, option, address]

/-- A later endpoint replaces an earlier one. -/
theorem rewriteEndpoint_rewriteEndpoint (command : String) (endpoint : IsEndpoint e₁) :
    rewriteEndpoint (rewriteEndpoint command e₁) e₂ = rewriteEndpoint command e₂ := by
  have ws : replaceEndpoint e₂ (replaceEndpoint e₁ (Text.words command)) =
      replaceEndpoint e₂ (Text.words command) := by
    simp only [replaceEndpoint_eq, endpointPlace_modify, List.modify_modify_eq,
      endpointFor_endpointFor endpoint.address]
  rw [rewriteEndpoint, words_rewriteEndpoint command endpoint.word, ws, rewriteEndpoint]

/-! ### What stands in the place of the endpoint -/

/-- The command has a place for an endpoint: behind its first `join` stands a word that is no option. -/
def HasEndpoint (command : String) : Prop :=
  ∃ next, (Text.words command)[endpointPlace (Text.words command)]? = some next ∧
    Text.startsWith "--" next = false

/-- Without a place for an endpoint the words stay. -/
theorem rewriteEndpoint_eq_self (normal : NormalForm c) (without : ¬ HasEndpoint c) :
    rewriteEndpoint c e = c := by
  have same : replaceEndpoint e (Text.words c) = Text.words c := by
    rw [replaceEndpoint_eq]
    refine List.ext_getElem? fun k => ?_
    rw [List.getElem?_modify]
    cases here : (Text.words c)[k]? with
    | none => rfl
    | some next =>
      by_cases place : endpointPlace (Text.words c) = k
      · have option : Text.startsWith "--" next = true := by
          by_contra address
          exact without ⟨next, place ▸ here, by simpa using address⟩
        simp [place, endpointFor, option]
      · simp [place]
  rw [rewriteEndpoint, same, normal.spaced.join_words]

/-- The words before the endpoint and behind it stay; the first `join` is one of those before it. -/
theorem HasEndpoint.exists_splice (has : HasEndpoint c) :
    ∃ vs next us, vs ≠ [] ∧ Text.words c = vs ++ next :: us ∧
      ∀ e, rewriteEndpoint c e = Text.join " " (vs ++ e :: us) := by
  obtain ⟨next, here, address⟩ := has
  obtain ⟨inside, value⟩ := List.getElem?_eq_some_iff.1 here
  refine ⟨(Text.words c).take (endpointPlace (Text.words c)), next,
    (Text.words c).drop (endpointPlace (Text.words c) + 1), ?_, ?_, fun e => ?_⟩
  · rw [Ne, List.take_eq_nil_iff, endpointPlace]
    rintro (atStart | empty)
    · exact Nat.succ_ne_zero _ atStart
    · simp [empty] at here
  · rw [← value, List.getElem_cons_drop, List.take_append_drop]
  · rw [rewriteEndpoint, replaceEndpoint_eq, List.modify_eq_take_cons_drop inside, value]
    simp [endpointFor, address]

/-- Between arguments, a text leaves the command in normal form if it is in normal form itself and there is
something of it. -/
theorem normalize_splice_iff (ne : vs ≠ []) (before : ∀ w ∈ vs, IsArgument w) (after : ∀ w ∈ us, IsArgument w) :
    normalize (Text.join " " (vs ++ e :: us)) = Text.join " " (vs ++ e :: us) ↔ e ≠ "" ∧ normalize e = e := by
  have kept : ∀ {xs : List String}, (∀ w ∈ xs, IsArgument w) → (xs.flatMap fun w => arguments w.toList) = xs :=
    fun args => by rw [List.flatMap_congr fun w member => (args w member).arguments_eq, List.flatMap_singleton']
  have words : arguments (Text.join " " (vs ++ e :: us)).toList = vs ++ (arguments e.toList ++ us) := by
    rw [arguments_join, List.flatMap_append, List.flatMap_cons, kept before, kept after]
  obtain ⟨left, right, middle, shorter⟩ := Text.join_splice " " us ne
  have spliced : Text.join " " (vs ++ e :: us) = left ++ e ++ right := middle [e] (List.cons_ne_nil e [])
  rw [normalize_eq, normalize_eq e, words, spliced]
  by_cases nothing : arguments e.toList = []
  · -- Nothing stays of the text, so the command gets shorter by a space at least.
    rw [nothing, List.nil_append]
    constructor
    · intro same
      simp only [same, String.length_append] at shorter
      have space : " ".length = 1 := by decide
      omega
    · rintro ⟨notEmpty, same⟩
      exact absurd same.symm notEmpty
  · rw [middle _ nothing]
    constructor
    · intro same
      refine ⟨?_, ?_⟩
      · rintro rfl
        exact nothing (by decide)
      · simpa [String.append_assoc] using same
    · rintro ⟨-, same⟩
      rw [same]

/-- A command with a place for an endpoint stays in normal form if the endpoint is in it and not empty. -/
theorem normalize_rewriteEndpoint_iff (normal : NormalForm c) :
    normalize (rewriteEndpoint c e) = rewriteEndpoint c e ↔ (HasEndpoint c → e ≠ "" ∧ normalize e = e) := by
  by_cases has : HasEndpoint c
  · obtain ⟨vs, next, us, ne, words, spliced⟩ := has.exists_splice
    have args : ∀ w ∈ vs ++ next :: us, IsArgument w := words ▸ fun w => normal.isArgument
    rw [spliced, normalize_splice_iff ne (fun w member => args w (by simp [member]))
      fun w member => args w (by simp [member])]
    simp [has]
  · simp [rewriteEndpoint_eq_self normal has, normal.normalize_eq, has]

theorem rewriteEndpoint_ne_empty (normal : NormalForm c) (ne : c ≠ "") : rewriteEndpoint c e ≠ "" := by
  by_cases has : HasEndpoint c
  · obtain ⟨vs, next, us, before, -, spliced⟩ := has.exists_splice
    rw [spliced, Text.join_append before (List.cons_ne_nil e us)]
    simp
  · rwa [rewriteEndpoint_eq_self normal has]

/-! ### The main result -/

/-- **The endpoint of a join command is replaced, and nothing else.** Bringing a command into normal form
makes it one, in which a second time changes nothing. A command in normal form stays in it when an endpoint
is put in, and keeps all its words in their places except for the one behind the first `join`, which becomes
the endpoint if there is one that is no option. Of two endpoints that are put in, the later one counts. -/
theorem endpoint_replaced :
    (∀ c, normalize (normalize c) = normalize c ∧ NormalForm (normalize c)) ∧
    (∀ c e, IsEndpoint e →
      normalize (rewriteEndpoint (normalize c) e) = rewriteEndpoint (normalize c) e ∧
      (Text.words (rewriteEndpoint (normalize c) e)).length = (Text.words (normalize c)).length ∧
      (∀ k, k ≠ endpointPlace (Text.words (normalize c)) →
        (Text.words (rewriteEndpoint (normalize c) e))[k]? = (Text.words (normalize c))[k]?) ∧
      ∀ next, (Text.words (normalize c))[endpointPlace (Text.words (normalize c))]? = some next →
        (Text.words (rewriteEndpoint (normalize c) e))[endpointPlace (Text.words (normalize c))]? =
          some (if Text.startsWith "--" next then next else e)) ∧
    ∀ c e₁ e₂, IsEndpoint e₁ → IsEndpoint e₂ →
      rewriteEndpoint (rewriteEndpoint c e₁) e₂ = rewriteEndpoint c e₂ := by
  refine ⟨fun c => ⟨normalize_normalize c, normalForm_normalize c⟩, fun c e endpoint => ?_,
    fun c e₁ e₂ first _ => rewriteEndpoint_rewriteEndpoint c first⟩
  have normal := normalForm_rewriteEndpoint (normalForm_normalize c) endpoint.toIsArgument
  rw [words_rewriteEndpoint _ endpoint.word, replaceEndpoint_eq]
  refine ⟨normal.normalize_eq, List.length_modify .., fun k other => ?_, fun next here => ?_⟩
  · exact List.getElem?_modify_ne _ _ (Ne.symm other)
  · rw [List.getElem?_modify_eq, here]
    rfl

/-- An option behind `join` stays, and an address behind it is replaced, twice like once. -/
theorem sample_endpoint_replaced :
    IsEndpoint "127.0.0.1:8443" ∧ IsEndpoint "10.0.0.9:6443" ∧
    Text.words (normalize "kubeadm join\t10.0.0.1:6443\\\n  --token t \\") =
      ["kubeadm", "join", "10.0.0.1:6443", "--token", "t"] ∧
    (Text.words (rewriteEndpoint (normalize "kubeadm join\t10.0.0.1:6443\\\n  --token t \\")
      "127.0.0.1:8443"))[2]? = some "127.0.0.1:8443" ∧
    rewriteEndpoint (rewriteEndpoint "kubeadm join --config x" "10.0.0.9:6443") "127.0.0.1:8443" =
      rewriteEndpoint "kubeadm join --config x" "127.0.0.1:8443" := by
  have local_ : IsEndpoint "127.0.0.1:8443" := by decide
  have other : IsEndpoint "10.0.0.9:6443" := by decide
  obtain ⟨-, replaced, twice⟩ := endpoint_replaced
  have printed : Text.words (normalize "kubeadm join\t10.0.0.1:6443\\\n  --token t \\") =
    ["kubeadm", "join", "10.0.0.1:6443", "--token", "t"] := by decide
  obtain ⟨-, -, -, here⟩ := replaced "kubeadm join\t10.0.0.1:6443\\\n  --token t \\" _ local_
  rw [printed] at here
  exact ⟨local_, other, printed, here "10.0.0.1:6443" rfl, twice _ _ _ other local_⟩

end Muster.Kubeadm
