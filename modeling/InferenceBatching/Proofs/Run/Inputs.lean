import InferenceBatching.Proofs.Batch.Order
import InferenceBatching.Proofs.Dynamic.Selection
import InferenceBatching.Proofs.Run.Ledger
import InferenceBatching.Proofs.Run.Settings

namespace InferenceBatching

/-!
# Inputs of the requests in a batch

The one grouping checks the inputs of a request when it is let in, the other when it is
picked for a batch; either way no request gets into a batch unchecked. The check looks
each declared input up by name, so of several tensors that a request sends under one name
it sees only the first.
-/

/-- The first tensor with a name has only tensors of other names before it. -/
theorem findTensor?_of_first
    {before after : List NamedTensor}
    {sent : NamedTensor}
    (isFirst : ∀ earlier ∈ before, earlier.name ≠ sent.name) :
    findTensor? (before ++ sent :: after) sent.name = some sent.tensor := by
  have notEarlier : before.find? (fun named => named.name = sent.name) = none :=
    List.find?_eq_none.mpr (fun earlier member => by simpa using isFirst earlier member)
  simp [findTensor?, List.find?_append, notEarlier]

/--
What the check of the inputs asks of a request: what is found under the name of a declared
input has an accepted shape, and nothing is sent under another name.
-/
structure Request.Fits
    (declared : List InputSpec)
    (request : Request) :
    Prop where
  sends :
    ∀ spec ∈ declared,
      ∃ tensor, request.input? spec.name = some tensor ∧ spec.accepts tensor.dims = true
  isDeclared : ∀ sent ∈ request.inputs, ∃ spec ∈ declared, spec.name = sent.name

namespace Request.Fits

variable {declared : List InputSpec}
variable {request : Request}

/-- The first tensor sent under a name is accepted by every declaration of the name. -/
theorem accepts_first
    (fits : request.Fits declared)
    {before after : List NamedTensor}
    {sent : NamedTensor}
    (isSent : request.inputs = before ++ sent :: after)
    (isFirst : ∀ earlier ∈ before, earlier.name ≠ sent.name)
    {spec : InputSpec}
    (member : spec ∈ declared)
    (sameName : spec.name = sent.name) :
    spec.accepts sent.tensor.dims = true := by
  obtain ⟨tensor, found, accepted⟩ := fits.sends spec member
  rw [Request.input?, isSent, sameName, findTensor?_of_first isFirst] at found
  rw [Option.some.inj found]
  exact accepted

end Request.Fits

theorem InputSpec.mismatch?_eq_none_iff
    {spec : InputSpec}
    {request : Request} :
    spec.mismatch? request = none ↔
      ∃ tensor, request.input? spec.name = some tensor ∧ spec.accepts tensor.dims = true := by
  unfold InputSpec.mismatch?
  cases request.input? spec.name <;> simp

theorem undeclared?_eq_none_iff
    {declared : List InputSpec}
    {request : Request} :
    undeclared? declared request = none ↔
      ∀ sent ∈ request.inputs, ∃ spec ∈ declared, spec.name = sent.name := by
  simp [undeclared?, List.find?_eq_none]

/-- With a declaration, nothing is wrong exactly with the requests that fit it. -/
theorem inputMismatch?_eq_none_iff
    {declared : List InputSpec}
    {request : Request}
    (declares : declared ≠ []) :
    inputMismatch? declared request = none ↔ request.Fits declared := by
  have sendsAll :
      declared.findSome? (fun spec => spec.mismatch? request) = none ↔
        ∀ spec ∈ declared,
          ∃ tensor, request.input? spec.name = some tensor ∧ spec.accepts tensor.dims = true := by
    simp only [List.findSome?_eq_none_iff, InputSpec.mismatch?_eq_none_iff]
  unfold inputMismatch?
  rw [if_neg (by simpa using declares)]
  split
  · next mismatch found =>
      rw [found] at sendsAll
      exact iff_of_false (by simp) (fun fits => by simpa using sendsAll.mpr fits.sends)
  · next notFound =>
      rw [undeclared?_eq_none_iff]
      exact ⟨fun known => ⟨sendsAll.mp notFound, known⟩, Request.Fits.isDeclared⟩

/-- When a request arrives makes no difference to the check of its inputs. -/
@[simp]
theorem inputMismatch?_arriveAt
    (declared : List InputSpec)
    (request : Request)
    (now : Nat) :
    inputMismatch? declared (request.arriveAt now) = inputMismatch? declared request :=
  rfl

namespace DynamicBatcher

variable (batcher : DynamicBatcher)

/-- What is selected for a batch has passed the check. -/
theorem checked_select
    (limit now : Nat) :
    ∀ entry ∈ (batcher.select limit now).taken,
      inputMismatch? batcher.inputs entry.request = none := by
  refine select_induction
    (motive := fun selection =>
      ∀ entry ∈ selection.taken, inputMismatch? batcher.inputs entry.request = none) ?_ ?_ now
  · intro entry member
    contradiction
  · intro selection queue candidate level _ _ checked
    unfold Selection.consider
    split
    · exact checked
    · next fits =>
        split
        · intro entry member
          rcases List.mem_append.mp member with before | isCandidate
          · exact checked entry before
          · rw [List.mem_singleton.mp isCandidate]
            exact fits
        · exact checked

theorem checked_attempt
    (instanceIndex now : Nat) :
    ∀ batch ∈ (batcher.attempt instanceIndex now).batch?,
      ∀ entry ∈ batch.queueEntries, inputMismatch? batcher.inputs entry.request = none := by
  refine attempt_cases
    (motive := fun formation =>
      ∀ batch ∈ formation.batch?,
        ∀ entry ∈ batch.queueEntries,
          inputMismatch? batcher.inputs entry.request = none) ?_ ?_ ?_
  · intro phase wakeAt? batch isBatch
    contradiction
  · intro limit batch isBatch entry member
    obtain ⟨_, isTaken, _⟩ :=
      (batcher.takeExpired now).batcher.close_eq instanceIndex limit
        (Failure.all (batcher.takeExpired now).requests .timeoutExpired) now
    rw [Option.mem_def.mp isBatch, Option.toList_some, List.flatMap_singleton] at isTaken
    rw [isTaken] at member
    exact checked_select (batcher.takeExpired now).batcher limit now entry member
  · intro batch isBatch
    contradiction

end DynamicBatcher

namespace BacklogBatcher

/-- Whatever waits has passed the check. -/
def Checked
    (batcher : BacklogBatcher) :
    Prop :=
  ∀ entry ∈ batcher.pendingEntries, inputMismatch? batcher.inputs entry.request = none

variable {batcher : BacklogBatcher}

/-- A request is let in only if nothing is wrong with its inputs. -/
theorem checked_of_accepted
    {request : Request}
    {now : Nat}
    (accepted : (batcher.enqueue request now).rejection? = none) :
    inputMismatch? batcher.inputs request = none := by
  unfold enqueue at accepted
  split at accepted
  · contradiction
  · split at accepted
    · contradiction
    · split at accepted
      · contradiction
      · assumption

/-- No operation changes the inputs that are declared. -/
theorem Coherent.inputs_perform
    (coherent : batcher.Coherent)
    (operation : Operation) :
    (batcher.perform operation).inputs = batcher.inputs := by
  have shares := SequenceBatcher.SharesSettings.perform coherent.lanes operation
  rw [← coherent.lanes_perform] at shares
  exact shares.inputs

/-- An operation adds to what waits only what it lets in. -/
theorem Checked.perform
    (checked : batcher.Checked)
    (coherent : batcher.Coherent)
    (operation : Operation) :
    (batcher.perform operation).Checked := by
  intro entry member
  rw [coherent.inputs_perform operation]
  have stillCoherent : (Batcher.sequence batcher).Coherent := coherent
  obtain ⟨gone, isSplit⟩ := Batcher.perform_perm stillCoherent operation
  rw [Batcher.perform_sequence] at isSplit
  have isKnown :
      entry ∈ batcher.pendingEntries ++ (Batcher.sequence batcher).admittedBy operation :=
    isSplit.mem_iff.mpr (List.mem_append_left _ (List.mem_append_left _ member))
  rcases List.mem_append.mp isKnown with waited | isNew
  · exact checked entry waited
  · cases operation with
    | enqueue request now =>
        simp only [Batcher.admittedBy] at isNew
        split at isNew
        · next accepted =>
            rw [List.mem_singleton.mp isNew]
            have fits := checked_of_accepted (Option.isNone_iff_eq_none.mp accepted)
            exact fits
        · contradiction
    | form | complete | halt | drain => contradiction

theorem Checked.after
    (checked : batcher.Checked)
    (coherent : batcher.Coherent)
    (operations : List Operation) :
    (batcher.after operations).Checked ∧ (batcher.after operations).inputs = batcher.inputs := by
  induction operations generalizing batcher with
  | nil => exact ⟨checked, rfl⟩
  | cons operation operations inductionHypothesis =>
      obtain ⟨stillChecked, sameInputs⟩ :=
        inductionHypothesis (checked.perform coherent operation) (coherent.perform operation)
      exact ⟨stillChecked, sameInputs.trans (coherent.inputs_perform operation)⟩

theorem Checked.formBatch
    (checked : batcher.Checked)
    (coherent : batcher.Coherent)
    (instanceIndex now : Nat) :
    ∀ batch ∈ (batcher.formBatch instanceIndex now).batch?,
      ∀ entry ∈ batch.queueEntries, inputMismatch? batcher.inputs entry.request = none := by
  intro batch isBatch entry member
  obtain ⟨failed, _, isSplit⟩ := coherent.formBatch_perm instanceIndex now
  rw [Option.mem_def.mp isBatch, Option.toList_some, List.flatMap_singleton] at isSplit
  refine checked entry (isSplit.mem_iff.mpr ?_)
  simp [member]

end BacklogBatcher

namespace Batcher

/-- The requests of the batches of a run have passed the check of the declared inputs. -/
theorem checked_attempt
    (config : ModelConfig)
    (start : Nat)
    (kind : BatchKind)
    (operations : List Operation)
    (instanceIndex now : Nat) :
    let batcher := (ofKind config start kind).after operations
    ∀ batch ∈ (batcher.attempt instanceIndex now).batch?,
      ∀ entry ∈ batch.queueEntries, inputMismatch? config.inputs entry.request = none := by
  intro batcher batch isBatch
  cases kind with
  | dynamic =>
      have isBatcher : batcher = .dynamic ((DynamicBatcher.ofConfig config).after operations) :=
        after_dynamic _ operations
      rw [isBatcher, attempt_dynamic] at isBatch
      have checked := DynamicBatcher.checked_attempt _ instanceIndex now batch isBatch
      rw [(DynamicBatcher.SharesSettings.after _ operations).inputs,
        (DynamicBatcher.settings_ofConfig config _).1] at checked
      exact checked
  | sequence =>
      have isBatcher :
          batcher = .sequence ((BacklogBatcher.ofConfig config start).after operations) :=
        after_sequence _ operations
      have coherent := BacklogBatcher.coherent_ofConfig config start
      have nothingWaits : (BacklogBatcher.ofConfig config start).Checked := by
        rw [BacklogBatcher.Checked, BacklogBatcher.pendingEntries_ofConfig]
        exact fun entry member => nomatch member
      rw [isBatcher, attempt_sequence] at isBatch
      obtain ⟨stillChecked, sameInputs⟩ := nothingWaits.after coherent operations
      have checked :=
        stillChecked.formBatch (coherent.after operations) instanceIndex now batch isBatch
      rw [sameInputs] at checked
      exact checked

/--
The requests of a batch send what the model declares: each declared input is there in an
accepted shape, and nothing else is sent. The first tensor that a request sends under a
name has a shape that every declaration of the name accepts; the shapes of those sent after
it under the same name are not looked at.
-/
theorem formed_batches_fit_declaration
    (config : ModelConfig)
    (declares : config.inputs ≠ [])
    (start : Nat)
    (kind : BatchKind)
    (operations : List Operation)
    (instanceIndex now : Nat) :
    let batcher := (ofKind config start kind).after operations
    ∀ batch ∈ (batcher.attempt instanceIndex now).batch?,
      ∀ request ∈ batch.requests,
        (∀ spec ∈ config.inputs,
          ∃ tensor, request.input? spec.name = some tensor ∧ spec.accepts tensor.dims = true) ∧
          ∀ before sent after,
            request.inputs = before ++ sent :: after →
              (∃ spec ∈ config.inputs, spec.name = sent.name) ∧
                ((∀ earlier ∈ before, earlier.name ≠ sent.name) →
                  ∀ spec ∈ config.inputs,
                    spec.name = sent.name → spec.accepts sent.tensor.dims = true) := by
  intro batcher batch isBatch request member
  rw [batch.requests_eq] at member
  obtain ⟨entry, isEntry, isRequest⟩ := List.mem_map.mp member
  have checked :=
    checked_attempt config start kind operations instanceIndex now batch isBatch entry isEntry
  rw [isRequest] at checked
  have fits := (inputMismatch?_eq_none_iff declares).mp checked
  refine ⟨fits.sends, ?_⟩
  intro before sent after isSent
  have isMember : sent ∈ request.inputs := by
    rw [isSent]
    exact List.mem_append_right _ List.mem_cons_self
  exact ⟨fits.isDeclared sent isMember,
    fun isFirst spec declared sameName => fits.accepts_first isSent isFirst declared sameName⟩

/--
A request gets into a batch although the second tensor that it sends under the declared
name has a shape that the declaration does not accept.
-/
theorem formed_batches_fit_declaration_of_repeated_name :
    let spec : InputSpec := { name := "x", dims := [1] }
    let config : ModelConfig := { name := "model", inputs := [spec] }
    let first : NamedTensor := { name := "x", tensor := .ofElements [1] .int64 [5] }
    let second : NamedTensor := { name := "x", tensor := .ofElements [2] .int64 [6, 7] }
    let request : Request := { id := 1, inputs := [first, second] }
    let batcher := (ofKind config 0 .dynamic).after [.enqueue request 0]
    ∃ batch,
      (batcher.attempt 0 0).batch? = some batch ∧
        batch.requests = [request] ∧
        spec.accepts first.tensor.dims = true ∧
        spec.accepts second.tensor.dims = false := by
  intro spec config first second request batcher
  let batch : Batch := .ofEntries 0 [.enter request {} 0] 0
  have isFormed : (batcher.attempt 0 0).batch? = some batch := by decide
  obtain ⟨_, sends⟩ :=
    formed_batches_fit_declaration config (by decide) 0 .dynamic [.enqueue request 0] 0 0
      batch isFormed request (by decide)
  obtain ⟨_, accepts⟩ := sends [] first [second] rfl
  exact ⟨batch, isFormed, by decide, accepts (by simp) spec (by decide) rfl, by decide⟩

end Batcher

end InferenceBatching
