import Mathlib.Data.Option.Basic
import InferenceBatching.Proofs.Dynamic.Rest
import InferenceBatching.Proofs.Run.Operation

namespace InferenceBatching

/-!
# Settings

What a configuration says of the sizes of batches is settled when a batcher is made.
No operation changes it, so what holds of the settings of a new batcher holds
throughout every run.
-/

namespace ModelConfig

variable {config : ModelConfig}

theorem effectiveMaxBatchSize_pos
    (config : ModelConfig) :
    0 < config.effectiveMaxBatchSize := by
  unfold effectiveMaxBatchSize
  omega

theorem problem?_of_valid
    (valid : config.validate = .ok ()) :
    config.problem? = none := by
  unfold validate at valid
  cases isProblem : config.problem? with
  | none => rfl
  | some problem =>
      rw [isProblem] at valid
      contradiction

/-- The groupings of an accepted configuration have no contradiction. -/
theorem batchingProblem?_of_accepted
    (accepted : config.problem? = none) :
    config.batchingProblem? = none := by
  unfold problem? at accepted
  split at accepted
  · contradiction
  · split at accepted
    · contradiction
    · split at accepted
      · contradiction
      · exact ((Option.orElse_eq_none _ _).mp accepted).2

/-- The grouping of an accepted configuration has no contradiction. -/
theorem dynamicProblem?_of_valid
    (valid : config.validate = .ok ())
    {batching : DynamicBatching}
    (isBatching : config.dynamicBatching? = some batching) :
    batching.problem? config = none := by
  have consistent := batchingProblem?_of_accepted (problem?_of_valid valid)
  unfold batchingProblem? at consistent
  rw [isBatching] at consistent
  exact ((Option.orElse_eq_none _ _).mp consistent).1

/-- An accepted configuration has room in a batch for all the sequences that it asks for. -/
theorem maxSequences_le
    (accepted : config.problem? = none)
    {batching : SequenceBatching}
    (isBatching : config.sequenceBatching? = some batching) :
    max batching.maxSequences 1 ≤ config.effectiveMaxBatchSize := by
  have consistent := batchingProblem?_of_accepted accepted
  unfold batchingProblem? at consistent
  rw [isBatching] at consistent
  have noProblem : batching.problem? config = none :=
    ((Option.orElse_eq_none _ _).mp consistent).2
  have positive := config.effectiveMaxBatchSize_pos
  unfold SequenceBatching.problem? at noProblem
  split at noProblem
  · contradiction
  · split at noProblem
    · contradiction
    · omega

/-- In an accepted configuration every preferred batch size is positive. -/
theorem preferredSizes_pos
    (valid : config.validate = .ok ())
    {batching : DynamicBatching}
    (isBatching : config.dynamicBatching? = some batching) :
    ∀ size ∈ batching.preferredSizes, 0 < size := by
  have consistent := dynamicProblem?_of_valid valid isBatching
  unfold DynamicBatching.problem? at consistent
  split at consistent
  · contradiction
  · have noPreferred := ((Option.orElse_eq_none _ _).mp consistent).1
    unfold DynamicBatching.preferredProblem? at noPreferred
    have faultless := List.find?_eq_none.mp (Option.map_eq_none_iff.mp noPreferred)
    intro size member
    have allowed := faultless size member
    simp only [Bool.or_eq_true, decide_eq_true_eq, not_or] at allowed
    exact Nat.pos_of_ne_zero allowed.1

/-- The size to aim for is the maximum, or a preferred size within it. -/
theorem preferredBatchSize_cases
    (config : ModelConfig) :
    config.preferredBatchSize = config.effectiveMaxBatchSize ∨
      ∃ batching,
        config.dynamicBatching? = some batching ∧
          config.preferredBatchSize ∈ batching.preferredSizes ∧
          config.preferredBatchSize ≤ config.effectiveMaxBatchSize := by
  unfold preferredBatchSize
  cases isBatching : config.dynamicBatching? with
  | none => exact Or.inl rfl
  | some batching =>
      dsimp only
      cases isLargest :
          (batching.preferredSizes.filter (fun size =>
            size ≤ config.effectiveMaxBatchSize)).max? with
      | none => exact Or.inl rfl
      | some largest =>
          have isPreferred := List.mem_filter.mp (List.max?_mem isLargest)
          exact Or.inr ⟨batching, rfl, isPreferred.1, by simpa using isPreferred.2⟩

/-- An accepted configuration aims for batches of at least one request. -/
theorem preferredBatchSize_pos
    (valid : config.validate = .ok ()) :
    0 < config.preferredBatchSize := by
  rcases config.preferredBatchSize_cases with isMaximum | ⟨batching, isBatching, isPreferred, _⟩
  · rw [isMaximum]
    exact config.effectiveMaxBatchSize_pos
  · exact preferredSizes_pos valid isBatching _ isPreferred

/-- The size to aim for is no more than the maximum. -/
theorem preferredBatchSize_le
    (config : ModelConfig) :
    config.preferredBatchSize ≤ config.effectiveMaxBatchSize := by
  rcases config.preferredBatchSize_cases with isMaximum | ⟨_, _, _, within⟩
  · exact Nat.le_of_eq isMaximum
  · exact within

end ModelConfig

namespace DynamicBatcher

variable {batcher : DynamicBatcher}

/-- Another batcher has the settings of a batcher and as many instances. -/
structure SharesSettings
    (batcher other : DynamicBatcher) :
    Prop where
  inputs : other.inputs = batcher.inputs
  maxBatchSize : other.maxBatchSize = batcher.maxBatchSize
  preferredBatchSize : other.preferredBatchSize = batcher.preferredBatchSize
  maxQueueDelay : other.maxQueueDelay = batcher.maxQueueDelay
  acrossLevels : other.delayClosesAcrossLevels = batcher.delayClosesAcrossLevels
  instanceCount : other.phases.length = batcher.phases.length
  entryBytes : other.entryBytes = batcher.entryBytes

namespace SharesSettings

variable {other another : DynamicBatcher}

theorem refl
    (batcher : DynamicBatcher) :
    batcher.SharesSettings batcher :=
  ⟨rfl, rfl, rfl, rfl, rfl, rfl, rfl⟩

theorem trans
    (first : batcher.SharesSettings other)
    (second : other.SharesSettings another) :
    batcher.SharesSettings another where
  inputs := second.inputs.trans first.inputs
  maxBatchSize := second.maxBatchSize.trans first.maxBatchSize
  preferredBatchSize := second.preferredBatchSize.trans first.preferredBatchSize
  maxQueueDelay := second.maxQueueDelay.trans first.maxQueueDelay
  acrossLevels := second.acrossLevels.trans first.acrossLevels
  instanceCount := second.instanceCount.trans first.instanceCount
  entryBytes := second.entryBytes.trans first.entryBytes

theorem fillsSome
    (shares : batcher.SharesSettings other)
    (fillsSome : batcher.FillsSome) :
    other.FillsSome := by
  unfold FillsSome
  rw [shares.preferredBatchSize, shares.maxBatchSize]
  exact fillsSome

/-- The queue does not belong to the settings. -/
theorem withQueue
    (batcher : DynamicBatcher)
    (queue : PriorityQueue) :
    batcher.SharesSettings { batcher with queue := queue } :=
  ⟨rfl, rfl, rfl, rfl, rfl, rfl, rfl⟩

/-- What an instance is doing does not belong to the settings. -/
theorem enterPhase
    (batcher : DynamicBatcher)
    (instanceIndex : Nat)
    (phase : InstancePhase) :
    batcher.SharesSettings (batcher.enterPhase instanceIndex phase) :=
  ⟨rfl, rfl, rfl, rfl, rfl, List.length_set, rfl⟩

theorem close
    (batcher : DynamicBatcher)
    (instanceIndex limit : Nat)
    (expired : List Failure)
    (now : Nat) :
    batcher.SharesSettings (batcher.close instanceIndex limit expired now).batcher := by
  unfold DynamicBatcher.close
  dsimp only
  split
  · exact (withQueue batcher _).trans (enterPhase _ instanceIndex _)
  · exact (withQueue batcher _).trans (enterPhase _ instanceIndex _)

theorem attempt
    (batcher : DynamicBatcher)
    (instanceIndex now : Nat) :
    batcher.SharesSettings (batcher.attempt instanceIndex now).batcher := by
  have expires : batcher.SharesSettings (batcher.takeExpired now).batcher :=
    withQueue batcher _
  refine attempt_cases
    (motive := fun formation => batcher.SharesSettings formation.batcher) ?_ ?_ expires
  · intro phase wakeAt?
    exact expires.trans (enterPhase _ instanceIndex phase)
  · intro limit
    exact expires.trans (close _ instanceIndex limit _ now)

/-- No operation changes the settings. -/
theorem perform
    (batcher : DynamicBatcher)
    (operation : Operation) :
    batcher.SharesSettings (batcher.perform operation) := by
  cases operation with
  | enqueue request now =>
      simp only [DynamicBatcher.perform, enqueue]
      split
      · exact withQueue batcher _
      · exact refl batcher
  | form instanceIndex now => exact attempt batcher instanceIndex now
  | complete instanceIndex records now => exact enterPhase batcher instanceIndex .idle
  | halt instanceIndex => exact enterPhase batcher instanceIndex .idle
  | drain => exact withQueue batcher _

theorem after
    (batcher : DynamicBatcher)
    (operations : List Operation) :
    batcher.SharesSettings (batcher.after operations) := by
  induction operations generalizing batcher with
  | nil => exact refl batcher
  | cons operation operations inductionHypothesis =>
      exact (perform batcher operation).trans (inductionHypothesis _)

end SharesSettings

/-- What a configuration says of sizes and instances is what a new batcher has. -/
theorem settings_ofConfig
    (config : ModelConfig)
    (entryBytes : Nat) :
    (ofConfig config entryBytes).inputs = config.inputs ∧
      (ofConfig config entryBytes).phases.length = max config.instanceCount 1 ∧
      (ofConfig config entryBytes).maxBatchSize =
        (if config.dynamicBatching?.isSome then max config.maxBatchSize 1 else 1) ∧
      (ofConfig config entryBytes).entryBytes = entryBytes := by
  unfold ofConfig
  cases config.dynamicBatching? <;>
    simp [ModelConfig.effectiveMaxBatchSize]

theorem preferredBatchSize_le_ofConfig
    (config : ModelConfig)
    (entryBytes : Nat) :
    (ofConfig config entryBytes).preferredBatchSize ≤
      (ofConfig config entryBytes).maxBatchSize := by
  unfold ofConfig
  cases config.dynamicBatching? with
  | none => exact Nat.le_refl 1
  | some batching => exact config.preferredBatchSize_le

theorem fillsSome_ofConfig
    {config : ModelConfig}
    (valid : config.validate = .ok ())
    (entryBytes : Nat) :
    (ofConfig config entryBytes).FillsSome := by
  unfold ofConfig
  cases config.dynamicBatching? with
  | none => exact ⟨Nat.one_pos, Nat.one_pos⟩
  | some batching =>
      exact ⟨config.preferredBatchSize_pos valid, config.effectiveMaxBatchSize_pos⟩

end DynamicBatcher

end InferenceBatching
