import InferenceBatching.Model.Document
import InferenceBatching.Proofs.Json.Record

namespace InferenceBatching

/-!
# Documents read back

A configuration whose numbers fit the widths of their fields is written to a text
that is read as the same configuration, whatever its strings hold and whichever
blocks and policies it has. The proof goes through the description of the
documents: every record is restored because its fields are.

Reading such a text does not ask whether the configuration contradicts itself.
`ModelConfig.ofText` does, so it turns a written configuration away exactly when
`validate` finds a fault with it.
-/

open Json

/-- A policy whose size and duration fit into 64 bits. -/
structure QueuePolicy.Representable
    (policy : QueuePolicy) :
    Prop where
  capacity : policy.capacity < 2 ^ 64
  timeout : policy.timeout < 2 ^ 64

/-- A declared input whose extents fit into 64 bits with their sign. -/
def InputSpec.Representable
    (spec : InputSpec) :
    Prop :=
  ∀ extent ∈ spec.dims, -(2 ^ 63) ≤ extent ∧ extent < 2 ^ 63

/-- A grouping whose sizes and durations fit into 64 bits, and whose levels into 32. -/
structure DynamicBatching.Representable
    (batching : DynamicBatching) :
    Prop where
  preferredSizes : ∀ size ∈ batching.preferredSizes, size < 2 ^ 64
  maxQueueDelay : batching.maxQueueDelay < 2 ^ 64
  priorityLevels : batching.priorityLevels < 2 ^ 32
  defaultPriorityLevel : batching.defaultPriorityLevel < 2 ^ 32
  defaultPolicy : batching.defaultPolicy.Representable
  levelPolicies :
    ∀ entry ∈ batching.levelPolicies.entries, entry.1 < 2 ^ 32 ∧ entry.2.Representable

/-- A grouping of sequences whose sizes and durations fit into 64 bits. -/
structure SequenceBatching.Representable
    (batching : SequenceBatching) :
    Prop where
  maxSequences : batching.maxSequences < 2 ^ 64
  maxIdle : batching.maxIdle < 2 ^ 64
  policy : batching.policy.Representable
  timedOutRetention : batching.timedOutRetention < 2 ^ 64

/-- A configuration whose numbers fit the widths of their fields. -/
structure ModelConfig.Representable
    (config : ModelConfig) :
    Prop where
  maxBatchSize : config.maxBatchSize < 2 ^ 64
  instanceCount : config.instanceCount < 2 ^ 64
  inputs : ∀ spec ∈ config.inputs, spec.Representable
  dynamicBatching : ∀ batching ∈ config.dynamicBatching?, batching.Representable
  sequenceBatching : ∀ batching ∈ config.sequenceBatching?, batching.Representable

/-- Both timeout actions are restored. -/
theorem TimeoutAction.codec_restores
    (action : TimeoutAction) :
    TimeoutAction.codec.Restores action := by
  refine Codec.constant_restores ?_
  cases action <;> rfl

/-- A representable policy is restored. -/
theorem QueuePolicy.codec_restores
    {policy : QueuePolicy}
    (representable : policy.Representable) :
    QueuePolicy.codec.Restores policy := by
  refine Codec.record_restores (by decide) ?_
  refine .cons (Field.make_restores (Codec.size_restores representable.capacity)) ?_
  refine .cons (Field.make_restores (TimeoutAction.codec_restores _)) ?_
  refine .cons
    ((Field.make_restores (Codec.size_restores representable.timeout)).orNamed _) ?_
  refine .cons (Field.make_restores (Codec.boolean_restores _)) ?_
  exact .nil

/-- A representable declared input is restored. -/
theorem InputSpec.codec_restores
    {spec : InputSpec}
    (representable : spec.Representable) :
    InputSpec.codec.Restores spec := by
  have dims : (Codec.list .signed).Restores spec.dims :=
    Codec.list_restores
      (fun extent member =>
        Codec.signed_restores (representable extent member).1 (representable extent member).2)
  refine Codec.record_restores (by decide) ?_
  refine .cons (Field.make_restores (Codec.text_restores _)) ?_
  refine .cons (Field.make_restores dims) ?_
  exact .nil

/-- A representable grouping is restored. -/
theorem DynamicBatching.codec_restores
    {batching : DynamicBatching}
    (representable : batching.Representable) :
    DynamicBatching.codec.Restores batching := by
  have preferredSizes : (Codec.list .size).Restores batching.preferredSizes :=
    Codec.list_restores
      (fun size member => Codec.size_restores (representable.preferredSizes size member))
  have levelPolicies : levelPoliciesCodec.Restores batching.levelPolicies :=
    Codec.numericMap_restores (by decide)
      (fun entry member =>
        let ⟨isBelow, policyRepresentable⟩ := representable.levelPolicies entry member
        ⟨isBelow, QueuePolicy.codec_restores policyRepresentable⟩)
  refine Codec.record_restores (by decide) ?_
  refine .cons (Field.make_restores preferredSizes) ?_
  refine .cons
    ((Field.make_restores (Codec.size_restores representable.maxQueueDelay)).orNamed _) ?_
  refine .cons (Field.make_restores (Codec.level_restores representable.priorityLevels)) ?_
  refine .cons (Field.make_restores (Codec.level_restores representable.defaultPriorityLevel)) ?_
  refine .cons (Field.make_restores (QueuePolicy.codec_restores representable.defaultPolicy)) ?_
  refine .cons (Field.make_restores levelPolicies) ?_
  refine .cons (Field.make_restores (Codec.boolean_restores _)) ?_
  exact .nil

/-- Names of control values are restored. -/
theorem ControlNames.codec_restores
    (names : ControlNames) :
    ControlNames.codec.Restores names := by
  refine Codec.record_restores (by decide) ?_
  refine .cons (Field.make_restores (Codec.text_restores _)) ?_
  refine .cons (Field.make_restores (Codec.text_restores _)) ?_
  refine .cons (Field.make_restores (Codec.text_restores _)) ?_
  refine .cons (Field.make_restores (Codec.text_restores _)) ?_
  exact .nil

/-- A representable grouping of sequences is restored. -/
theorem SequenceBatching.codec_restores
    {batching : SequenceBatching}
    (representable : batching.Representable) :
    SequenceBatching.codec.Restores batching := by
  refine Codec.record_restores (by decide) ?_
  refine .cons (Field.make_restores (Codec.size_restores representable.maxSequences)) ?_
  refine .cons (Field.make_restores (Codec.size_restores representable.maxIdle)) ?_
  refine .cons (Field.make_restores (Codec.boolean_restores _)) ?_
  refine .cons (Field.make_restores (ControlNames.codec_restores _)) ?_
  refine .cons (Field.make_restores (QueuePolicy.codec_restores representable.policy)) ?_
  refine .cons (Field.make_restores (Codec.size_restores representable.timedOutRetention)) ?_
  exact .nil

/-- A representable configuration is restored. -/
theorem ModelConfig.codec_restores
    {config : ModelConfig}
    (representable : config.Representable) :
    ModelConfig.codec.Restores config := by
  have inputs : (Codec.list InputSpec.codec).Restores config.inputs :=
    Codec.list_restores
      (fun spec member => InputSpec.codec_restores (representable.inputs spec member))
  have dynamicBatching :
      (Codec.optional DynamicBatching.codec).Restores config.dynamicBatching? :=
    Codec.optional_record_restores
      (fun batching isGiven =>
        DynamicBatching.codec_restores (representable.dynamicBatching batching isGiven))
  have sequenceBatching :
      (Codec.optional SequenceBatching.codec).Restores config.sequenceBatching? :=
    Codec.optional_record_restores
      (fun batching isGiven =>
        SequenceBatching.codec_restores (representable.sequenceBatching batching isGiven))
  refine Codec.record_restores (by decide) ?_
  refine .cons (Field.make_restores (Codec.text_restores _)) ?_
  refine .cons (Field.make_restores (Codec.size_restores representable.maxBatchSize)) ?_
  refine .cons (Field.make_restores (Codec.size_restores representable.instanceCount)) ?_
  refine .cons (Field.make_restores inputs) ?_
  refine .cons (Field.make_restores dynamicBatching) ?_
  refine .cons (Field.make_restores sequenceBatching) ?_
  exact .nil

/-- The text of a representable configuration is accepted when the configuration is valid. -/
theorem ModelConfig.ofText_encode
    {config : ModelConfig}
    (representable : config.Representable) :
    ModelConfig.ofText (ModelConfig.codec.encode config) =
      match config.validate with
      | .error fault => .error (.invalid fault)
      | .ok () => .ok config := by
  have decoded := (ModelConfig.codec_restores representable).decode_encode
  cases validity : config.validate <;> simp only [ModelConfig.ofText, decoded, validity]

/--
A representable configuration is decoded from its text, so the text of what is decoded
from a written text is that text again. Accepting the text gives the configuration if
`validate` does not object, and otherwise fails with the objection. A representable
policy is decoded from its text as well.
-/
theorem documents_round_trip :
    (∀ config : ModelConfig, config.Representable →
      let text := ModelConfig.codec.encode config
      ModelConfig.codec.decode text = .ok config ∧
        (ModelConfig.codec.decode text).map ModelConfig.codec.encode = .ok text ∧
        (∀ accepted,
          ModelConfig.ofText text = .ok accepted ↔
            config.validate = .ok () ∧ accepted = config) ∧
        ∀ fault,
          ModelConfig.ofText text = .error fault ↔
            ∃ objection, config.validate = .error objection ∧ fault = .invalid objection) ∧
    ∀ policy : QueuePolicy, policy.Representable →
      let text := QueuePolicy.codec.encode policy
      QueuePolicy.codec.decode text = .ok policy ∧
        (QueuePolicy.codec.decode text).map QueuePolicy.codec.encode = .ok text := by
  constructor
  · intro config representable text
    have decoded : ModelConfig.codec.decode text = .ok config :=
      (ModelConfig.codec_restores representable).decode_encode
    have accepted := ModelConfig.ofText_encode representable
    refine ⟨decoded, by rw [decoded]; rfl, ?_, ?_⟩
    · intro other
      rw [accepted]
      cases config.validate <;> simp [eq_comm]
    · intro fault
      rw [accepted]
      cases config.validate <;> simp [eq_comm]
  · intro policy representable text
    have decoded : QueuePolicy.codec.decode text = .ok policy :=
      (QueuePolicy.codec_restores representable).decode_encode
    exact ⟨decoded, by rw [decoded]; rfl⟩

/--
A configuration with both blocks, strings that need escapes, extreme numbers and policies
for two levels is decoded from its text, and turned away for having both blocks. Without
the block for sequences it is accepted.
-/
theorem documents_round_trip_of_both_blocks :
    let policy : QueuePolicy :=
      { capacity := 2 ^ 64 - 1, timeoutAction := .delay, timeout := 250, allowsOverride := true }
    let config : ModelConfig :=
      { name := "a \"b\"\\\n\x01é",
        maxBatchSize := 8,
        inputs := [{ name := "x", dims := [-1, 2 ^ 63 - 1] }],
        dynamicBatching? :=
          some
            { preferredSizes := [4, 8],
              priorityLevels := 10,
              defaultPriorityLevel := 2,
              defaultPolicy := policy,
              levelPolicies := (Directory.empty.insert 10 {}).insert 2 policy },
        sequenceBatching? := some { maxSequences := 3, blocking := false } }
    let single : ModelConfig := { config with sequenceBatching? := none }
    ModelConfig.codec.decode (ModelConfig.codec.encode config) = .ok config ∧
      (∀ accepted, ModelConfig.ofText (ModelConfig.codec.encode config) ≠ .ok accepted) ∧
      ModelConfig.ofText (ModelConfig.codec.encode single) = .ok single ∧
      QueuePolicy.codec.decode (QueuePolicy.codec.encode policy) = .ok policy := by
  intro policy config single
  have policyFits : policy.Representable :=
    ⟨by decide, by decide⟩
  have inputsFit : ∀ spec ∈ config.inputs, spec.Representable := by
    simp [config, InputSpec.Representable]
  have dynamicFits : ∀ batching ∈ config.dynamicBatching?, batching.Representable := by
    rintro _ ⟨⟩
    refine ⟨by decide, by decide, by decide, by decide, policyFits, ?_⟩
    rintro _ (_ | ⟨_, _ | ⟨_, ⟨⟩⟩⟩)
    · exact ⟨by decide, policyFits⟩
    · exact ⟨by decide, by decide, by decide⟩
  have sequenceFits : ∀ batching ∈ config.sequenceBatching?, batching.Representable := by
    rintro _ ⟨⟩
    exact ⟨by decide, by decide, ⟨by decide, by decide⟩, by decide⟩
  have configFits : config.Representable :=
    ⟨by decide, by decide, inputsFit, dynamicFits, sequenceFits⟩
  have singleFits : single.Representable :=
    ⟨by decide, by decide, inputsFit, dynamicFits, nofun⟩
  obtain ⟨decoded, _, isAccepted, _⟩ := documents_round_trip.1 config configFits
  obtain ⟨_, _, isSingleAccepted, _⟩ := documents_round_trip.1 single singleFits
  obtain ⟨policyDecoded, _⟩ := documents_round_trip.2 policy policyFits
  refine ⟨decoded, ?_, (isSingleAccepted single).mpr ⟨rfl, rfl⟩, policyDecoded⟩
  intro accepted read
  exact nomatch ((isAccepted accepted).mp read).1

/-- The text of a policy names the fields in order and the action by its name. -/
example :
    QueuePolicy.codec.encode { timeoutAction := .delay } =
      "\x7b\"max_queue_size\":0,\"timeout_action\":\"DELAY\"," ++
        "\"timeout_micros\":0,\"allow_timeout_override\":false\x7d" := by
  decide

end InferenceBatching
