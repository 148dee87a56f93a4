import InferenceBatching.Proofs.Dynamic.Closing
import InferenceBatching.Proofs.Sequence.Dispatch

namespace InferenceBatching

/-!
# Sizes of batches

A batch carries a request, and no more of them than the configuration has room for, if
the configuration was accepted. Room for a batch can always be made if the largest one
that the configuration allows can be addressed.
-/

namespace DynamicBatcher

variable {batcher : DynamicBatcher}
variable {limit now : Nat}

/-- No batch is due that is larger than the maximum. -/
theorem closingLimit?_le
    (preferredWithin : batcher.preferredBatchSize ≤ batcher.maxBatchSize)
    (isDue : batcher.closingLimit? now = some limit) :
    limit ≤ batcher.maxBatchSize := by
  obtain ⟨oldest, _, fromOldest⟩ := Option.bind_eq_some_iff.mp isDue
  unfold dueLimit? at fromOldest
  dsimp only at fromOldest
  split at fromOldest
  · rw [← Option.some.inj fromOldest, sizeLimit]
    split
    · exact Nat.le_refl _
    · exact preferredWithin
  · contradiction

/-- A selection takes one entry at a time, and only while it is below the limit. -/
theorem length_select_le
    (batcher : DynamicBatcher)
    (limit now : Nat) :
    (batcher.select limit now).taken.length ≤ limit := by
  refine select_induction (motive := fun selection => selection.taken.length ≤ limit) ?_ ?_ now
  · exact Nat.zero_le limit
  · intro selection queue entry level isOpen _ within
    simp only [Selection.isOpen, Bool.and_eq_true, decide_eq_true_eq] at isOpen
    unfold Selection.consider
    split
    · exact within
    · split
      · rw [List.length_append, List.length_singleton]
        exact isOpen.2
      · exact within

/-- A batch has a request, and no more of them than the maximum. -/
theorem requestCount_attempt
    (preferredWithin : batcher.preferredBatchSize ≤ batcher.maxBatchSize)
    {instanceIndex : Nat}
    {batch : Batch}
    (formed : batch ∈ (batcher.attempt instanceIndex now).batch?) :
    1 ≤ batch.requestCount ∧ batch.requestCount ≤ batcher.maxBatchSize := by
  unfold attempt at formed
  split at formed
  · contradiction
  · rw [formBatch_eq] at formed
    split at formed
    · next limit isDue =>
        have withinMax : limit ≤ (batcher.takeExpired now).batcher.maxBatchSize :=
          closingLimit?_le preferredWithin isDue
        unfold close at formed
        dsimp only at formed
        split at formed
        · contradiction
        · next something =>
            rw [← Option.some.inj formed, requestCount_ofEntries]
            have taken := length_select_le (batcher.takeExpired now).batcher limit now
            exact ⟨List.length_pos_of_ne_nil (mt List.isEmpty_iff.mpr something),
              taken.trans withinMax⟩
    · split at formed <;> contradiction

/-- Room can be made for every batch if it can be made for the largest. -/
theorem overreach?_of_addressable
    (preferredWithin : batcher.preferredBatchSize ≤ batcher.maxBatchSize)
    (addressable : batcher.maxBatchSize * batcher.entryBytes ≤ addressableBytes)
    (now : Nat) :
    batcher.overreach? now = none := by
  rw [← Option.not_isSome_iff_eq_none, overreach?_isSome_iff]
  rintro ⟨limit, isDue, tooLarge⟩
  have withinMax : limit ≤ (batcher.takeExpired now).batcher.maxBatchSize :=
    closingLimit?_le preferredWithin isDue
  have noLarger : limit * batcher.entryBytes ≤ addressableBytes :=
    (Nat.mul_le_mul_right batcher.entryBytes withinMax).trans addressable
  omega

/-- The maximum of a batcher that a run reaches is that of its configuration. -/
theorem sizes_reached
    (config : ModelConfig)
    (entryBytes : Nat)
    (operations : List Operation) :
    let batcher := (ofConfig config entryBytes).after operations
    batcher.preferredBatchSize ≤ batcher.maxBatchSize ∧
      batcher.maxBatchSize ≤ max config.maxBatchSize 1 ∧
      batcher.entryBytes = entryBytes := by
  obtain ⟨_, _, isLargest, isEntryBytes⟩ := settings_ofConfig config entryBytes
  have shares := SharesSettings.after (ofConfig config entryBytes) operations
  dsimp only
  rw [shares.preferredBatchSize, shares.maxBatchSize, shares.entryBytes]
  refine ⟨preferredBatchSize_le_ofConfig config entryBytes, ?_, isEntryBytes⟩
  rw [isLargest]
  split
  · exact Nat.le_refl _
  · exact Nat.le_max_right _ _

end DynamicBatcher

namespace SequenceBatcher

/-- A batch carries a request, and no more of them than its instance has slots. -/
theorem requestCount_formBatch
    {batcher : SequenceBatcher}
    (coherent : batcher.Coherent)
    {instanceIndex now : Nat}
    {batch : Batch}
    (formed : batch ∈ (batcher.formBatch instanceIndex now).batch?) :
    1 ≤ batch.requestCount ∧ ∃ size ∈ batcher.tableSizes, batch.requestCount ≤ size := by
  cases live : (batcher.live? instanceIndex).isSome with
  | false =>
      have halted : batcher.live? instanceIndex = none := by simpa using live
      simp [formBatch, halted, Formation.idle] at formed
  | true =>
      obtain ⟨_, sameSizes, owner, isOwner⟩ := filled_of_live coherent now live
      rw [formBatch_of_seated live isOwner] at formed
      split at formed
      · next ready =>
          rw [← Option.some.inj formed]
          obtain ⟨entry, member, carries⟩ := Dispatch.request_of_ready now ready
          have notPadding : (!entry.isPadding) = true := by
            rw [BatchEntry.request?, Option.isSome_map] at carries
            simpa [BatchEntry.isPadding] using carries
          refine ⟨List.length_pos_of_mem (List.mem_filter.mpr ⟨member, notPadding⟩),
            owner.table.size, ?_, ?_⟩
          · rw [← sameSizes]
            exact List.mem_map_of_mem (List.mem_of_getElem? (live?_eq_some.mp isOwner).1)
          · refine (List.length_filter_le _ _).trans (Nat.le_of_eq ?_)
            exact (Dispatch.length_ofSlots now 0 .empty owner.table.slots).1
      · contradiction

end SequenceBatcher

namespace Batcher

variable {config : ModelConfig}

/-- A batch carries a request, and no more of them than an accepted configuration allows. -/
theorem requestCount_attempt
    (accepted : config.problem? = none)
    (start entryBytes : Nat)
    (operations : List Operation)
    {instanceIndex now : Nat}
    {batch : Batch}
    (formed :
      batch ∈
        (((ofConfig config start entryBytes).after operations).attempt
          instanceIndex now).batch?) :
    1 ≤ batch.requestCount ∧ batch.requestCount ≤ max config.maxBatchSize 1 := by
  rw [ofConfig_eq_ofKind] at formed
  cases isKind : config.kind with
  | dynamic =>
      rw [isKind, ofKind, after_dynamic, attempt_dynamic] at formed
      obtain ⟨preferredWithin, withinMax, _⟩ :=
        DynamicBatcher.sizes_reached config entryBytes operations
      obtain ⟨notEmpty, within⟩ := DynamicBatcher.requestCount_attempt preferredWithin formed
      exact ⟨notEmpty, within.trans withinMax⟩
  | sequence =>
      have described : config.sequenceBatching?.isSome = true := by
        simpa [ModelConfig.kind, Option.isSome_iff_ne_none] using isKind
      rw [isKind, ofKind, after_sequence, attempt_sequence] at formed
      have coherent := (BacklogBatcher.coherent_ofConfig config start).after operations
      have mirrors := coherent.formBatch instanceIndex now
      rw [BacklogBatcher.lanes_after_ofConfig] at mirrors
      have lanesCoherent := coherent.lanes
      rw [BacklogBatcher.lanes_after_ofConfig] at lanesCoherent
      obtain ⟨notEmpty, size, listed, within⟩ :=
        SequenceBatcher.requestCount_formBatch lanesCoherent (mirrors.batch ▸ formed)
      exact ⟨notEmpty,
        within.trans
          (SequenceBatcher.tableSizes_le accepted described start operations size listed)⟩

/-- Room can be made for all batches of sequences, and for all batches that can be addressed. -/
theorem overreach?_of_addressable
    {entryBytes : Nat}
    (addressable :
      config.kind = .sequence ∨
        max config.maxBatchSize 1 * entryBytes ≤ DynamicBatcher.addressableBytes)
    (start : Nat)
    (operations : List Operation)
    (now : Nat) :
    ((ofConfig config start entryBytes).after operations).overreach? now = none := by
  rw [ofConfig_eq_ofKind]
  cases isKind : config.kind with
  | sequence =>
      rw [ofKind, after_sequence]
      rfl
  | dynamic =>
      have fits := addressable.resolve_left (by simp [isKind])
      obtain ⟨preferredWithin, withinMax, isEntryBytes⟩ :=
        DynamicBatcher.sizes_reached config entryBytes operations
      have reachedFits :
          ((DynamicBatcher.ofConfig config entryBytes).after operations).maxBatchSize *
              ((DynamicBatcher.ofConfig config entryBytes).after operations).entryBytes ≤
            DynamicBatcher.addressableBytes :=
        isEntryBytes.symm ▸ (Nat.mul_le_mul_right entryBytes withinMax).trans fits
      rw [ofKind, after_dynamic, overreach?,
        DynamicBatcher.overreach?_of_addressable preferredWithin reachedFits now]
      rfl

end Batcher

end InferenceBatching
