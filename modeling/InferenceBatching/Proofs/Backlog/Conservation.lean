import InferenceBatching.Proofs.Backlog.Refinement
import InferenceBatching.Proofs.Sequence.Conservation

namespace InferenceBatching

/-!
# What a batcher with a backlog holds

What waits in the queue and in the directory of a backlog is accounted for as what waits
in its lanes is: every operation keeps it, sends it off, fails it or hands it over.
-/

/-- Failures in another order are those of the same entries in another order. -/
theorem FailsWith.of_perm
    {failed others : List Failure}
    {entries : List QueueEntry}
    (fails : FailsWith others entries)
    (isPerm : failed.Perm others) :
    ∃ moved,
      FailsWith failed moved ∧ moved.Perm entries := by
  have requests := isPerm.map Failure.request
  rw [fails] at requests
  exact exists_map_eq_of_perm requests

namespace BacklogBatcher

theorem pendingCount_eq
    (batcher : BacklogBatcher) :
    batcher.pendingCount = batcher.pendingEntries.length := by
  simp [pendingCount, pendingEntries, Backlog.size, Backlog.entries,
    PriorityQueue.size_eq_length_entries, SlotTable.pending, List.length_flatMap, Nat.add_assoc]

theorem pendingEntries_ofConfig
    (config : ModelConfig)
    (start : Nat) :
    (ofConfig config start).pendingEntries = [] := by
  have isPerm := (mirrors_ofConfig config start).pendingEntries_perm
  rw [SequenceBatcher.pendingEntries_ofConfig] at isPerm
  exact isPerm.eq_nil

namespace Coherent

variable {batcher : BacklogBatcher}
variable (coherent : batcher.Coherent)

include coherent

/-- A request that is let in adds its entry to what waits. -/
theorem enqueue_accepted
    {request : Request}
    {now : Nat}
    (accepted : (batcher.enqueue request now).rejection? = none) :
    (batcher.enqueue request now).batcher.pendingEntries.Perm
      (batcher.pendingEntries ++ [batcher.entryFor request now]) := by
  have mirrors := coherent.enqueue request now
  rw [mirrors.rejection] at accepted
  have before := coherent.mirrors.pendingEntries_perm
  have after := mirrors.batcher.pendingEntries_perm
  exact after.trans ((SequenceBatcher.enqueue_accepted coherent.lanes accepted).trans
    (before.symm.append_right _))

/-- A request that is turned away is handed back and adds nothing. -/
theorem enqueue_rejected
    {request : Request}
    {now : Nat}
    {failure : Failure}
    (rejected : (batcher.enqueue request now).rejection? = some failure) :
    failure.request = request ∧
      (batcher.enqueue request now).batcher.pendingEntries.Perm batcher.pendingEntries := by
  have mirrors := coherent.enqueue request now
  rw [mirrors.rejection] at rejected
  obtain ⟨isRequest, unchanged⟩ := SequenceBatcher.enqueue_rejected coherent.lanes rejected
  have before := coherent.mirrors.pendingEntries_perm
  have after := mirrors.batcher.pendingEntries_perm
  exact ⟨isRequest, after.trans (unchanged.trans before.symm)⟩

/-- Forming a batch keeps, dispatches or fails what waits. -/
theorem formBatch_perm
    (instanceIndex now : Nat) :
    let formation := batcher.formBatch instanceIndex now
    ∃ failed,
      FailsWith formation.failed failed ∧
        batcher.pendingEntries.Perm
          (formation.batcher.pendingEntries ++
            formation.batch?.toList.flatMap Batch.queueEntries ++ failed) := by
  have mirrors := coherent.formBatch instanceIndex now
  obtain ⟨others, fails, split⟩ :=
    SequenceBatcher.formBatch_perm coherent.lanes instanceIndex now
  obtain ⟨failed, isFailed, sameFailed⟩ := fails.of_perm mirrors.failed
  have before := coherent.mirrors.pendingEntries_perm
  have after := mirrors.batcher.pendingEntries_perm
  rw [← mirrors.batch] at split
  exact ⟨failed, isFailed, before.trans (split.trans
    ((after.symm.append_right _).append sameFailed.symm))⟩

/-- Settling reports keeps or fails what waits, and tells the failures if it is not refused. -/
theorem complete_perm
    (instanceIndex : Nat)
    (records : List DispatchRecord)
    (now : Nat) :
    let settlement : Settlement BacklogBatcher := batcher.complete instanceIndex records now
    ∃ failed,
      batcher.pendingEntries.Perm (settlement.batcher.pendingEntries ++ failed) ∧
        ∀ failures, settlement.verdict = .settled failures → FailsWith failures failed := by
  have mirrors := coherent.complete instanceIndex records now
  obtain ⟨failed, split, told⟩ :=
    SequenceBatcher.complete_perm coherent.lanes instanceIndex records now
  have before := coherent.mirrors.pendingEntries_perm
  have after := mirrors.batcher.pendingEntries_perm
  rw [← mirrors.verdict] at told
  exact ⟨failed, before.trans (split.trans (after.symm.append_right _)), told⟩

/-- Halting an instance hands over what is then missing. -/
theorem halt_perm
    (instanceIndex : Nat) :
    let handover : Handover BacklogBatcher := batcher.halt instanceIndex
    ∃ returned,
      handover.requests = requestsOf returned ∧
        batcher.pendingEntries.Perm (handover.batcher.pendingEntries ++ returned) := by
  have mirrors := coherent.halt instanceIndex
  obtain ⟨others, isOthers, split⟩ := batcher.lanes.halt_perm instanceIndex
  have sameRequests := mirrors.requests
  rw [isOthers] at sameRequests
  obtain ⟨returned, isReturned, sameReturned⟩ := exists_map_eq_of_perm sameRequests
  have before := coherent.mirrors.pendingEntries_perm
  have after := mirrors.batcher.pendingEntries_perm
  exact ⟨returned, isReturned, before.trans (split.trans (after.symm.append sameReturned.symm))⟩

/-- Draining hands over all that waits and leaves nothing. -/
theorem drain_pending :
    batcher.drain.requests = requestsOf batcher.pendingEntries ∧
      batcher.drain.batcher.pendingEntries = [] := by
  obtain ⟨_, nothing⟩ := SequenceBatcher.drain_pending coherent.lanes
  have tornDown :
      ∀ held ∈ batcher.instances, held.table.tearDownAll.1 = held.table.pending :=
    fun held member => (held.table.tearDownAll_of_sound (coherent.lanes.slots held member)).1
  have after := coherent.drain.batcher.pendingEntries_perm
  rw [nothing] at after
  refine ⟨?_, after.eq_nil⟩
  rw [BacklogBatcher.drain, BacklogBatcher.pendingEntries, Backlog.entries,
    List.flatMap_congr tornDown]
  rfl

end Coherent

end BacklogBatcher

end InferenceBatching
