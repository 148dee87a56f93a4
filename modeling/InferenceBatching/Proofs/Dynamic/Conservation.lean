import InferenceBatching.Proofs.Dynamic.Formation
import InferenceBatching.Proofs.Dynamic.Selection
import InferenceBatching.Proofs.Queue.Conservation

namespace InferenceBatching

/-!
# What a dynamic batcher holds

A selection pops entries one by one, and each of them is taken, failed, or put
back. So at any point of it, the entries from which it started are those in the
queue, those taken, and those whose requests have failed.
-/

namespace Selection

/-- Some entries are those that a selection has in its queue, has taken, and has failed. -/
def Accounts
    (entries : List QueueEntry)
    (selection : Selection) :
    Prop :=
  ∃ failed,
    FailsWith selection.failed failed ∧
      entries.Perm (selection.queue.entries ++ selection.taken ++ failed)

variable {entries : List QueueEntry}
variable {selection : Selection}
variable {inputs : List InputSpec}

/-- An entry that was popped is taken, failed, or put back. -/
private theorem accounts_consider
    {queue : PriorityQueue}
    {entry : QueueEntry}
    (accounts : selection.Accounts entries)
    (popped : selection.queue.entries.Perm (entry :: queue.entries)) :
    (consider inputs { selection with queue := queue } entry).Accounts entries := by
  obtain ⟨failed, isFailed, isSplit⟩ := accounts
  have moved :
      ∀ other,
        entries.count other =
          queue.entries.count other + selection.taken.count other + failed.count other +
            [entry].count other := by
    intro other
    have before := List.perm_iff_count.mp isSplit other
    have change := List.perm_iff_count.mp popped other
    simp only [List.count_append, List.count_cons, List.count_nil] at before change ⊢
    omega
  unfold consider
  split
  · refine ⟨failed ++ [entry], isFailed.append rfl, List.perm_iff_count.mpr ?_⟩
    intro other
    simp only [List.count_append, moved other]
    omega
  · split
    · refine ⟨failed, isFailed, List.perm_iff_count.mpr ?_⟩
      intro other
      simp only [List.count_append, moved other]
      omega
    · refine ⟨failed, isFailed, List.perm_iff_count.mpr ?_⟩
      intro other
      have putBack := List.perm_iff_count.mp (queue.pushFront_perm entry) other
      simp only [List.count_append, List.count_cons, List.count_nil, moved other] at putBack ⊢
      omega

end Selection

namespace DynamicBatcher

variable {batcher : DynamicBatcher}

/-- All waiting entries, level by level. -/
def pendingEntries
    (batcher : DynamicBatcher) :
    List QueueEntry :=
  batcher.queue.entries

theorem pendingEntries_ofConfig
    (config : ModelConfig)
    (entryBytes : Nat) :
    (ofConfig config entryBytes).pendingEntries = [] := by
  simp only [ofConfig]
  cases config.dynamicBatching? <;> exact PriorityQueue.entries_ofLayout _

theorem pendingCount_eq
    (batcher : DynamicBatcher) :
    batcher.pendingCount = batcher.pendingEntries.length :=
  batcher.queue.size_eq_length_entries

/-- The entry that a request makes when it is let in. -/
def entryFor
    (batcher : DynamicBatcher)
    (request : Request)
    (now : Nat) :
    QueueEntry :=
  .enter request (batcher.queue.policyFor request.priority) now

/-- A request that is let in adds its entry to what waits. -/
theorem enqueue_accepted
    {request : Request}
    {now : Nat}
    (accepted : (batcher.enqueue request now).rejection? = none) :
    (batcher.enqueue request now).batcher.pendingEntries.Perm
      (batcher.pendingEntries ++ [batcher.entryFor request now]) := by
  simp only [enqueue] at accepted ⊢
  split at accepted
  · next queue isAccepted => exact PriorityQueue.enqueue_perm isAccepted
  · contradiction

/-- A request that is turned away is handed back and changes nothing. -/
theorem enqueue_rejected
    {request : Request}
    {now : Nat}
    {failure : Failure}
    (rejected : (batcher.enqueue request now).rejection? = some failure) :
    failure.request = request ∧ (batcher.enqueue request now).batcher = batcher := by
  simp only [enqueue] at rejected ⊢
  split at rejected
  · contradiction
  · next refusal isRefused =>
      have same : refusal.request = failure.request :=
        congrArg Failure.request (Option.some.inj rejected)
      exact ⟨same ▸ congrArg Failure.request (PriorityQueue.enqueue_error isRefused), rfl⟩

theorem accounts_select
    (batcher : DynamicBatcher)
    (limit now : Nat) :
    (batcher.select limit now).Accounts batcher.pendingEntries := by
  apply select_induction
  · exact ⟨[], rfl, by simp [Selection.start, pendingEntries]⟩
  · intro selection queue entry level _ popped accounts
    exact Selection.accounts_consider accounts (PriorityQueue.popLevel?_perm popped)

/-- What is taken out as expired and what stays are what there was. -/
theorem takeExpired_perm
    (batcher : DynamicBatcher)
    (now : Nat) :
    ∃ late,
      (batcher.takeExpired now).requests = requestsOf late ∧
        batcher.pendingEntries.Perm ((batcher.takeExpired now).batcher.pendingEntries ++ late) :=
  ⟨_, rfl, (batcher.queue.removeWhere_perm _).trans List.perm_append_comm⟩

/-- Once the late requests have been taken out, all that waits has time left. -/
theorem inTime_takeExpired
    (batcher : DynamicBatcher)
    (now : Nat) :
    ∀ entry ∈ (batcher.takeExpired now).batcher.pendingEntries,
      entry.isRejectable now = false := by
  intro entry member
  have isLeft : (batcher.takeExpired now).batcher.pendingEntries = _ :=
    (batcher.queue.entries_removeWhere _).2
  rw [isLeft] at member
  simpa using (List.mem_filter.mp member).2

theorem queueEntries_ofEntries
    (instanceIndex : Nat)
    (entries : List QueueEntry)
    (now : Nat) :
    (Batch.ofEntries instanceIndex entries now).queueEntries = entries := by
  simp [Batch.ofEntries, Batch.queueEntries, List.filterMap_map, Function.comp_def,
    BatchEntry.queued?]

/-- Closing a batch leaves what was not selected, runs what was taken, and fails the rest. -/
theorem close_eq
    (batcher : DynamicBatcher)
    (instanceIndex limit : Nat)
    (expired : List Failure)
    (now : Nat) :
    let selection := batcher.select limit now
    let formation := batcher.close instanceIndex limit expired now
    formation.batcher.pendingEntries = selection.queue.entries ∧
      formation.batch?.toList.flatMap Batch.queueEntries = selection.taken ∧
      formation.failed = expired ++ selection.failed := by
  unfold close
  dsimp only
  split
  · next nothing => exact ⟨rfl, (List.isEmpty_iff.mp nothing).symm, rfl⟩
  · refine ⟨rfl, ?_, rfl⟩
    simp only [Formation.formed, Option.toList_some, List.flatMap_singleton,
      queueEntries_ofEntries]

/-- Forming a batch keeps, dispatches or fails what waits. -/
theorem formBatch_perm
    (batcher : DynamicBatcher)
    (instanceIndex now : Nat) :
    let formation := batcher.formBatch instanceIndex now
    ∃ failed,
      FailsWith formation.failed failed ∧
        batcher.pendingEntries.Perm
          (formation.batcher.pendingEntries ++
            formation.batch?.toList.flatMap Batch.queueEntries ++ failed) := by
  obtain ⟨late, isLate, isSplit⟩ := batcher.takeExpired_perm now
  have expires : FailsWith
      (Failure.all (batcher.takeExpired now).requests .timeoutExpired) late := by
    rw [isLate]
    exact failsWith_all late .timeoutExpired
  refine formBatch_cases
    (motive := fun formation =>
      ∃ failed,
        FailsWith formation.failed failed ∧
          batcher.pendingEntries.Perm
            (formation.batcher.pendingEntries ++
              formation.batch?.toList.flatMap Batch.queueEntries ++ failed)) ?_ ?_
  · intro phase wakeAt?
    exact ⟨late, expires, by simpa [Formation.idle, enterPhase, pendingEntries] using isSplit⟩
  · intro limit
    obtain ⟨failed, isFailed, selects⟩ :=
      (batcher.takeExpired now).batcher.accounts_select limit now
    obtain ⟨remaining, dispatched, told⟩ :=
      (batcher.takeExpired now).batcher.close_eq instanceIndex limit
        (Failure.all (batcher.takeExpired now).requests .timeoutExpired) now
    rw [remaining, dispatched, told]
    refine ⟨late ++ failed, expires.append isFailed, isSplit.trans ?_⟩
    simp only [List.perm_iff_count, List.count_append] at selects ⊢
    intro other
    have before := selects other
    omega

theorem overreach?_perm
    {now : Nat}
    {lost : Handover DynamicBatcher}
    (overreaches : batcher.overreach? now = some lost) :
    ∃ late,
      lost.requests = requestsOf late ∧
        batcher.pendingEntries.Perm (lost.batcher.pendingEntries ++ late) :=
  takeExpired_of_overreach overreaches ▸ batcher.takeExpired_perm now

/-- Draining hands over all that waits and leaves nothing. -/
theorem drain_pending
    (batcher : DynamicBatcher) :
    batcher.drain.requests = requestsOf batcher.pendingEntries ∧
      batcher.drain.batcher.pendingEntries = [] :=
  ⟨rfl, batcher.queue.entries_drain.2⟩

end DynamicBatcher

end InferenceBatching
