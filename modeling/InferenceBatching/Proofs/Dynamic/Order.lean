import InferenceBatching.Proofs.Dynamic.Conservation
import InferenceBatching.Proofs.Queue.Order
import InferenceBatching.Proofs.Run.Operation

namespace InferenceBatching

/-!
# First in, first out

A selection takes entries from the heads of levels, and what it puts back was the
head of its level before. So on every level, what a batch dispatches and then what
is left are in the order in which they waited.
-/

namespace Selection

variable {origin : PriorityQueue}
variable {selection : Selection}
variable {inputs : List InputSpec}

/-- An entry that was popped is taken behind those taken, failed, or put back where it was. -/
private theorem inOrder_consider
    (filed : origin.Filed)
    (inOrder : PriorityQueue.InOrder origin selection.queue [] selection.taken)
    {queue : PriorityQueue}
    {entry : QueueEntry}
    {level : Nat}
    (popped : selection.queue.popLevel? level = some (entry, queue)) :
    let next := consider inputs { selection with queue := queue } entry
    PriorityQueue.InOrder origin next.queue [] next.taken := by
  have stillFiled := inOrder.filed filed
  have taken := inOrder.trans (PriorityQueue.inOrder_popLevel? stillFiled popped)
  have putBack := inOrder.trans (PriorityQueue.inOrder_putBack stillFiled popped)
  rw [List.append_nil, List.append_nil] at putBack
  unfold consider
  split
  · exact taken.sublist (List.sublist_append_left _ _)
  · split
    · exact taken
    · exact putBack

end Selection

namespace DynamicBatcher

variable {batcher : DynamicBatcher}

/-- A selection takes entries in the order of the queue. -/
theorem inOrder_select
    (filed : batcher.queue.Filed)
    (limit now : Nat) :
    let selection := batcher.select limit now
    PriorityQueue.InOrder batcher.queue selection.queue [] selection.taken := by
  refine select_induction
    (motive := fun selection =>
      PriorityQueue.InOrder batcher.queue selection.queue [] selection.taken) ?_ ?_ now
  · exact .refl batcher.queue
  · intro selection queue entry level _ popped inOrder
    exact Selection.inOrder_consider filed inOrder popped

/-- A request that is let in waits behind all others of its level. -/
theorem inOrder_enqueue
    {request : Request}
    {now : Nat}
    (accepted : (batcher.enqueue request now).rejection? = none) :
    PriorityQueue.InOrder batcher.queue (batcher.enqueue request now).batcher.queue
      [batcher.entryFor request now] [] := by
  simp only [enqueue] at accepted ⊢
  split at accepted
  · next queue isAccepted => exact PriorityQueue.inOrder_enqueue isAccepted
  · contradiction

/-- Closing a batch dispatches what was selected and puts nothing in front of the rest. -/
theorem inOrder_close
    (filed : batcher.queue.Filed)
    (instanceIndex limit : Nat)
    (expired : List Failure)
    (now : Nat) :
    let formation := batcher.close instanceIndex limit expired now
    PriorityQueue.InOrder batcher.queue formation.batcher.queue []
      (formation.batch?.toList.flatMap Batch.queueEntries) := by
  intro formation
  have isQueue : formation.batcher.queue = (batcher.select limit now).queue := by
    simp only [formation, close]
    split <;> rfl
  rw [isQueue, (batcher.close_eq instanceIndex limit expired now).2.1]
  exact inOrder_select filed limit now

/-- An attempt dispatches entries from the heads of the levels, expired ones left out. -/
theorem inOrder_attempt
    (filed : batcher.queue.Filed)
    (instanceIndex now : Nat) :
    let formation := batcher.attempt instanceIndex now
    PriorityQueue.InOrder batcher.queue formation.batcher.queue []
      (formation.batch?.toList.flatMap Batch.queueEntries) := by
  have expires :
      PriorityQueue.InOrder batcher.queue (batcher.takeExpired now).batcher.queue [] [] :=
    batcher.queue.inOrder_removeWhere _
  refine attempt_cases
    (motive := fun formation =>
      PriorityQueue.InOrder batcher.queue formation.batcher.queue []
        (formation.batch?.toList.flatMap Batch.queueEntries)) ?_ ?_ expires
  · intro phase wakeAt?
    exact expires
  · intro limit
    exact expires.trans (inOrder_close (expires.filed filed) instanceIndex limit _ now)

end DynamicBatcher

end InferenceBatching
