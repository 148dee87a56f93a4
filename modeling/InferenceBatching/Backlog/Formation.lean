import InferenceBatching.Backlog.Expiry
import InferenceBatching.Backlog.Filling
import InferenceBatching.Sequence.Formation
import InferenceBatching.Sequence.Settlement

namespace InferenceBatching

/-!
# Forming batches with a backlog

After timeouts have been applied and free slots filled from the backlog, an instance
with a ready slot gets a batch with one entry for each slot.
-/

namespace BacklogBatcher

/-- The deadlines of what waits on live slots and behind the first requests in the backlog. -/
def deadlines
    (batcher : BacklogBatcher) :
    List Nat :=
  (batcher.liveSlots.flatMap Slot.pending).filterMap QueueEntry.deadline? ++
    (batcher.backlog.followers.entries.flatMap Prod.snd).filterMap QueueEntry.deadline?

/-- The first instant after `now` at which a timeout could change anything. -/
def nextWake?
    (batcher : BacklogBatcher)
    (now : Nat) :
    Option Nat :=
  earlier?
    (earliestAfter? now
      (batcher.deadlines ++ batcher.liveSlots.filterMap batcher.idleDeadline?))
    (batcher.backlog.starts.nextDeadline? now)

/-- Apply timeouts, fill free slots, and form a batch if a slot is ready. -/
def formBatch
    (batcher : BacklogBatcher)
    (instanceIndex : Nat)
    (now : Nat) :
    Formation BacklogBatcher :=
  match batcher.live? instanceIndex with
  | none => .idle batcher [] none
  | some _ =>
      let filled := fillFreeSlots (batcher.expire now) instanceIndex now
      match filled.batcher.table? instanceIndex with
      | none => .idle filled.batcher filled.failed none
      | some table =>
          if table.slots.any Slot.isReady then
            filled.batcher.dispatchBatch instanceIndex table filled.failed now
          else
            .idle filled.batcher filled.failed (nextWake? filled.batcher now)

/-- Hand over everything that waits, and turn every slot in use to its end. -/
def drain
    (batcher : BacklogBatcher) :
    Handover BacklogBatcher :=
  let (first, starts) := batcher.backlog.starts.drain
  { batcher := {
      batcher with
      backlog := { starts := starts, followers := .empty }
      instances := batcher.instances.map (fun held =>
        { held with table := held.table.tearDownAll.2 })
    }
    requests :=
      requestsOf (first ++ batcher.backlog.followers.entries.flatMap Prod.snd ++
        batcher.instances.flatMap (fun held => held.table.tearDownAll.1)) }

end BacklogBatcher

end InferenceBatching
