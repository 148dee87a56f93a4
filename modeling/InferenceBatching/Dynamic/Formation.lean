import InferenceBatching.Dynamic.Selection

namespace InferenceBatching

/-!
# Forming dynamic batches

A batch closes when enough requests wait, when the oldest head has waited for
the whole window, or when an urgent request forces it. A batch closed only
because enough requests wait is not filled beyond the preferred size.

Room for a batch is made before it is filled. `overreach?` tells when that
cannot be done, however few requests wait.
-/

namespace DynamicBatcher

/-- Which conditions for closing a batch hold. -/
structure Closing where
  isFull : Bool
  hasElapsed : Bool
  isForced : Bool
  deriving Repr, DecidableEq

namespace Closing

/-- Whether any condition holds. -/
def holds
    (closing : Closing) :
    Bool :=
  closing.isFull || closing.hasElapsed || closing.isForced

/-- Whether the batch may be filled to its maximum. -/
def fillsUp
    (closing : Closing) :
    Bool :=
  closing.hasElapsed || closing.isForced

end Closing

/-- The conditions for closing, given the end of the oldest head's window. -/
def closing
    (batcher : DynamicBatcher)
    (windowEnd : Nat)
    (now : Nat) :
    Closing where
  isFull := batcher.preferredBatchSize ≤ batcher.queue.size
  hasElapsed := windowEnd ≤ now
  isForced := batcher.delayForcesClose now

/-- The size up to which a batch is filled. -/
def sizeLimit
    (batcher : DynamicBatcher)
    (closing : Closing) :
    Nat :=
  if closing.fillsUp then
    batcher.maxBatchSize
  else
    batcher.preferredBatchSize

/-- Close a batch for an instance; without any request to run, nothing is dispatched. -/
def close
    (batcher : DynamicBatcher)
    (instanceIndex : Nat)
    (limit : Nat)
    (expired : List Failure)
    (now : Nat) :
    Formation DynamicBatcher :=
  let selection := batcher.select limit now
  let selected := { batcher with queue := selection.queue }
  let failed := expired ++ selection.failed
  if selection.taken.isEmpty then
    .idle (selected.enterPhase instanceIndex .idle) failed none
  else
    .formed (selected.enterPhase instanceIndex .dispatched)
      (.ofEntries instanceIndex selection.taken now) failed

/-- The size up to which a batch is filled, if one is due, given when the oldest head came. -/
def dueLimit?
    (batcher : DynamicBatcher)
    (oldest : Nat)
    (now : Nat) :
    Option Nat :=
  let closing := batcher.closing (oldest + batcher.maxQueueDelay) now
  if closing.holds then
    some (batcher.sizeLimit closing)
  else
    none

/-- Take out what has expired. -/
def takeExpired
    (batcher : DynamicBatcher)
    (now : Nat) :
    Handover DynamicBatcher :=
  let (late, queue) := batcher.queue.takeExpired now
  { batcher := { batcher with queue := queue }
    requests := requestsOf late }

/-- Fail what has expired and form a batch for an instance if one is due. -/
def formBatch
    (batcher : DynamicBatcher)
    (instanceIndex : Nat)
    (now : Nat) :
    Formation DynamicBatcher :=
  let late := batcher.takeExpired now
  let waiting := late.batcher
  let expired := Failure.all late.requests .timeoutExpired
  match waiting.queue.oldestFront? with
  | none => .idle (waiting.enterPhase instanceIndex .idle) expired none
  | some oldest =>
      match waiting.dueLimit? oldest now with
      | some limit => waiting.close instanceIndex limit expired now
      | none =>
          .idle (waiting.enterPhase instanceIndex .accumulating) expired
            (earlier? (waiting.queue.nextDeadline? now) (some (oldest + batcher.maxQueueDelay)))

/-- The bytes that can be addressed as one block. -/
def addressableBytes : Nat :=
  2 ^ 63 - 1

/--
What has expired, if a batch is due that is too large to make room for. Nothing
else has changed then, and nobody will fail these requests.
-/
def overreach?
    (batcher : DynamicBatcher)
    (now : Nat) :
    Option (Handover DynamicBatcher) :=
  let late := batcher.takeExpired now
  match late.batcher.queue.oldestFront? with
  | none => none
  | some oldest =>
      match late.batcher.dueLimit? oldest now with
      | none => none
      | some limit => if addressableBytes < limit * batcher.entryBytes then some late else none

/-- Note that an instance has finished its batch. -/
def complete
    (batcher : DynamicBatcher)
    (instanceIndex : Nat) :
    Settlement DynamicBatcher where
  batcher := batcher.enterPhase instanceIndex .idle
  verdict := .settled []

/-- Take an instance out of service. Waiting requests can run on any other one. -/
def halt
    (batcher : DynamicBatcher)
    (instanceIndex : Nat) :
    Handover DynamicBatcher where
  batcher := batcher.enterPhase instanceIndex .idle
  requests := []

/-- Hand over everything that waits. -/
def drain
    (batcher : DynamicBatcher) :
    Handover DynamicBatcher :=
  let (entries, queue) := batcher.queue.drain
  { batcher := { batcher with queue := queue }
    requests := requestsOf entries }

end DynamicBatcher

end InferenceBatching
