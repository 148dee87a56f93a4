import InferenceBatching.Batch.Shapes
import InferenceBatching.Batcher.Outcome
import InferenceBatching.Sequence.Expiry
import InferenceBatching.Sequence.Seating

namespace InferenceBatching

/-!
# Forming sequence batches

After timeouts have been applied and waiting sequences seated, an instance with
a ready slot gets a batch with one entry for each slot. A slot gives its next
request unless that request's shapes disagree with those of the slots before.
-/

/-- Batch entries and slots as they are after dispatching. -/
structure Dispatch where
  entries : List BatchEntry
  slots : List Slot
  deriving Repr, DecidableEq

namespace Dispatch

/-- Put an entry and its slot in front. -/
def prepend
    (entry : BatchEntry)
    (slot : Slot)
    (rest : Dispatch) :
    Dispatch where
  entries := entry :: rest.entries
  slots := slot :: rest.slots

/-- The dispatch of a slot's next request, if it is ready and agrees with the shapes so far. -/
def ofSlot?
    (shapes : ShapeLedger)
    (slot : Slot)
    (now : Nat) :
    Option (QueueEntry × Slot) :=
  match slot.pending with
  | [] => none
  | next :: _ => if shapes.fits next.request then slot.dispatch? now else none

/-- Dispatch slots in order, from the one at an index on. -/
def ofSlots
    (now : Nat) :
    Nat →
    ShapeLedger →
    List Slot →
    Dispatch
  | _, _, [] => { entries := [], slots := [] }
  | index, shapes, slot :: slots =>
      match ofSlot? shapes slot now with
      | some (entry, dispatched) =>
          (ofSlots now (index + 1) (shapes.note entry.request) slots).prepend
            (.seated index entry) dispatched
      | none =>
          (ofSlots now (index + 1) shapes slots).prepend
            (.padding index slot.sequence?) slot

end Dispatch

namespace SequenceBatcher

variable {Waiting : Type}

/-- The slots of all live instances. -/
def liveSlots
    (batcher : SequenceBatcher Waiting) :
    List Slot :=
  (batcher.instances.filter (fun held => !held.isHalted)).flatMap (fun held =>
    held.table.slots)

/-- The instant at which a sequence on a slot will have been idle for the limit. -/
def idleDeadline?
    (batcher : SequenceBatcher Waiting)
    (slot : Slot) :
    Option Nat :=
  if slot.state = .active && slot.isQuiescent then
    batcher.idleLimit?.map (slot.lastActivity + ·)
  else
    none

/-- The deadlines of everything that waits: on live slots and in lanes. -/
def deadlines
    (batcher : SequenceBatcher) :
    List Nat :=
  (batcher.liveSlots.flatMap Slot.pending).filterMap QueueEntry.deadline? ++
    (batcher.backlog.flatMap Lane.entries).filterMap QueueEntry.deadline?

/-- The first instant after `now` at which a timeout could change anything. -/
def nextWake?
    (batcher : SequenceBatcher)
    (now : Nat) :
    Option Nat :=
  earliestAfter? now
    (batcher.deadlines ++ batcher.liveSlots.filterMap batcher.idleDeadline?)

/-- Dispatch the ready slots of an instance as one batch. -/
def dispatchBatch
    (batcher : SequenceBatcher Waiting)
    (instanceIndex : Nat)
    (table : SlotTable)
    (failed : List Failure)
    (now : Nat) :
    Formation (SequenceBatcher Waiting) :=
  let dispatch := Dispatch.ofSlots now 0 .empty table.slots
  .formed (batcher.withTable instanceIndex { table with slots := dispatch.slots })
    { form := .sequence batcher.controlNames
      instanceIndex := instanceIndex
      formedAt := now
      entries := dispatch.entries }
    failed

/-- Apply timeouts, seat waiting sequences, and form a batch if a slot is ready. -/
def formBatch
    (batcher : SequenceBatcher)
    (instanceIndex : Nat)
    (now : Nat) :
    Formation SequenceBatcher :=
  match batcher.live? instanceIndex with
  | none => .idle batcher [] none
  | some _ =>
      let sweep := batcher.expire now
      let seated := sweep.batcher.seatLanes instanceIndex now
      match seated.table? instanceIndex with
      | none => .idle seated sweep.failed none
      | some table =>
          if table.slots.any Slot.isReady then
            seated.dispatchBatch instanceIndex table sweep.failed now
          else
            .idle seated sweep.failed (seated.nextWake? now)

end SequenceBatcher

end InferenceBatching
