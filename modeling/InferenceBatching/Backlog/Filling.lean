import InferenceBatching.Backlog.Basic
import InferenceBatching.Sequence.Expiry

namespace InferenceBatching

/-!
# Filling free slots from the backlog

First requests leave the queue one by one while the instance has a free slot. One
whose sequence is still bound, because an earlier sequence of that number is coming
to its end, is set aside. What was set aside goes back to the head of the queue in
the end, the last one first.
-/

/-- The free slots of an instance being filled. -/
structure Filling where
  backlog : Backlog
  table : SlotTable
  bindings : Directory CorrelationId Seat
  skipped : List QueueEntry := []
  failed : List Failure := []
  isClosed : Bool := false
  deriving Repr, DecidableEq

namespace Filling

/-- Set an entry aside. -/
def skip
    (filling : Filling)
    (entry : QueueEntry) :
    Filling :=
  { filling with skipped := filling.skipped ++ [entry] }

/-- Queue the first request of a sequence and what came behind it on the slot it was given. -/
def occupy
    (filling : Filling)
    (seat : Seat)
    (bound : SlotTable)
    (sequence : CorrelationId)
    (entry : QueueEntry)
    (now : Nat) :
    Filling :=
  let seated :=
    { filling with table := bound, bindings := filling.bindings.insert sequence seat }
  match bound.slot? seat.slot with
  | none => seated
  | some _ =>
      let (followers, backlog) := filling.backlog.takeFollowers sequence
      { seated with
        backlog := backlog
        table := bound.pushAll seat.slot (entry :: followers) now }

/-- Decide about an entry that has just left the queue. -/
def consider
    (instanceIndex : Nat)
    (now : Nat)
    (filling : Filling)
    (entry : QueueEntry) :
    Filling :=
  match entry.request.sequence? with
  | none =>
      { filling with
        failed := filling.failed ++
          [{ request := entry.request
             error := .invalidRequest "sequence request without correlation id" }] }
  | some sequence =>
      if filling.bindings.contains sequence then
        filling.skip entry
      else
        match filling.table.bind? sequence now with
        | none => { filling.skip entry with isClosed := true }
        | some (slot, bound) =>
            filling.occupy { instanceIndex := instanceIndex, slot := slot } bound sequence
              entry now

/-- Whether another entry may leave the queue. -/
def isOpen
    (filling : Filling) :
    Bool :=
  !filling.isClosed && filling.table.hasFree

/-- Let up to `count` entries leave the queue. -/
def fill
    (instanceIndex : Nat)
    (now : Nat) :
    Nat →
    Filling →
    Filling
  | 0, filling => filling
  | count + 1, filling =>
      if filling.isOpen then
        match filling.backlog.starts.popFront? with
        | none => filling
        | some (entry, starts) =>
            fill instanceIndex now count
              (consider instanceIndex now
                { filling with backlog := { filling.backlog with starts := starts } } entry)
      else
        filling

/-- The backlog with everything that was set aside back at the head of the queue. -/
def putBack
    (filling : Filling) :
    Backlog :=
  { filling.backlog with
    starts := filling.skipped.reverse.foldl PriorityQueue.pushFront filling.backlog.starts }

end Filling

namespace BacklogBatcher

/-- The free slots of an instance as they are filled. The queue holds no more than its size. -/
def filling
    (batcher : BacklogBatcher)
    (instanceIndex : Nat)
    (table : SlotTable)
    (now : Nat) :
    Filling :=
  Filling.fill instanceIndex now batcher.backlog.starts.size
    { backlog := batcher.backlog, table := table, bindings := batcher.bindings }

/-- Move waiting sequences into the free slots of an instance. -/
def fillFreeSlots
    (sweep : Sweep Backlog)
    (instanceIndex : Nat)
    (now : Nat) :
    Sweep Backlog :=
  match sweep.batcher.table? instanceIndex with
  | none => sweep
  | some table =>
      let filling := filling sweep.batcher instanceIndex table now
      { sweep with
        batcher := {
          sweep.batcher.withTable instanceIndex filling.table with
          bindings := filling.bindings
          backlog := filling.putBack
        }
        failed := sweep.failed ++ filling.failed }

end BacklogBatcher

end InferenceBatching
