import InferenceBatching.Batch.Shapes
import InferenceBatching.Dynamic.Basic

namespace InferenceBatching

/-!
# Selecting the requests of a dynamic batch

Requests are picked from the queue one by one: first the entries that must leave
with the next batch, level by level, and then the rest in the order of the queue.
A request with wrong inputs fails by itself. One whose shapes do not agree with
those picked goes back to the head of its level and ends the selection.
-/

/-- A selection under way. -/
structure Selection where
  queue : PriorityQueue
  taken : List QueueEntry
  failed : List Failure
  shapes : ShapeLedger
  isClosed : Bool
  deriving Repr, DecidableEq

namespace Selection

/-- Nothing selected yet. -/
def start
    (queue : PriorityQueue) :
    Selection where
  queue := queue
  taken := []
  failed := []
  shapes := .empty
  isClosed := false

/-- Decide about an entry that has just left the queue. -/
def consider
    (inputs : List InputSpec)
    (selection : Selection)
    (entry : QueueEntry) :
    Selection :=
  match inputMismatch? inputs entry.request with
  | some mismatch =>
      { selection with
        failed := selection.failed ++
          [{ request := entry.request, error := .invalidRequest mismatch.message }] }
  | none =>
      if selection.shapes.fits entry.request then
        { selection with
          taken := selection.taken ++ [entry]
          shapes := selection.shapes.note entry.request }
      else
        { selection with queue := selection.queue.pushFront entry, isClosed := true }

/-- Whether another entry may be picked. -/
def isOpen
    (selection : Selection)
    (limit : Nat) :
    Bool :=
  !selection.isClosed && selection.taken.length < limit

/-- Pick up to `count` entries from the head of a level. -/
def pickFromLevel
    (inputs : List InputSpec)
    (limit : Nat)
    (level : Nat) :
    Nat →
    Selection →
    Selection
  | 0, selection => selection
  | count + 1, selection =>
      if selection.isOpen limit then
        match selection.queue.popLevel? level with
        | none => selection
        | some (entry, queue) =>
            pickFromLevel inputs limit level count
              (consider inputs { selection with queue := queue } entry)
      else
        selection

/-- Pick, from each level in turn, as many entries as are given for it. -/
def pickUrgent
    (inputs : List InputSpec)
    (limit : Nat) :
    Nat →
    List Nat →
    Selection →
    Selection
  | _, [], selection => selection
  | level, count :: counts, selection =>
      pickUrgent inputs limit (level + 1) counts
        (pickFromLevel inputs limit level count selection)

/-- Pick up to `count` entries in the order of the queue. -/
def pickInOrder
    (inputs : List InputSpec)
    (limit : Nat) :
    Nat →
    Selection →
    Selection
  | 0, selection => selection
  | count + 1, selection =>
      if selection.isOpen limit then
        match selection.queue.popFront? with
        | none => selection
        | some (entry, queue) =>
            pickInOrder inputs limit count
              (consider inputs { selection with queue := queue } entry)
      else
        selection

end Selection

namespace DynamicBatcher

/-- Select up to `limit` requests. The queue holds no more than its size to pick from. -/
def select
    (batcher : DynamicBatcher)
    (limit : Nat)
    (now : Nat) :
    Selection :=
  let urgent :=
    Selection.pickUrgent batcher.inputs limit 1 (batcher.queue.urgentCounts now)
      (Selection.start batcher.queue)
  Selection.pickInOrder batcher.inputs limit batcher.queue.size urgent

end DynamicBatcher

end InferenceBatching
