import InferenceBatching.Queue.Priority

namespace InferenceBatching

/-!
# A priority queue as lists

What a priority queue is to those who use it is a list of entries for each level, one
behind the other. This module says what the operations do to such lists, without places,
containers or bounds to keep, and which queue stands for which lists.
-/

/-- An operation on a priority queue. -/
inductive QueueOperation where
  | enqueue (request : Request) (now : Nat)
  | popFront
  | popLevel (level : Nat)
  | pushFront (entry : QueueEntry)
  | takeExpired (now : Nat)
  | removeWhere (test : QueueEntry → Bool)
  | drain

/-- The entry that an operation puts back. -/
def QueueOperation.returned? :
    QueueOperation →
    Option QueueEntry
  | .pushFront entry => some entry
  | .enqueue _ _ | .popFront | .popLevel _ | .takeExpired _ | .removeWhere _ | .drain => none

/-- What an operation on a priority queue gives back. -/
inductive QueueReply where
  | enqueued (rejection? : Option Failure)
  | popped (head? : Option QueueEntry)
  | putBack
  | removed (entries : List QueueEntry)
  deriving Repr, DecidableEq

namespace QueueReply

/-- The entries that leave the queue with a reply. -/
def entries :
    QueueReply →
    List QueueEntry
  | .enqueued _ => []
  | .popped head? => head?.toList
  | .putBack => []
  | .removed entries => entries

/-- The reply to taking one entry, with what is left then. -/
def ofPop
    {State : Type}
    (state : State) :
    Option (QueueEntry × State) →
    QueueReply × State
  | some (entry, rest) => (.popped (some entry), rest)
  | none => (.popped none, state)

/-- The reply to removing entries, with what is left then. -/
def ofRemoval
    {State : Type}
    (removal : List QueueEntry × State) :
    QueueReply × State :=
  (.removed removal.1, removal.2)

end QueueReply

namespace PriorityQueue

/-- What an operation gives back, and the queue then. -/
def perform
    (queue : PriorityQueue) :
    QueueOperation →
    QueueReply × PriorityQueue
  | .enqueue request now =>
      match queue.enqueue request now with
      | .ok grown => (.enqueued none, grown)
      | .error failure => (.enqueued (some failure), queue)
  | .popFront => QueueReply.ofPop queue queue.popFront?
  | .popLevel level => QueueReply.ofPop queue (queue.popLevel? level)
  | .pushFront entry => (.putBack, queue.pushFront entry)
  | .takeExpired now => QueueReply.ofRemoval (queue.takeExpired now)
  | .removeWhere test => QueueReply.ofRemoval (queue.removeWhere test)
  | .drain => QueueReply.ofRemoval queue.drain

/-- The replies to some operations, and the queue then. -/
def run
    (queue : PriorityQueue) :
    List QueueOperation →
    List QueueReply × PriorityQueue
  | [] => ([], queue)
  | operation :: operations =>
      let (reply, next) := queue.perform operation
      let (replies, last) := next.run operations
      (reply :: replies, last)

/-- Whether only entries are put back that have been handed out before, or by the queue now. -/
def PutsBack :
    PriorityQueue →
    List QueueEntry →
    List QueueOperation →
    Prop
  | _, _, [] => True
  | queue, handedOut, operation :: operations =>
      (∀ entry ∈ operation.returned?, entry ∈ handedOut) ∧
        (queue.perform operation).2.PutsBack
          (handedOut ++ (queue.perform operation).1.entries) operations

instance decidablePutsBack :
    (queue : PriorityQueue) →
    (handedOut : List QueueEntry) →
    (operations : List QueueOperation) →
    Decidable (queue.PutsBack handedOut operations)
  | _, _, [] => inferInstanceAs (Decidable True)
  | queue, handedOut, operation :: operations =>
      have := decidablePutsBack (queue.perform operation).2
        (handedOut ++ (queue.perform operation).1.entries) operations
      inferInstanceAs (Decidable (_ ∧ _))

end PriorityQueue

namespace QueueLayout

/-- The number of levels; there is always one. -/
def levelCount
    (layout : QueueLayout) :
    Nat :=
  max layout.levels 1

/-- The level for requests that name none: the one asked for, or the nearest there is. -/
def fallback
    (layout : QueueLayout) :
    Nat :=
  max 1 (min layout.defaultLevel layout.levelCount)

/-- The level that a priority stands for. -/
def levelOf
    (layout : QueueLayout)
    (priority : Nat) :
    Nat :=
  if 1 ≤ priority ∧ priority ≤ layout.levelCount then
    priority
  else
    layout.fallback

theorem levelOf_bounds
    (layout : QueueLayout)
    (priority : Nat) :
    1 ≤ layout.levelOf priority ∧ layout.levelOf priority ≤ layout.levelCount := by
  unfold levelOf fallback levelCount
  split <;> omega

end QueueLayout

/-- The entries that wait on each level, in order. -/
structure LevelLists where
  waiting : Nat → List QueueEntry := fun _ => []

namespace LevelLists

/-- The lists with another one for a level. -/
def withLevel
    (lists : LevelLists)
    (level : Nat)
    (entries : List QueueEntry) :
    LevelLists where
  waiting other := if other = level then entries else lists.waiting other

/-- All entries of a layout's levels, one level behind the other. -/
def listing
    (lists : LevelLists)
    (layout : QueueLayout) :
    List QueueEntry :=
  (List.range layout.levelCount).flatMap (fun index => lists.waiting (index + 1))

/-- Whether the policy of a level lets nobody in. -/
def isFull
    (lists : LevelLists)
    (layout : QueueLayout)
    (level : Nat) :
    Bool :=
  0 < (layout.policyFor level).capacity &&
    (layout.policyFor level).capacity ≤ (lists.waiting level).length

/-- Let a request in at the end of its level. -/
def letIn
    (lists : LevelLists)
    (layout : QueueLayout)
    (request : Request)
    (now : Nat) :
    LevelLists :=
  let level := layout.levelOf request.priority
  lists.withLevel level
    (lists.waiting level ++ [.enter request (layout.policyFor level) now])

/-- Put an entry back at the head of its level. -/
def putBack
    (lists : LevelLists)
    (layout : QueueLayout)
    (entry : QueueEntry) :
    LevelLists :=
  let level := layout.levelOf entry.request.priority
  lists.withLevel level (entry :: lists.waiting level)

/-- Take out the entries that pass a test, from all levels in order. -/
def remove
    (lists : LevelLists)
    (layout : QueueLayout)
    (test : QueueEntry → Bool) :
    List QueueEntry × LevelLists :=
  ((lists.listing layout).filter test,
    { waiting := fun level => (lists.waiting level).filter (fun entry => !test entry) })

/-- Take the head of a level. -/
def take?
    (lists : LevelLists)
    (level : Nat) :
    Option (QueueEntry × LevelLists) :=
  match lists.waiting level with
  | [] => none
  | entry :: rest => some (entry, lists.withLevel level rest)

/-- Take the first entry of all. -/
def takeFirst?
    (lists : LevelLists)
    (layout : QueueLayout) :
    Option (QueueEntry × LevelLists) :=
  (lists.listing layout).head?.bind (fun entry =>
    lists.take? (layout.levelOf entry.request.priority))

/-- What an operation gives back, and the lists then. -/
def perform
    (lists : LevelLists)
    (layout : QueueLayout) :
    QueueOperation →
    QueueReply × LevelLists
  | .enqueue request now =>
      if lists.isFull layout (layout.levelOf request.priority) then
        (.enqueued (some { request := request, error := .queueFull }), lists)
      else
        (.enqueued none, lists.letIn layout request now)
  | .popFront => QueueReply.ofPop lists (lists.takeFirst? layout)
  | .popLevel level => QueueReply.ofPop lists (lists.take? level)
  | .pushFront entry => (.putBack, lists.putBack layout entry)
  | .takeExpired now =>
      QueueReply.ofRemoval (lists.remove layout (fun entry => entry.isRejectable now))
  | .removeWhere test => QueueReply.ofRemoval (lists.remove layout test)
  | .drain => QueueReply.ofRemoval (lists.listing layout, {})

/-- The replies to some operations, and the lists then. -/
def run
    (lists : LevelLists)
    (layout : QueueLayout) :
    List QueueOperation →
    List QueueReply × LevelLists
  | [] => ([], lists)
  | operation :: operations =>
      let (reply, next) := lists.perform layout operation
      let (replies, last) := next.run layout operations
      (reply :: replies, last)

/-- Every entry waits on the level that its priority stands for. -/
def Filed
    (lists : LevelLists)
    (layout : QueueLayout) :
    Prop :=
  ∀ level, ∀ entry ∈ lists.waiting level, layout.levelOf entry.request.priority = level

/-- The queue of one level. -/
def levelQueue
    (lists : LevelLists)
    (layout : QueueLayout)
    (level : Nat) :
    LevelQueue where
  level := level
  policy := layout.policyFor level
  entries := lists.waiting level

/-- The priority queue that stands for some lists. -/
def asQueue
    (lists : LevelLists)
    (layout : QueueLayout) :
    PriorityQueue where
  levels := (List.range layout.levelCount).map (fun index => lists.levelQueue layout (index + 1))
  defaultLevel := layout.fallback
  defaultLevel_pos := by
    unfold QueueLayout.fallback
    omega
  defaultLevel_le := by
    simp only [List.length_map, List.length_range, QueueLayout.fallback, QueueLayout.levelCount]
    omega

/-- A new queue stands for empty lists. -/
theorem asQueue_empty
    (layout : QueueLayout) :
    PriorityQueue.ofLayout layout = asQueue {} layout :=
  rfl

end LevelLists

end InferenceBatching
