import InferenceBatching.Queue.Layout
import InferenceBatching.Queue.Level

namespace InferenceBatching

/-!
# Priority queues

A priority queue is one queue for each level. Entries leave from the first level
that has any, in order of arrival within the level. Levels are counted from 1,
and a priority that names no level stands for the default level, which the type
keeps within range.
-/

/-- Queues for the levels `1, 2, …`, with the level for requests that name none of them. -/
structure PriorityQueue where
  levels : List LevelQueue
  defaultLevel : Nat
  defaultLevel_pos : 0 < defaultLevel
  defaultLevel_le : defaultLevel ≤ levels.length
  deriving Repr, DecidableEq

namespace PriorityQueue

/-- Empty queues in a layout. There is always one level at least. -/
def ofLayout
    (layout : QueueLayout) :
    PriorityQueue where
  levels :=
    (List.range (max layout.levels 1)).map (fun index =>
      { level := index + 1, policy := layout.policyFor (index + 1) })
  defaultLevel := max 1 (min layout.defaultLevel (max layout.levels 1))
  defaultLevel_pos := by omega
  defaultLevel_le := by
    simp only [List.length_map, List.length_range]
    omega

/-- The number of levels. -/
def levelCount
    (queue : PriorityQueue) :
    Nat :=
  queue.levels.length

/-- The level that a priority stands for. -/
def resolveLevel
    (queue : PriorityQueue)
    (priority : Nat) :
    Nat :=
  if priority = 0 || queue.levelCount < priority then
    queue.defaultLevel
  else
    priority

/-- Every priority stands for a level that exists. -/
theorem resolveLevel_bounds
    (queue : PriorityQueue)
    (priority : Nat) :
    0 < queue.resolveLevel priority ∧ queue.resolveLevel priority ≤ queue.levelCount := by
  have positive := queue.defaultLevel_pos
  have withinLevels : queue.defaultLevel ≤ queue.levelCount := queue.defaultLevel_le
  unfold resolveLevel
  split
  · exact ⟨positive, withinLevels⟩
  · next named =>
      simp only [Bool.or_eq_true, decide_eq_true_eq, not_or] at named
      omega

/-- The position of a resolved level among the queues. -/
theorem resolveLevel_index
    (queue : PriorityQueue)
    (priority : Nat) :
    queue.resolveLevel priority - 1 < queue.levels.length := by
  have bounds := queue.resolveLevel_bounds priority
  unfold levelCount at bounds
  omega

/-- The queue of a level, if the level exists. -/
def level?
    (queue : PriorityQueue)
    (level : Nat) :
    Option LevelQueue :=
  if level = 0 then
    none
  else
    queue.levels[level - 1]?

/-- The priority queue with the queue at a position replaced. -/
def replace
    (queue : PriorityQueue)
    (index : Nat)
    (replacement : LevelQueue) :
    PriorityQueue :=
  { queue with
    levels := queue.levels.set index replacement
    defaultLevel_le := by
      rw [List.length_set]
      exact queue.defaultLevel_le }

/-- The priority queue with every level changed in the same way. -/
def mapLevels
    (queue : PriorityQueue)
    (change : LevelQueue → LevelQueue) :
    PriorityQueue :=
  { queue with
    levels := queue.levels.map change
    defaultLevel_le := by
      rw [List.length_map]
      exact queue.defaultLevel_le }

/-- Let a request in at its level, or hand it back when the level is full. -/
def enqueue
    (queue : PriorityQueue)
    (request : Request)
    (now : Nat) :
    Except Failure PriorityQueue :=
  let index := queue.resolveLevel request.priority - 1
  have inRange : index < queue.levels.length := queue.resolveLevel_index request.priority
  match queue.levels[index].push request now with
  | .ok pushed => .ok (queue.replace index pushed)
  | .error failure => .error failure

/-- Put an entry back at the head of its level. -/
def pushFront
    (queue : PriorityQueue)
    (entry : QueueEntry) :
    PriorityQueue :=
  let index := queue.resolveLevel entry.request.priority - 1
  have inRange : index < queue.levels.length := queue.resolveLevel_index entry.request.priority
  queue.replace index (queue.levels[index].pushFront entry)

/-- All entries in the order in which they would leave. -/
def entries
    (queue : PriorityQueue) :
    List QueueEntry :=
  queue.levels.flatMap LevelQueue.entries

/-- The number of waiting entries. -/
def size
    (queue : PriorityQueue) :
    Nat :=
  (queue.levels.map LevelQueue.size).sum

/-- Counting the levels counts the entries. -/
theorem size_eq_length_entries
    (queue : PriorityQueue) :
    queue.size = queue.entries.length := by
  rw [size, entries, List.length_flatMap]
  rfl

/-- Whether nothing waits on any level. -/
def isEmpty
    (queue : PriorityQueue) :
    Bool :=
  queue.levels.all LevelQueue.isEmpty

/-- The entry that leaves next. -/
def peek?
    (queue : PriorityQueue) :
    Option QueueEntry :=
  queue.levels.findSome? LevelQueue.front?

/-- The first level that has entries. -/
def highestPendingLevel?
    (queue : PriorityQueue) :
    Option Nat :=
  (queue.levels.findIdx? (fun level => !level.isEmpty)).map (· + 1)

/-- Take the head of a level. -/
def popLevel?
    (queue : PriorityQueue)
    (level : Nat) :
    Option (QueueEntry × PriorityQueue) :=
  match (queue.level? level).bind LevelQueue.popFront? with
  | some (entry, rest) => some (entry, queue.replace (level - 1) rest)
  | none => none

/-- Take the entry that leaves next. -/
def popFront?
    (queue : PriorityQueue) :
    Option (QueueEntry × PriorityQueue) :=
  queue.highestPendingLevel?.bind queue.popLevel?

/-- Remove the entries that pass a test, from all levels in order. -/
def removeWhere
    (queue : PriorityQueue)
    (test : QueueEntry → Bool) :
    List QueueEntry × PriorityQueue :=
  (queue.levels.flatMap (fun level => level.matching test),
    queue.mapLevels (fun level => level.without test))

/-- Remove the entries that have to be given up. -/
def takeExpired
    (queue : PriorityQueue)
    (now : Nat) :
    List QueueEntry × PriorityQueue :=
  queue.removeWhere (fun entry => entry.isRejectable now)

/-- For each level, how many entries at its head must leave with the next batch. -/
def urgentCounts
    (queue : PriorityQueue)
    (now : Nat) :
    List Nat :=
  queue.levels.map (fun level => level.urgentCount now)

/-- Whether any level holds an urgent entry. -/
def hasUrgent
    (queue : PriorityQueue)
    (now : Nat) :
    Bool :=
  queue.levels.any (fun level => 0 < level.urgentCount now)

/-- The earliest instant at which the head of some level was let in. -/
def oldestFront?
    (queue : PriorityQueue) :
    Option Nat :=
  earliest?
    (queue.levels.filterMap (fun level => level.front?.map QueueEntry.enqueuedAt))

/-- The first deadline after `now` on any level. -/
def nextDeadline?
    (queue : PriorityQueue)
    (now : Nat) :
    Option Nat :=
  earliest? (queue.levels.filterMap (fun level => level.nextDeadline? now))

/-- Remove everything, in the order in which it would leave. -/
def drain
    (queue : PriorityQueue) :
    List QueueEntry × PriorityQueue :=
  (queue.entries, queue.mapLevels LevelQueue.cleared)

/-- Draining hands over all entries in their order and leaves none. -/
theorem entries_drain
    (queue : PriorityQueue) :
    queue.drain.1 = queue.entries ∧ queue.drain.2.entries = [] := by
  simp [drain, entries, mapLevels, LevelQueue.cleared, List.flatMap_map]

end PriorityQueue

end InferenceBatching
