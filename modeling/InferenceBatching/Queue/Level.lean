import InferenceBatching.Queue.Entry

namespace InferenceBatching

/-!
# The queue of one priority level

Entries leave in the order in which they came. An entry can be put back at the
head, which does not ask for room: it had its place already.
-/

/-- First-in, first-out queue of one priority level under one policy. -/
structure LevelQueue where
  level : Nat
  policy : QueuePolicy
  entries : List QueueEntry := []
  deriving Repr, DecidableEq

namespace LevelQueue

/-- The number of waiting entries. -/
def size
    (queue : LevelQueue) :
    Nat :=
  queue.entries.length

/-- Whether nothing waits. -/
def isEmpty
    (queue : LevelQueue) :
    Bool :=
  queue.entries.isEmpty

/-- The entry that leaves next. -/
def front?
    (queue : LevelQueue) :
    Option QueueEntry :=
  queue.entries.head?

/-- Let a request in at the tail, or hand it back when the queue is full. -/
def push
    (queue : LevelQueue)
    (request : Request)
    (now : Nat) :
    Except Failure LevelQueue :=
  if queue.policy.hasRoom queue.size then
    .ok { queue with entries := queue.entries ++ [QueueEntry.enter request queue.policy now] }
  else
    .error { request := request, error := .queueFull }

/-- Put an entry back at the head. -/
def pushFront
    (queue : LevelQueue)
    (entry : QueueEntry) :
    LevelQueue :=
  { queue with entries := entry :: queue.entries }

/-- Take the entry at the head. -/
def popFront?
    (queue : LevelQueue) :
    Option (QueueEntry × LevelQueue) :=
  match queue.entries with
  | [] => none
  | entry :: rest => some (entry, { queue with entries := rest })

/-- The entries that pass a test, in order. -/
def matching
    (queue : LevelQueue)
    (test : QueueEntry → Bool) :
    List QueueEntry :=
  queue.entries.filter test

/-- The queue without the entries that pass a test. -/
def without
    (queue : LevelQueue)
    (test : QueueEntry → Bool) :
    LevelQueue :=
  { queue with entries := queue.entries.filter (fun entry => !test entry) }

/--
How many entries at the head must leave with the next batch: all up to and
including the last urgent one, so that none of them overtakes another.
-/
def urgentCount
    (queue : LevelQueue)
    (now : Nat) :
    Nat :=
  (queue.entries.reverse.dropWhile (fun entry => !entry.isUrgent now)).length

/-- No more entries must leave than there are. -/
theorem urgentCount_le_size
    (queue : LevelQueue)
    (now : Nat) :
    queue.urgentCount now ≤ queue.size := by
  have shorter :=
    (List.dropWhile_sublist (l := queue.entries.reverse)
      (fun entry => !entry.isUrgent now)).length_le
  simpa [urgentCount, size] using shorter

/-- The first deadline after `now`. -/
def nextDeadline?
    (queue : LevelQueue)
    (now : Nat) :
    Option Nat :=
  InferenceBatching.nextDeadline? queue.entries now

/-- The queue without any entry. -/
def cleared
    (queue : LevelQueue) :
    LevelQueue :=
  { queue with entries := [] }

/-- Letting a request in puts its entry behind all others and changes nothing else. -/
theorem push_eq_ok_iff
    {queue pushed : LevelQueue}
    {request : Request}
    {now : Nat} :
    queue.push request now = .ok pushed ↔
      queue.policy.hasRoom queue.size = true ∧
        pushed = { queue with
          entries := queue.entries ++ [QueueEntry.enter request queue.policy now] } := by
  unfold push
  split
  · next room => simp [room, eq_comm]
  · next full => simp [full]

end LevelQueue

end InferenceBatching
