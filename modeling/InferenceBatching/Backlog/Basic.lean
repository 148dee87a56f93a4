import InferenceBatching.Queue.Priority
import InferenceBatching.Sequence.Basic

namespace InferenceBatching

/-!
# The backlog

The sequences that wait for a slot are kept in two places: their first requests in a
queue of one level, and what came behind a first request in a directory, under the
number of its sequence. Nothing but the operations holds the two together.
-/

/-- The first requests that wait for a slot, and what came behind each of them. -/
structure Backlog where
  starts : PriorityQueue
  followers : Directory CorrelationId (List QueueEntry)
  deriving Repr, DecidableEq

namespace Backlog

/-- A backlog without any request. -/
def empty
    (policy : QueuePolicy) :
    Backlog where
  starts := .ofLayout (.single policy)
  followers := .empty

/-- All entries: the first requests in order, then the others by sequence. -/
def entries
    (backlog : Backlog) :
    List QueueEntry :=
  backlog.starts.entries ++ backlog.followers.entries.flatMap Prod.snd

/-- The number of entries. -/
def size
    (backlog : Backlog) :
    Nat :=
  backlog.starts.size + (backlog.followers.entries.map (fun pair => pair.2.length)).sum

/-- Queue an entry behind the first request of its sequence, if that one waits. -/
def follow?
    (backlog : Backlog)
    (sequence : CorrelationId)
    (entry : QueueEntry) :
    Option Backlog :=
  (backlog.followers.find? sequence).map (fun followers =>
    { backlog with followers := backlog.followers.insert sequence (followers ++ [entry]) })

/-- Queue the first request of a sequence with nothing behind it, or hand it back. -/
def push
    (backlog : Backlog)
    (sequence : CorrelationId)
    (request : Request)
    (now : Nat) :
    Except Failure Backlog :=
  match backlog.starts.enqueue request now with
  | .ok starts =>
      .ok { starts := starts, followers := backlog.followers.insert sequence [] }
  | .error failure => .error failure

/-- What came behind the first request of a sequence, with the backlog without it. -/
def takeFollowers
    (backlog : Backlog)
    (sequence : CorrelationId) :
    List QueueEntry × Backlog :=
  ((backlog.followers.find? sequence).getD [],
    { backlog with followers := backlog.followers.erase sequence })

/-- The sequences of which some request behind the first has waited too long. -/
def stalled
    (backlog : Backlog)
    (now : Nat) :
    List CorrelationId :=
  (backlog.followers.filter (fun _ entries =>
    entries.any (fun entry => entry.isRejectable now))).keys

end Backlog

/-- A batcher of sequences with a backlog. -/
abbrev BacklogBatcher := SequenceBatcher Backlog

namespace BacklogBatcher

/-- A batcher for a model. -/
def ofConfig
    (config : ModelConfig)
    (now : Nat) :
    BacklogBatcher :=
  SequenceBatcher.ofConfigWith Backlog.empty config now

/-- All waiting entries: those of the backlog and then those pending on slots. -/
def pendingEntries
    (batcher : BacklogBatcher) :
    List QueueEntry :=
  batcher.backlog.entries ++ batcher.instances.flatMap (fun held => held.table.pending)

/-- The number of waiting requests. -/
def pendingCount
    (batcher : BacklogBatcher) :
    Nat :=
  batcher.backlog.size +
    (batcher.instances.map (fun held =>
      (held.table.slots.map (fun slot => slot.pending.length)).sum)).sum

end BacklogBatcher

end InferenceBatching
