import InferenceBatching.Backlog.Basic
import InferenceBatching.Sequence.Expiry

namespace InferenceBatching

/-!
# Timeouts of waiting sequences

Two loops fail the sequences of the backlog. The first takes the first requests that
have waited too long out of their queue; the second looks through the directory for
sequences in which a request behind the first has. Both fail what came behind the
first request and mark the sequence.
-/

namespace BacklogBatcher

/-- Fail what came behind the first request of a sequence, and mark the sequence. -/
def failFollowers
    (sweep : Sweep Backlog)
    (sequence : CorrelationId)
    (now : Nat) :
    Sweep Backlog :=
  let (followers, backlog) := sweep.batcher.backlog.takeFollowers sequence
  { sweep with
    batcher := { sweep.batcher.markTimedOut sequence now with backlog := backlog }
    failed := sweep.failed ++ Failure.all (requestsOf followers) (.sequenceTimeout sequence) }

/-- Fail a sequence whose first request has waited too long and has left the queue. -/
def failExpired
    (now : Nat)
    (sweep : Sweep Backlog)
    (entry : QueueEntry) :
    Sweep Backlog :=
  failFollowers
    { sweep with
      failed := sweep.failed ++ [{ request := entry.request, error := .timeoutExpired }] }
    (entry.request.sequence?.getD 0) now

/-- Fail a sequence in which a request behind the first has waited too long. -/
def failStalled
    (now : Nat)
    (sweep : Sweep Backlog)
    (sequence : CorrelationId) :
    Sweep Backlog :=
  let (removed, starts) := sweep.batcher.backlog.starts.removeWhere (fun entry =>
    entry.request.sequence? = some sequence)
  failFollowers
    { sweep with
      batcher := {
        sweep.batcher with
        backlog := { sweep.batcher.backlog with starts := starts }
      }
      failed := sweep.failed ++ Failure.all (requestsOf removed) (.sequenceTimeout sequence) }
    sequence now

/-- Fail the sequences whose first request has waited too long. -/
def expireStarts
    (batcher : BacklogBatcher)
    (now : Nat) :
    Sweep Backlog :=
  let (expired, starts) := batcher.backlog.starts.takeExpired now
  expired.foldl (failExpired now)
    { batcher := { batcher with backlog := { batcher.backlog with starts := starts } }
      failed := [] }

/-- Apply timeouts to the sequences that wait for a slot. -/
def expireBacklog
    (batcher : BacklogBatcher)
    (now : Nat) :
    Sweep Backlog :=
  let sweep := batcher.expireStarts now
  (sweep.batcher.backlog.stalled now).foldl (failStalled now) sweep

/-- Drop old marks and apply all timeouts. -/
def expire
    (batcher : BacklogBatcher)
    (now : Nat) :
    Sweep Backlog :=
  SequenceBatcher.expireSlots (expireBacklog (batcher.forgetTimedOut now) now) now

end BacklogBatcher

end InferenceBatching
