import InferenceBatching.Backlog.Basic
import InferenceBatching.Sequence.Admission

namespace InferenceBatching

/-!
# Letting requests into a batcher with a backlog

A request goes behind the first request of its sequence while that one waits, or to
the slot of its sequence. The first request of a sequence takes a free slot or goes
to the backlog, or is turned away when it must not wait.
-/

namespace BacklogBatcher

/-- Let the first request of a sequence wait for a slot, if there is room for it. -/
def pushBacklog
    (batcher : BacklogBatcher)
    (sequence : CorrelationId)
    (request : Request)
    (now : Nat) :
    Answer BacklogBatcher :=
  match batcher.backlog.push sequence request now with
  | .ok backlog => .accepted { batcher with backlog := backlog }
  | .error failure =>
      .rejected batcher failure.request
        (if batcher.blocking then failure.error else .noAvailableSlot)

/-- Start a sequence that is neither waiting nor bound. -/
def startSequence
    (batcher : BacklogBatcher)
    (sequence : CorrelationId)
    (request : Request)
    (now : Nat) :
    Answer BacklogBatcher :=
  match batcher.bindFree? sequence now with
  | some (seat, bound) => .accepted (bound.pushAt seat (batcher.entryFor request now) now)
  | none =>
      if batcher.blocking then
        batcher.pushBacklog sequence request now
      else
        .rejected batcher request .noAvailableSlot

/-- Let a checked request into its sequence. -/
def join
    (batcher : BacklogBatcher)
    (sequence : CorrelationId)
    (request : Request)
    (now : Nat) :
    Answer BacklogBatcher :=
  match batcher.backlog.follow? sequence (batcher.entryFor request now) with
  | some backlog => .accepted { batcher with backlog := backlog }
  | none =>
      match batcher.seat? sequence with
      | some seat =>
          if batcher.isActive seat then
            .accepted (batcher.pushAt seat (batcher.entryFor request now) now)
          else if request.starts then
            batcher.pushBacklog sequence request now
          else
            .rejected batcher request (.sequenceNotFound sequence)
      | none =>
          if request.starts then
            batcher.startSequence sequence request now
          else
            .rejected batcher request (.sequenceNotFound sequence)

/-- Let a request in, or turn it away. -/
def enqueue
    (batcher : BacklogBatcher)
    (request : Request)
    (now : Nat) :
    Answer BacklogBatcher :=
  match request.sequence? with
  | none =>
      .rejected batcher request (.invalidRequest "sequence model requires a correlation id")
  | some sequence =>
      if !request.starts && batcher.isTimedOut sequence now then
        .rejected batcher request (.sequenceTimeout sequence)
      else
        match inputMismatch? batcher.inputs request with
        | some mismatch => .rejected batcher request (.invalidRequest mismatch.message)
        | none =>
            if request.starts then
              join { batcher with timedOut := batcher.timedOut.erase sequence }
                sequence request now
            else
              batcher.join sequence request now

end BacklogBatcher

end InferenceBatching
