import InferenceBatching.Batcher.Outcome
import InferenceBatching.Sequence.Basic

namespace InferenceBatching

/-!
# Letting requests into sequences

A request joins the lane or the slot of its sequence. The first request of a
sequence takes a free slot or opens a lane, or is turned away when it must not
wait. A first request that passes the input check clears the timeout mark of its
sequence, also when it is turned away after that.
-/

namespace SequenceBatcher

variable {Waiting : Type}

/-- A request let in under the batcher's policy. -/
def entryFor
    (batcher : SequenceBatcher Waiting)
    (request : Request)
    (now : Nat) :
    QueueEntry :=
  .enter request batcher.policy now

/-- Queue an entry behind the others of a waiting sequence. -/
def follow
    (batcher : SequenceBatcher)
    (sequence : CorrelationId)
    (entry : QueueEntry) :
    SequenceBatcher :=
  { batcher with
    backlog := batcher.backlog.map (fun lane =>
      if lane.sequence = sequence then
        { lane with followers := lane.followers ++ [entry] }
      else
        lane) }

/-- Queue an entry on the slot at a seat. -/
def pushAt
    (batcher : SequenceBatcher Waiting)
    (seat : Seat)
    (entry : QueueEntry)
    (now : Nat) :
    SequenceBatcher Waiting :=
  match batcher.table? seat.instanceIndex with
  | none => batcher
  | some table => batcher.withTable seat.instanceIndex (table.push seat.slot entry now)

/-- Open a lane for a new sequence, if the backlog has room for it. -/
def openLane
    (batcher : SequenceBatcher)
    (sequence : CorrelationId)
    (request : Request)
    (now : Nat) :
    Answer SequenceBatcher :=
  if batcher.policy.hasRoom batcher.backlog.length then
    .accepted {
      batcher with
      backlog := batcher.backlog ++
        [{ sequence := sequence, first := batcher.entryFor request now }]
    }
  else
    .rejected batcher request (if batcher.blocking then .queueFull else .noAvailableSlot)

/-- The first live instance with a free slot, with the slot and its table after binding. -/
def findFree?
    (sequence : CorrelationId)
    (now : Nat) :
    Nat →
    List Instance →
    Option (Seat × SlotTable)
  | _, [] => none
  | index, held :: rest =>
      match if held.isHalted then none else held.table.bind? sequence now with
      | some (slot, table) => some ({ instanceIndex := index, slot := slot }, table)
      | none => findFree? sequence now (index + 1) rest

/-- Bind a new sequence to the lowest free slot of the first live instance that has one. -/
def bindFree?
    (batcher : SequenceBatcher Waiting)
    (sequence : CorrelationId)
    (now : Nat) :
    Option (Seat × SequenceBatcher Waiting) :=
  match findFree? sequence now 0 batcher.instances with
  | none => none
  | some (seat, table) =>
      let bound := batcher.withTable seat.instanceIndex table
      some (seat, { bound with bindings := bound.bindings.insert sequence seat })

/-- Start a sequence that is neither waiting nor bound. -/
def startSequence
    (batcher : SequenceBatcher)
    (sequence : CorrelationId)
    (request : Request)
    (now : Nat) :
    Answer SequenceBatcher :=
  match batcher.bindFree? sequence now with
  | some (seat, bound) => .accepted (bound.pushAt seat (batcher.entryFor request now) now)
  | none =>
      if batcher.blocking then
        batcher.openLane sequence request now
      else
        .rejected batcher request .noAvailableSlot

/-- Whether the slot at a seat takes further requests of its sequence. -/
def isActive
    (batcher : SequenceBatcher Waiting)
    (seat : Seat) :
    Bool :=
  match batcher.slotAt? seat with
  | some slot => slot.state = .active
  | none => false

/-- Let a checked request into its sequence. -/
def join
    (batcher : SequenceBatcher)
    (sequence : CorrelationId)
    (request : Request)
    (now : Nat) :
    Answer SequenceBatcher :=
  if (batcher.lane? sequence).isSome then
    .accepted (batcher.follow sequence (batcher.entryFor request now))
  else
    match batcher.seat? sequence with
    | some seat =>
        if batcher.isActive seat then
          .accepted (batcher.pushAt seat (batcher.entryFor request now) now)
        else if request.starts then
          batcher.openLane sequence request now
        else
          .rejected batcher request (.sequenceNotFound sequence)
    | none =>
        if request.starts then
          batcher.startSequence sequence request now
        else
          .rejected batcher request (.sequenceNotFound sequence)

/-- Let a request in, or turn it away. -/
def enqueue
    (batcher : SequenceBatcher)
    (request : Request)
    (now : Nat) :
    Answer SequenceBatcher :=
  match request.sequence? with
  | none =>
      .rejected batcher request (.invalidRequest "sequence model requires a correlation id")
  | some sequence =>
      if !request.starts && batcher.isTimedOut sequence now then
        .rejected batcher request (.sequenceTimeout sequence)
      else
        match inputMismatch? batcher.inputs request with
        | some mismatch => .rejected batcher request (.invalidRequest mismatch.message)
        | none =>
            if request.starts then
              { batcher with timedOut := batcher.timedOut.erase sequence }.join
                sequence request now
            else
              batcher.join sequence request now

end SequenceBatcher

end InferenceBatching
