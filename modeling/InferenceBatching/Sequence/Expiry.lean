import InferenceBatching.Sequence.Basic

namespace InferenceBatching

/-!
# Timeouts of sequences

One request that waited too long fails its whole lane or everything pending on
its slot, and marks the sequence. A slot with a request in flight stays at its
end until that request is back; any other one is freed at once. A slot whose
sequence has been idle too long is freed as well. A slot that the bookkeeping
refuses to free stays as it is, and the refusal is noted.
-/

/-- A batcher together with the requests failed and the refusals met so far. -/
structure Sweep (Waiting : Type := List Lane) where
  batcher : SequenceBatcher Waiting
  failed : List Failure
  refusals : List SlotFault := []
  deriving Repr, DecidableEq

namespace Lane

/-- Whether any entry of the lane has waited too long. -/
def isExpired
    (lane : Lane)
    (now : Nat) :
    Bool :=
  lane.entries.any (fun entry => entry.isRejectable now)

/--
The failures of an expired lane. A first request that expired by itself is told
so; all others are told that their sequence timed out.
-/
def failures
    (lane : Lane)
    (now : Nat) :
    List Failure :=
  { request := lane.first.request
    error :=
      if lane.first.isRejectable now then
        .timeoutExpired
      else
        .sequenceTimeout lane.sequence } ::
    Failure.all (requestsOf lane.followers) (.sequenceTimeout lane.sequence)

end Lane

namespace SequenceBatcher

/-- Fail the lanes that have expired and mark their sequences. -/
def expireBacklog
    (batcher : SequenceBatcher)
    (now : Nat) :
    Sweep :=
  let expired := batcher.backlog.filter (fun lane => lane.isExpired now)
  { batcher := {
      batcher with
      backlog := batcher.backlog.filter (fun lane => !lane.isExpired now)
      timedOut := expired.foldl (fun marks lane => marks.insert lane.sequence now)
        batcher.timedOut
    }
    failed := expired.flatMap (fun lane => lane.failures now) }

end SequenceBatcher

namespace Slot

/-- Whether any pending entry has waited too long. -/
def isExpired
    (slot : Slot)
    (now : Nat) :
    Bool :=
  slot.pending.any (fun entry => entry.isRejectable now)

/-- Whether the sequence on the slot has been idle for the limit. -/
def isIdle
    (slot : Slot)
    (idleLimit? : Option Nat)
    (now : Nat) :
    Bool :=
  match idleLimit? with
  | none => false
  | some limit =>
      slot.state = .active && slot.isQuiescent && limit ≤ elapsed slot.lastActivity now

end Slot

namespace Sweep

variable {Waiting : Type}

/-- Replace the table of a seat's instance. -/
def withTable
    (sweep : Sweep Waiting)
    (seat : Seat)
    (table : SlotTable) :
    Sweep Waiting :=
  { sweep with batcher := sweep.batcher.withTable seat.instanceIndex table }

/-- Free a slot of a table and unbind its sequence. -/
def freeSeat
    (sweep : Sweep Waiting)
    (seat : Seat)
    (sequence : CorrelationId)
    (table : SlotTable)
    (now : Nat) :
    Sweep Waiting :=
  match table.release seat.slot now with
  | .error fault =>
      { sweep.withTable seat table with refusals := sweep.refusals ++ [fault] }
  | .ok (_, released) =>
      let freed := sweep.batcher.withTable seat.instanceIndex released
      { sweep with batcher := { freed with bindings := freed.bindings.erase sequence } }

/--
Fail what is pending on a slot and mark its sequence. The slot is freed unless it
has to wait for its request in flight.
-/
def expireSeat
    (sweep : Sweep Waiting)
    (seat : Seat)
    (sequence : CorrelationId)
    (table : SlotTable)
    (slot : Slot)
    (now : Nat) :
    Sweep Waiting :=
  let (leftovers, ending) := table.beginTeardown seat.slot
  let failures := Failure.all (requestsOf leftovers) (.sequenceTimeout sequence)
  let marked : Sweep Waiting :=
    { sweep with
      batcher := sweep.batcher.markTimedOut sequence now
      failed := sweep.failed ++ failures }
  if slot.inFlight?.isSome then
    marked.withTable seat ending
  else
    marked.freeSeat seat sequence ending now

/-- Look after the slot at a seat. -/
def sweepSeat
    (now : Nat)
    (sweep : Sweep Waiting)
    (seat : Seat) :
    Sweep Waiting :=
  match sweep.batcher.table? seat.instanceIndex with
  | none => sweep
  | some table =>
      match table.slot? seat.slot with
      | none => sweep
      | some slot =>
          match slot.sequence? with
          | none => sweep
          | some sequence =>
              if slot.isExpired now then
                sweep.expireSeat seat sequence table slot now
              else if slot.isIdle sweep.batcher.idleLimit? now then
                sweep.freeSeat seat sequence table now
              else
                sweep

end Sweep

namespace SequenceBatcher

variable {Waiting : Type}

/-- The seats of an instance in slot order; a halted one has none. -/
def liveSeats
    (instanceIndex : Nat)
    (held : Instance) :
    List Seat :=
  if held.isHalted then
    []
  else
    (List.range held.table.size).map (fun slot =>
      { instanceIndex := instanceIndex, slot := slot })

/-- The seats of all live instances, in the order of instances and slots. -/
def seats
    (batcher : SequenceBatcher Waiting) :
    List Seat :=
  (batcher.instances.mapIdx liveSeats).flatten

/-- Look after every slot of every live instance. -/
def expireSlots
    (sweep : Sweep Waiting)
    (now : Nat) :
    Sweep Waiting :=
  sweep.batcher.seats.foldl (Sweep.sweepSeat now) sweep

/-- Drop old marks and apply all timeouts. -/
def expire
    (batcher : SequenceBatcher)
    (now : Nat) :
    Sweep :=
  expireSlots ((batcher.forgetTimedOut now).expireBacklog now) now

end SequenceBatcher

end InferenceBatching
