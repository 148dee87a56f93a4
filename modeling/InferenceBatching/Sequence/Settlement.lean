import InferenceBatching.Batcher.Outcome
import InferenceBatching.Sequence.Basic

namespace InferenceBatching

/-!
# Requests that come back, and instances that stop

When the last request of a sequence is back, its slot is freed, and requests
that were queued behind the end fail. A report that does not match the slot
bookkeeping stops there; the reports before it stay settled.
-/

namespace SequenceBatcher

variable {Waiting : Type}

/-- The cause told to requests queued behind the end of their sequence. -/
def leftoverError
    (batcher : SequenceBatcher Waiting)
    (sequence : CorrelationId)
    (now : Nat) :
    RequestError :=
  if batcher.isTimedOut sequence now then
    .sequenceTimeout sequence
  else
    .sequenceNotFound sequence

/-- Check a report against the bindings. -/
def checkSeat
    (batcher : SequenceBatcher Waiting)
    (instanceIndex : Nat)
    (record : DispatchRecord) :
    Except SlotFault (CorrelationId × Nat) :=
  match record.slot?, record.sequence? with
  | some slot, some sequence =>
      let seat? := batcher.seat? sequence
      if seat? = some { instanceIndex := instanceIndex, slot := slot } then
        .ok (sequence, slot)
      else
        .error (.seatedElsewhere sequence slot seat?)
  | _, _ => .error (.reportedWithoutSlot record.request)

/-- Note that one request is back; requests that fail because of it are returned. -/
def settleRecord
    (batcher : SequenceBatcher Waiting)
    (instanceIndex : Nat)
    (record : DispatchRecord)
    (now : Nat) :
    Except SlotFault (SequenceBatcher Waiting × List Failure) :=
  match batcher.table? instanceIndex with
  | none => .error .noTable
  | some table =>
      match batcher.checkSeat instanceIndex record with
      | .error fault => .error fault
      | .ok (sequence, slot) =>
          match table.complete slot sequence record.request now with
          | .error fault => .error fault
          | .ok (none, landed) => .ok (batcher.withTable instanceIndex landed, [])
          | .ok (some leftovers, released) =>
              let freed := batcher.withTable instanceIndex released
              .ok ({ freed with bindings := freed.bindings.erase sequence },
                Failure.all (requestsOf leftovers) (freed.leftoverError sequence now))

/-- Settle reports in order, up to the first that does not match. -/
def settleRecords
    (instanceIndex : Nat)
    (now : Nat) :
    List DispatchRecord →
    SequenceBatcher Waiting →
    List Failure →
    Settlement (SequenceBatcher Waiting)
  | [], batcher, failed => { batcher := batcher, verdict := .settled failed }
  | record :: records, batcher, failed =>
      match batcher.settleRecord instanceIndex record now with
      | .error fault =>
          { batcher := batcher, verdict := .refused (.slotTable instanceIndex fault) }
      | .ok (settled, failures) =>
          settleRecords instanceIndex now records settled (failed ++ failures)

/-- Note that the requests of a batch are back from an instance. -/
def complete
    (batcher : SequenceBatcher Waiting)
    (instanceIndex : Nat)
    (records : List DispatchRecord)
    (now : Nat) :
    Settlement (SequenceBatcher Waiting) :=
  match batcher.table? instanceIndex with
  | none => { batcher := batcher, verdict := .refused (.slotTable instanceIndex .noTable) }
  | some _ => settleRecords instanceIndex now records batcher []

/-- The bindings into an instance, in ascending order of sequences. -/
def bindingsOf
    (batcher : SequenceBatcher Waiting)
    (instanceIndex : Nat) :
    List (CorrelationId × Seat) :=
  batcher.bindings.entries.filter (fun binding =>
    binding.2.instanceIndex = instanceIndex)

/-- Unbind a sequence and turn its slot to its end. -/
def unseat
    (handover : Handover (SequenceBatcher Waiting))
    (binding : CorrelationId × Seat) :
    Handover (SequenceBatcher Waiting) :=
  let unbound :=
    { handover.batcher with bindings := handover.batcher.bindings.erase binding.1 }
  match unbound.table? binding.2.instanceIndex with
  | none => { handover with batcher := unbound }
  | some table =>
      let (dropped, ending) := table.beginTeardown binding.2.slot
      { batcher := unbound.withTable binding.2.instanceIndex ending
        requests := handover.requests ++ requestsOf dropped }

/-- Take an instance out of service and hand over what only it could run. -/
def halt
    (batcher : SequenceBatcher Waiting)
    (instanceIndex : Nat) :
    Handover (SequenceBatcher Waiting) :=
  let halted :=
    { batcher with
      instances := batcher.instances.modify instanceIndex (fun held =>
        { held with isHalted := true }) }
  (batcher.bindingsOf instanceIndex).foldl unseat { batcher := halted, requests := [] }

/-- Hand over everything that waits, and turn every slot in use to its end. -/
def drain
    (batcher : SequenceBatcher) :
    Handover SequenceBatcher where
  batcher := {
    batcher with
    backlog := []
    instances := batcher.instances.map (fun held =>
      { held with table := held.table.tearDownAll.2 })
  }
  requests :=
    requestsOf (batcher.backlog.flatMap Lane.entries ++
      batcher.instances.flatMap (fun held => held.table.tearDownAll.1))

end SequenceBatcher

end InferenceBatching
