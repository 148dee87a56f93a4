import InferenceBatching.Model.Config
import InferenceBatching.Queue.Entry

namespace InferenceBatching

/-!
# Batches

A batch is what the backend executes at once. A dynamic batch has one entry for
each request. A sequence batch has one entry for each slot of its instance, in
slot order, and the entries of slots without a request are padding.
`Batch.queueEntries` is the one order in which requests, ids and records are
listed.
-/

/-- One position of a batch. -/
inductive BatchEntry where
  | single (entry : QueueEntry)
  | seated (slot : Nat) (entry : QueueEntry)
  | padding (slot : Nat) (sequence? : Option CorrelationId)
  deriving Repr, DecidableEq

/-- What the backend is told about a slot. -/
structure SlotControl where
  start : Bool := false
  ending : Bool := false
  ready : Bool := false
  sequence? : Option CorrelationId := none
  deriving Repr, DecidableEq

namespace BatchEntry

/-- The slot of an entry. -/
def slot? :
    BatchEntry →
    Option Nat
  | .single _ => none
  | .seated slot _ => some slot
  | .padding slot _ => some slot

/-- The waiting request that an entry carries. -/
def queued? :
    BatchEntry →
    Option QueueEntry
  | .single entry => some entry
  | .seated _ entry => some entry
  | .padding _ _ => none

/-- The request that an entry carries. -/
def request?
    (entry : BatchEntry) :
    Option Request :=
  entry.queued?.map QueueEntry.request

/-- Whether an entry carries no request. -/
def isPadding
    (entry : BatchEntry) :
    Bool :=
  entry.queued?.isNone

/-- The control values of a slot's entry. -/
def control? :
    BatchEntry →
    Option SlotControl
  | .single _ => none
  | .seated _ entry =>
      some {
        start := entry.request.starts
        ending := entry.request.ends
        ready := true
        sequence? := entry.request.sequence?
      }
  | .padding _ sequence? => some { sequence? := sequence? }

end BatchEntry

/-- Which grouping a batch comes from; slots come with names for their control values. -/
inductive BatchForm where
  | dynamic
  | sequence (names : ControlNames)
  deriving Repr, DecidableEq

/-- Requests that are executed together. -/
structure Batch where
  form : BatchForm
  instanceIndex : Nat
  formedAt : Nat
  entries : List BatchEntry
  deriving Repr, DecidableEq

/-- What is remembered of a dispatched request until it comes back. -/
structure DispatchRecord where
  request : RequestId
  slot? : Option Nat
  sequence? : Option CorrelationId
  ends : Bool
  deriving Repr, DecidableEq

/-- The two groupings. -/
inductive BatchKind where
  | dynamic
  | sequence
  deriving Repr, DecidableEq

/-- The name of a grouping. -/
def BatchKind.name :
    BatchKind →
    String
  | .dynamic => "Dynamic"
  | .sequence => "Sequence"

namespace Batch

/-- A batch of independent requests. -/
def ofEntries
    (instanceIndex : Nat)
    (entries : List QueueEntry)
    (now : Nat) :
    Batch where
  form := .dynamic
  instanceIndex := instanceIndex
  formedAt := now
  entries := entries.map BatchEntry.single

/-- The grouping a batch comes from. -/
def kind
    (batch : Batch) :
    BatchKind :=
  match batch.form with
  | .dynamic => .dynamic
  | .sequence _ => .sequence

/-- The number of entries, padding included. -/
def size
    (batch : Batch) :
    Nat :=
  batch.entries.length

/-- The waiting requests of a batch in entry order, padding left out. -/
def queueEntries
    (batch : Batch) :
    List QueueEntry :=
  batch.entries.filterMap BatchEntry.queued?

/-- The requests of a batch in entry order. -/
def requests
    (batch : Batch) :
    List Request :=
  batch.entries.filterMap BatchEntry.request?

/-- The number of requests. -/
def requestCount
    (batch : Batch) :
    Nat :=
  (batch.entries.filter (fun entry => !entry.isPadding)).length

/-- The ids of the requests in entry order. -/
def requestIds
    (batch : Batch) :
    List RequestId :=
  batch.requests.map Request.id

/-- The dispatch record of an entry that carries a request. -/
def recordOf?
    (entry : BatchEntry) :
    Option DispatchRecord :=
  entry.request?.map (fun request =>
    { request := request.id
      slot? := entry.slot?
      sequence? := request.sequence?
      ends := request.ends })

/-- What to remember of the requests, in entry order. -/
def records
    (batch : Batch) :
    List DispatchRecord :=
  batch.entries.filterMap recordOf?

/-- The names of the control values. -/
def controlNames?
    (batch : Batch) :
    Option ControlNames :=
  match batch.form with
  | .dynamic => none
  | .sequence names => some names

end Batch

end InferenceBatching
