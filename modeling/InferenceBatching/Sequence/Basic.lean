import InferenceBatching.Model.Config
import InferenceBatching.Slot.Table

namespace InferenceBatching

/-!
# The sequence batcher

A sequence is bound to one slot of one instance from its first request until its
last one is back. A sequence for which no slot is free waits in the backlog. A
sequence that ran into a timeout stays marked for a while, so that its late
requests are told why they fail.

How the backlog is kept is a parameter. A batcher that runs keeps a queue and a
directory side by side. Reasoning about runs is easier with lanes, where the first
request of a sequence is kept together with those behind it, and what is shown of
lanes holds of the two places because they stand for lanes.
-/

/-- A sequence that waits for a slot: its first request and those behind it. -/
structure Lane where
  sequence : CorrelationId
  first : QueueEntry
  followers : List QueueEntry := []
  deriving Repr, DecidableEq

/-- All entries of a lane in order. -/
def Lane.entries
    (lane : Lane) :
    List QueueEntry :=
  lane.first :: lane.followers

/-- An instance with its slots. -/
structure Instance where
  table : SlotTable
  isHalted : Bool := false
  deriving Repr, DecidableEq

/--
Binds sequences to slots and forms one batch entry for each slot. The sequences that
wait for a slot are a list of lanes, unless another way to keep them is named.
-/
structure SequenceBatcher (Waiting : Type := List Lane) where
  instances : List Instance
  bindings : Directory CorrelationId Seat
  backlog : Waiting
  timedOut : Directory CorrelationId Nat
  timedOutRetention : Nat
  inputs : List InputSpec
  policy : QueuePolicy
  blocking : Bool
  idleLimit? : Option Nat
  controlNames : ControlNames
  deriving Repr, DecidableEq

namespace SequenceBatcher

variable {Waiting Other : Type}

/--
A batcher for a model, given how it keeps the sequences that wait under its policy.
Without a description of the grouping, the standard one holds.
-/
def ofConfigWith
    (noneWaiting : QueuePolicy → Waiting)
    (config : ModelConfig)
    (now : Nat) :
    SequenceBatcher Waiting :=
  let batching := config.sequenceBatching?.getD .standard
  { instances :=
      (List.range (max config.instanceCount 1)).map (fun index =>
        { table := .unused index (max batching.maxSequences 1) now })
    bindings := .empty
    backlog := noneWaiting batching.policy
    timedOut := .empty
    timedOutRetention := batching.timedOutRetention
    inputs := config.inputs
    policy := batching.policy
    blocking := batching.blocking
    idleLimit? := if 0 < batching.maxIdle then some batching.maxIdle else none
    controlNames := batching.controlNames }

/-- A batcher for a model that keeps waiting sequences as lanes. -/
def ofConfig
    (config : ModelConfig)
    (now : Nat) :
    SequenceBatcher :=
  ofConfigWith (fun _ => []) config now

/-- The batcher with the sequences that wait kept in another way. -/
def withBacklog
    (batcher : SequenceBatcher Waiting)
    (backlog : Other) :
    SequenceBatcher Other :=
  { batcher with backlog := backlog }

/-- The instance at an index, unless it is halted. -/
def live?
    (batcher : SequenceBatcher Waiting)
    (instanceIndex : Nat) :
    Option Instance :=
  batcher.instances[instanceIndex]?.filter (fun held => !held.isHalted)

/-- The slot table of an instance. -/
def table?
    (batcher : SequenceBatcher Waiting)
    (instanceIndex : Nat) :
    Option SlotTable :=
  batcher.instances[instanceIndex]?.map Instance.table

/-- The batcher with the slot table of an instance replaced. -/
def withTable
    (batcher : SequenceBatcher Waiting)
    (instanceIndex : Nat)
    (table : SlotTable) :
    SequenceBatcher Waiting :=
  { batcher with
    instances := batcher.instances.modify instanceIndex (fun held =>
      { held with table := table }) }

/-- The seat to which a sequence is bound. -/
def seat?
    (batcher : SequenceBatcher Waiting)
    (sequence : CorrelationId) :
    Option Seat :=
  batcher.bindings.find? sequence

/-- The slot at a seat. -/
def slotAt?
    (batcher : SequenceBatcher Waiting)
    (seat : Seat) :
    Option Slot :=
  (batcher.table? seat.instanceIndex).bind (fun table => table.slot? seat.slot)

/-- The lane in which a sequence waits. -/
def lane?
    (batcher : SequenceBatcher)
    (sequence : CorrelationId) :
    Option Lane :=
  batcher.backlog.find? (fun lane => lane.sequence = sequence)

/-- Whether a sequence ran into a timeout less than the retention time ago. -/
def isTimedOut
    (batcher : SequenceBatcher Waiting)
    (sequence : CorrelationId)
    (now : Nat) :
    Bool :=
  match batcher.timedOut.find? sequence with
  | some instant => elapsed instant now < batcher.timedOutRetention
  | none => false

/-- Mark a sequence as timed out. -/
def markTimedOut
    (batcher : SequenceBatcher Waiting)
    (sequence : CorrelationId)
    (now : Nat) :
    SequenceBatcher Waiting :=
  { batcher with timedOut := batcher.timedOut.insert sequence now }

/-- Drop the marks older than the retention time. -/
def forgetTimedOut
    (batcher : SequenceBatcher Waiting)
    (now : Nat) :
    SequenceBatcher Waiting :=
  { batcher with
    timedOut := batcher.timedOut.filter (fun _ instant =>
      elapsed instant now < batcher.timedOutRetention) }

/-- All waiting entries: those of the backlog and then those pending on slots. -/
def pendingEntries
    (batcher : SequenceBatcher) :
    List QueueEntry :=
  batcher.backlog.flatMap Lane.entries ++
    batcher.instances.flatMap (fun held => held.table.pending)

/-- The number of waiting requests. -/
def pendingCount
    (batcher : SequenceBatcher) :
    Nat :=
  batcher.pendingEntries.length

end SequenceBatcher

end InferenceBatching
