import InferenceBatching.Fault
import InferenceBatching.Slot.Basic

namespace InferenceBatching

/-!
# Slot tables

The slots of one instance. The indices of the free ones are kept in ascending
order, so that a sequence gets the lowest free slot without a search. Completing
and releasing check the bookkeeping first and change nothing when it does not
match.
-/

/-- The slots of an instance with the indices of the free ones. -/
structure SlotTable where
  instanceIndex : Nat
  slots : List Slot
  freeSlots : List Nat
  deriving Repr, DecidableEq

namespace SlotTable

/-- A table in which every slot is free. -/
def unused
    (instanceIndex : Nat)
    (count : Nat)
    (now : Nat) :
    SlotTable where
  instanceIndex := instanceIndex
  slots := List.replicate count (Slot.unused now)
  freeSlots := List.range count

/-- The number of slots. -/
def size
    (table : SlotTable) :
    Nat :=
  table.slots.length

/-- The number of free slots. -/
def freeCount
    (table : SlotTable) :
    Nat :=
  table.freeSlots.length

/-- The number of slots in use. -/
def activeCount
    (table : SlotTable) :
    Nat :=
  table.size - table.freeCount

/-- Whether any slot is free. -/
def hasFree
    (table : SlotTable) :
    Bool :=
  !table.freeSlots.isEmpty

/-- The slot at an index. -/
def slot?
    (table : SlotTable)
    (index : Nat) :
    Option Slot :=
  table.slots[index]?

/-- Change the slot at an index, if there is one. -/
def modify
    (table : SlotTable)
    (index : Nat)
    (change : Slot → Slot) :
    SlotTable :=
  { table with slots := table.slots.modify index change }

/-- Put an index at its place among ascending ones, once. -/
def insertIndex
    (index : Nat) :
    List Nat →
    List Nat
  | [] => [index]
  | first :: rest =>
      if index < first then
        index :: first :: rest
      else if first < index then
        first :: insertIndex index rest
      else
        first :: rest

/-- Give the lowest free slot to a sequence. -/
def bind?
    (table : SlotTable)
    (sequence : CorrelationId)
    (now : Nat) :
    Option (Nat × SlotTable) :=
  match table.freeSlots with
  | [] => none
  | index :: rest =>
      some (index,
        { table.modify index (fun slot => slot.bind sequence now) with freeSlots := rest })

/-- Queue an entry on a slot. -/
def push
    (table : SlotTable)
    (index : Nat)
    (entry : QueueEntry)
    (now : Nat) :
    SlotTable :=
  table.modify index (fun slot => slot.push entry now)

/-- Queue several entries on a slot, in order. -/
def pushAll
    (table : SlotTable)
    (index : Nat)
    (entries : List QueueEntry)
    (now : Nat) :
    SlotTable :=
  entries.foldl (fun grown entry => grown.push index entry now) table

/-- Take the head of a slot into flight, if the slot is ready. -/
def dispatch?
    (table : SlotTable)
    (index : Nat)
    (now : Nat) :
    Option (QueueEntry × SlotTable) :=
  match (table.slot? index).bind (fun slot => slot.dispatch? now) with
  | some (entry, slot) => some (entry, { table with slots := table.slots.set index slot })
  | none => none

/-- Free a slot that has nothing in flight; what was pending on it is handed over. -/
def release
    (table : SlotTable)
    (index : Nat)
    (now : Nat) :
    Except SlotFault (List QueueEntry × SlotTable) :=
  match table.slot? index with
  | none => .error (.noSlot index)
  | some slot =>
      if slot.state = .free then
        .error (.releasedTwice index)
      else
        match slot.inFlight? with
        | some request => .error (.releasedInFlight index request)
        | none =>
            .ok (slot.pending,
              { table.modify index (fun held => held.vacate now) with
                freeSlots := insertIndex index table.freeSlots })

/--
Note that a request came back from the backend. A slot at its end is released,
and what was still pending on it is handed over.
-/
def complete
    (table : SlotTable)
    (index : Nat)
    (sequence : CorrelationId)
    (request : RequestId)
    (now : Nat) :
    Except SlotFault (Option (List QueueEntry) × SlotTable) :=
  match table.slot? index with
  | none => .error (.noSlot index)
  | some slot =>
      if slot.sequence? ≠ some sequence then
        .error (.boundToOther index slot.sequence? sequence)
      else if slot.inFlight? ≠ some request then
        .error (.notInFlight index slot.inFlight? request)
      else
        let landed := table.modify index (fun held => held.land now)
        if slot.state = .ending then
          match landed.release index now with
          | .ok (leftovers, released) => .ok (some leftovers, released)
          | .error fault => .error fault
        else
          .ok (none, landed)

/-- Turn a slot in use to its end; it stays taken until its request in flight is back. -/
def beginTeardown
    (table : SlotTable)
    (index : Nat) :
    List QueueEntry × SlotTable :=
  (((table.slot? index).map Slot.tornDown).getD [],
    table.modify index Slot.tearDown)

/-- Turn every slot in use to its end. -/
def tearDownAll
    (table : SlotTable) :
    List QueueEntry × SlotTable :=
  (table.slots.flatMap Slot.tornDown,
    { table with slots := table.slots.map Slot.tearDown })

/-- Remove the pending entries of a slot that pass a test. -/
def removePending?
    (table : SlotTable)
    (index : Nat)
    (test : QueueEntry → Bool) :
    Option (List QueueEntry × SlotTable) :=
  (table.slot? index).map (fun slot =>
    (slot.pending.filter test, table.modify index (fun held => held.without test)))

/-- All entries pending on the slots, in slot order. -/
def pending
    (table : SlotTable) :
    List QueueEntry :=
  table.slots.flatMap Slot.pending

end SlotTable

end InferenceBatching
