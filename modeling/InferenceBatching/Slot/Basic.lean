import InferenceBatching.Queue.Entry

namespace InferenceBatching

/-!
# Slots

A slot runs one sequence at a time, one request at a time. It is free, active
from the first request of a sequence on, and ending once the last request has
been dispatched or the sequence is being torn down.
-/

/-- The stage of a slot. -/
inductive SlotState where
  | free
  | active
  | ending
  deriving Repr, DecidableEq

/-- The name of a slot's stage. -/
def SlotState.name :
    SlotState →
    String
  | .free => "Free"
  | .active => "Active"
  | .ending => "Ending"

/-- One execution place of an instance. -/
structure Slot where
  sequence? : Option CorrelationId := none
  state : SlotState := .free
  lastActivity : Nat
  pending : List QueueEntry := []
  inFlight? : Option RequestId := none
  deriving Repr, DecidableEq

namespace Slot

/-- A free slot, last used at the given instant. -/
def unused
    (now : Nat) :
    Slot :=
  { lastActivity := now }

/-- Whether the next request can be dispatched. -/
def isReady
    (slot : Slot) :
    Bool :=
  slot.state = .active && slot.inFlight?.isNone && !slot.pending.isEmpty

/-- Whether nothing is waiting or running on the slot. -/
def isQuiescent
    (slot : Slot) :
    Bool :=
  slot.inFlight?.isNone && slot.pending.isEmpty

/-- Give the slot to a sequence. -/
def bind
    (slot : Slot)
    (sequence : CorrelationId)
    (now : Nat) :
    Slot :=
  { slot with sequence? := some sequence, state := .active, lastActivity := now }

/-- Queue an entry behind those already pending. -/
def push
    (slot : Slot)
    (entry : QueueEntry)
    (now : Nat) :
    Slot :=
  { slot with lastActivity := now, pending := slot.pending ++ [entry] }

/-- Take the head of a ready slot into flight; the last request of a sequence ends it. -/
def dispatch?
    (slot : Slot)
    (now : Nat) :
    Option (QueueEntry × Slot) :=
  if slot.isReady then
    match slot.pending with
    | [] => none
    | entry :: rest =>
        some (entry,
          { slot with
            inFlight? := some entry.request.id
            lastActivity := now
            pending := rest
            state := if entry.request.ends then .ending else slot.state })
  else
    none

/-- Take back the request in flight. -/
def land
    (slot : Slot)
    (now : Nat) :
    Slot :=
  { slot with inFlight? := none, lastActivity := now }

/-- Make the slot free and drop what is pending on it. -/
def vacate
    (slot : Slot)
    (now : Nat) :
    Slot :=
  { slot with sequence? := none, state := .free, lastActivity := now, pending := [] }

/-- Turn a slot in use to its end and drop what is pending on it. -/
def tearDown
    (slot : Slot) :
    Slot :=
  if slot.state = .free then
    slot
  else
    { slot with state := .ending, pending := [] }

/-- The entries that tearing the slot down drops. -/
def tornDown
    (slot : Slot) :
    List QueueEntry :=
  if slot.state = .free then
    []
  else
    slot.pending

/-- The slot without the pending entries that pass a test. -/
def without
    (slot : Slot)
    (test : QueueEntry → Bool) :
    Slot :=
  { slot with pending := slot.pending.filter (fun entry => !test entry) }

/-- Only an active slot with nothing in flight dispatches, and it dispatches its head. -/
theorem dispatch?_eq_some
    {slot after : Slot}
    {now : Nat}
    {entry : QueueEntry}
    (dispatched : slot.dispatch? now = some (entry, after)) :
    slot.isReady = true ∧
      slot.pending = entry :: after.pending ∧
      after.inFlight? = some entry.request.id := by
  unfold dispatch? at dispatched
  split at dispatched
  · next ready =>
      split at dispatched
      · contradiction
      · next head rest isPending =>
          simp only [Option.some.injEq, Prod.mk.injEq] at dispatched
          obtain ⟨isEntry, isAfter⟩ := dispatched
          subst isEntry isAfter
          exact ⟨ready, isPending, rfl⟩
  · contradiction

end Slot

end InferenceBatching
