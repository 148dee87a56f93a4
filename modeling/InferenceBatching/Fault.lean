import InferenceBatching.Request
import InferenceBatching.Text.Value

namespace InferenceBatching

/-!
# Faults

A fault concerns the service and not a single request: a configuration that
contradicts itself, slot bookkeeping that does not match what was dispatched, or
a panic. All but the first take an instance out of service.
-/

/-- The place of a sequence: a slot of an instance. -/
structure Seat where
  instanceIndex : Nat
  slot : Nat
  deriving Repr, DecidableEq

/-- The text of a seat in messages. -/
def Seat.text
    (seat : Seat) :
    String :=
  "(" ++ toString seat.instanceIndex ++ ", " ++ toString seat.slot ++ ")"

/-- What does not match in the slot bookkeeping of an instance. -/
inductive SlotFault where
  | noTable
  | noSlot (slot : Nat)
  | boundToOther (slot : Nat) (bound? : Option CorrelationId) (reported : CorrelationId)
  | notInFlight (slot : Nat) (inFlight? : Option RequestId) (reported : RequestId)
  | releasedTwice (slot : Nat)
  | releasedInFlight (slot : Nat) (inFlight : RequestId)
  | reportedWithoutSlot (reported : RequestId)
  | seatedElsewhere (sequence : CorrelationId) (slot : Nat) (seat? : Option Seat)
  | other (detail : String)
  deriving Repr, DecidableEq

/-- The details of a slot fault. -/
def SlotFault.message :
    SlotFault →
    String
  | .noTable => "no slot table for instance"
  | .noSlot slot => "slot " ++ toString slot ++ " does not exist"
  | .boundToOther slot bound? reported =>
      "slot " ++ toString slot ++ " bound to " ++ Text.ofOption (bound?.map toString) ++
        ", completion for sequence " ++ toString reported
  | .notInFlight slot inFlight? reported =>
      "slot " ++ toString slot ++ " has " ++ Text.ofOption (inFlight?.map toString) ++
        " in flight, completion for request " ++ toString reported
  | .releasedTwice slot => "slot " ++ toString slot ++ " released twice"
  | .releasedInFlight slot inFlight =>
      "slot " ++ toString slot ++ " released with request " ++ toString inFlight ++
        " in flight"
  | .reportedWithoutSlot reported =>
      "request " ++ toString reported ++ " completed without a slot"
  | .seatedElsewhere sequence slot seat? =>
      "sequence " ++ toString sequence ++ " completed on slot " ++ toString slot ++
        " but is bound to " ++ Text.ofOption (seat?.map Seat.text)
  | .other detail => detail

/-- A failure of the service itself. -/
inductive Fault where
  | configuration (detail : String)
  | slotTable (instanceIndex : Nat) (detail : SlotFault)
  | backendPanic (instanceIndex : Nat) (message : String)
  | workerPanic (instanceIndex : Nat) (message : String)
  deriving Repr, DecidableEq

/-- The text of a fault. -/
def Fault.message :
    Fault →
    String
  | .configuration detail => "configuration error: " ++ detail
  | .slotTable instanceIndex detail =>
      "corrupted slot table on instance " ++ toString instanceIndex ++ ": " ++ detail.message
  | .backendPanic instanceIndex message =>
      "backend panicked on instance " ++ toString instanceIndex ++ ": " ++ message
  | .workerPanic instanceIndex message =>
      "worker panicked on instance " ++ toString instanceIndex ++ ": " ++ message

end InferenceBatching
