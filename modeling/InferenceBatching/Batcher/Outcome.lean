import InferenceBatching.Batch.Basic
import InferenceBatching.Fault
import InferenceBatching.RequestError

namespace InferenceBatching

/-!
# Results of batcher operations

Batchers are values, and every operation returns the batcher as it is afterwards
together with what the operation produced.
-/

/-- The answer to a new request: why it was turned away, if it was. -/
structure Answer (State : Type) where
  batcher : State
  rejection? : Option Failure
  deriving Repr, DecidableEq

/-- The outcome of trying to form a batch, and when to try again if nothing else happens. -/
structure Formation (State : Type) where
  batcher : State
  batch? : Option Batch
  failed : List Failure
  wakeAt? : Option Nat
  deriving Repr, DecidableEq

/-- What a report of returned requests comes to. -/
inductive Verdict where
  | settled (failed : List Failure)
  | refused (fault : Fault)
  deriving Repr, DecidableEq

/-- The outcome of reporting a batch back: the requests that fail because of it, or a fault. -/
structure Settlement (State : Type) where
  batcher : State
  verdict : Verdict
  deriving Repr, DecidableEq

/-- The requests handed over when work is called off. -/
structure Handover (State : Type) where
  batcher : State
  requests : List Request
  deriving Repr, DecidableEq

namespace Answer

variable {State Other : Type}

/-- The request was let in. -/
def accepted
    (batcher : State) :
    Answer State where
  batcher := batcher
  rejection? := none

/-- The request was turned away and is handed back. -/
def rejected
    (batcher : State)
    (request : Request)
    (error : RequestError) :
    Answer State where
  batcher := batcher
  rejection? := some { request := request, error := error }

/-- The same answer of a batcher seen as one of another type. -/
def mapState
    (answer : Answer State)
    (view : State → Other) :
    Answer Other where
  batcher := view answer.batcher
  rejection? := answer.rejection?

end Answer

namespace Formation

variable {State Other : Type}

/-- No batch was formed. -/
def idle
    (batcher : State)
    (failed : List Failure)
    (wakeAt? : Option Nat) :
    Formation State where
  batcher := batcher
  batch? := none
  failed := failed
  wakeAt? := wakeAt?

/-- A batch was formed. -/
def formed
    (batcher : State)
    (batch : Batch)
    (failed : List Failure) :
    Formation State where
  batcher := batcher
  batch? := some batch
  failed := failed
  wakeAt? := none

/-- Whether there is anything to do: a batch to run or requests to fail. -/
def hasWork
    (formation : Formation State) :
    Bool :=
  formation.batch?.isSome || !formation.failed.isEmpty

/-- The same outcome of a batcher seen as one of another type. -/
def mapState
    (formation : Formation State)
    (view : State → Other) :
    Formation Other where
  batcher := view formation.batcher
  batch? := formation.batch?
  failed := formation.failed
  wakeAt? := formation.wakeAt?

end Formation

namespace Settlement

variable {State Other : Type}

/-- The same outcome of a batcher seen as one of another type. -/
def mapState
    (settlement : Settlement State)
    (view : State → Other) :
    Settlement Other where
  batcher := view settlement.batcher
  verdict := settlement.verdict

end Settlement

namespace Handover

variable {State Other : Type}

/-- The same handover of a batcher seen as one of another type. -/
def mapState
    (handover : Handover State)
    (view : State → Other) :
    Handover Other where
  batcher := view handover.batcher
  requests := handover.requests

end Handover

end InferenceBatching
