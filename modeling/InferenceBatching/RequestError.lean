import InferenceBatching.Request

namespace InferenceBatching

/-!
# Why a request fails

Every failed request carries one of these causes. A cause has a fixed code, by
which failures are counted, and a message for the client.
-/

/-- The cause of a request's failure. -/
inductive RequestError where
  | queueFull
  | timeoutExpired
  | sequenceNotFound (sequence : CorrelationId)
  | noAvailableSlot
  | sequenceTimeout (sequence : CorrelationId)
  | backendExecution (message : String)
  | invalidRequest (reason : String)
  | unavailable (reason : String)
  deriving Repr, DecidableEq

namespace RequestError

/-- The code under which a failure is counted. -/
def code :
    RequestError →
    String
  | .queueFull => "QUEUE_FULL"
  | .timeoutExpired => "TIMEOUT_EXPIRED"
  | .sequenceNotFound _ => "SEQUENCE_NOT_FOUND"
  | .noAvailableSlot => "NO_AVAILABLE_SLOT"
  | .sequenceTimeout _ => "SEQUENCE_TIMEOUT"
  | .backendExecution _ => "BACKEND_EXECUTION_ERROR"
  | .invalidRequest _ => "INVALID_REQUEST"
  | .unavailable _ => "UNAVAILABLE"

/-- The text that the client is given. -/
def message :
    RequestError →
    String
  | .queueFull => "queue is full"
  | .timeoutExpired => "request timeout expired"
  | .sequenceNotFound sequence => "sequence " ++ toString sequence ++ " not found"
  | .noAvailableSlot => "no available sequence slot"
  | .sequenceTimeout sequence => "sequence " ++ toString sequence ++ " timed out"
  | .backendExecution message => "backend execution error: " ++ message
  | .invalidRequest reason => "invalid request: " ++ reason
  | .unavailable reason => "unavailable: " ++ reason

/-- Whether the cause is one for which a request is turned away on arrival. -/
def turnsAway :
    RequestError →
    Bool
  | .queueFull => true
  | .sequenceNotFound _ => true
  | .noAvailableSlot => true
  | _ => false

end RequestError

/-- A request together with the reason it failed. -/
structure Failure where
  request : Request
  error : RequestError
  deriving Repr, DecidableEq

namespace Failure

/-- Fail several requests for one reason. -/
def all
    (requests : List Request)
    (error : RequestError) :
    List Failure :=
  requests.map (fun request => { request := request, error := error })

end Failure

end InferenceBatching
