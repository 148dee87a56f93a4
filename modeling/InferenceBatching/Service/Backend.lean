import InferenceBatching.Batch.Basic
import InferenceBatching.RequestError

namespace InferenceBatching

/-!
# The backend and what its answers mean

A backend answers a batch with one outcome for each request, or fails the whole
batch, or panics. Outcomes go to the requests of the batch by position:
`deliveries` pairs the k-th request with the k-th outcome.
-/

/-- What a backend makes of one request. -/
inductive RowOutcome where
  | outputs (tensors : List NamedTensor)
  | failed (message : String)
  deriving Repr, DecidableEq

/-- What a panicking backend leaves behind. -/
inductive PanicPayload where
  | text (message : String)
  | nonText
  deriving Repr, DecidableEq

/-- The message of a panic. -/
def PanicPayload.message :
    PanicPayload →
    String
  | .text message => message
  | .nonText => "non-string panic payload"

/-- How a backend answers a batch. -/
inductive BackendAnswer where
  | rows (outcomes : List RowOutcome)
  | failed (message : String)
  | panicked (payload : PanicPayload)
  deriving Repr, DecidableEq

/-- What a successful request is answered. -/
structure Response where
  request : RequestId
  outputs : List NamedTensor
  queued : Nat
  computed : Nat
  batchSize : Nat
  deriving Repr, DecidableEq

/-- How a request ends. -/
inductive Outcome where
  | succeeded (response : Response)
  | failed (error : RequestError)
  deriving Repr, DecidableEq

/-- A request with its end. -/
structure Delivery where
  request : Request
  outcome : Outcome
  deriving Repr, DecidableEq

/-- The delivery of a failure. -/
def Failure.toDelivery
    (failure : Failure) :
    Delivery where
  request := failure.request
  outcome := .failed failure.error

/-- The outputs that a request asked for; without any wish it gets all. -/
def selectOutputs
    (outputs : List NamedTensor)
    (requested : List String) :
    List NamedTensor :=
  if requested.isEmpty then
    outputs
  else
    outputs.filter (fun output => requested.contains output.name)

/-- When and how a batch ran. -/
structure BatchRun where
  dispatchedAt : Nat
  computed : Nat
  size : Nat
  deriving Repr, DecidableEq

/-- How a request ends, given the outcome at its position. -/
def BatchRun.outcomeOf
    (run : BatchRun)
    (entry : QueueEntry)
    (row? : Option RowOutcome) :
    Outcome :=
  match row? with
  | some (.outputs tensors) =>
      .succeeded {
        request := entry.request.id
        outputs := selectOutputs tensors entry.request.requestedOutputs
        queued := elapsed entry.enqueuedAt run.dispatchedAt
        computed := run.computed
        batchSize := run.size
      }
  | some (.failed message) => .failed (.backendExecution message)
  | none => .failed (.backendExecution "backend returned no outcome for request")

/-- Pair requests with outcomes by position; surplus outcomes go nowhere. -/
def BatchRun.deliverRows
    (run : BatchRun) :
    List QueueEntry →
    List RowOutcome →
    List Delivery
  | [], _ => []
  | entry :: entries, rows =>
      { request := entry.request, outcome := run.outcomeOf entry rows.head? } ::
        run.deliverRows entries rows.tail

/-- End all requests of a batch that failed as a whole. -/
def failBatch
    (entries : List QueueEntry)
    (message : String) :
    List Delivery :=
  (Failure.all (requestsOf entries) (.backendExecution message)).map Failure.toDelivery

/-- How the requests of a batch end. -/
def BatchRun.deliveries
    (run : BatchRun)
    (entries : List QueueEntry)
    (answer : BackendAnswer) :
    List Delivery :=
  match answer with
  | .rows rows => run.deliverRows entries rows
  | .failed message => failBatch entries message
  | .panicked payload => failBatch entries ("backend panicked: " ++ payload.message)

/-- The answer of a backend that returns the inputs of every request as its outputs. -/
def echo
    (batch : Batch) :
    BackendAnswer :=
  .rows (batch.requests.map (fun request => .outputs request.inputs))

end InferenceBatching
