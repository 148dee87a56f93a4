import InferenceBatching.Service.Basic

namespace InferenceBatching

/-!
# Steps of the service

Callers and workers interleave in any way between the steps of this module. A
step either changes the batcher, or ends one request, or only moves a worker on;
but a look for work that panics loses all the requests it found expired.
`Service.advance` is the next step of a worker that does not wait for its
backend.
-/

namespace Service

/-- The quoted name of the model. -/
def quotedModel
    (service : Service) :
    String :=
  "model '" ++ service.model ++ "'"

/-- Why a request is of the wrong kind for the model, if it is. -/
def misfit?
    (service : Service)
    (request : Request) :
    Option RequestError :=
  match request.kind, service.batcher.kind with
  | .stateless, .sequence =>
      some (.invalidRequest (service.quotedModel ++ " requires a correlation id"))
  | .sequence id, .dynamic =>
      some (.invalidRequest (service.quotedModel ++
        " does not support sequences (correlation id " ++ toString id ++ ")"))
  | _, _ => none

/-- Turn a request away: its caller is left to end it. -/
def reject
    (service : Service)
    (request : Request)
    (error : RequestError) :
    Service × Option RequestError :=
  ({ service with
      callers := service.callers ++ [{ request := request, error := error }] },
    some error)

/-- Submit a request. The caller is told at once why it is turned away, if it is. -/
def submit
    (service : Service)
    (request : Request)
    (now : Nat) :
    Service × Option RequestError :=
  match service.misfit? request with
  | some error => service.reject request error
  | none =>
      if service.isReady then
        let answer := service.batcher.enqueue request now
        let answered := { service with batcher := answer.batcher }
        match answer.rejection? with
        | none => (answered, none)
        | some failure => answered.reject failure.request failure.error
      else
        service.reject request (.unavailable (service.quotedModel ++ " is not ready"))

/-- A caller ends the request at a position among those that callers were left with. -/
def finishCaller
    (service : Service)
    (position : Nat) :
    Service :=
  match service.callers[position]? with
  | none => service
  | some failure =>
      { service with callers := service.callers.eraseIdx position }.finish failure.toDelivery

/--
A worker looks for work for its instance, or stops when the service has shut
down. It panics over a batch too large to make room for, and loses the requests
that it found expired.
-/
def look
    (service : Service)
    (instanceIndex : Nat)
    (now : Nat) :
    Service :=
  if service.isShutDown then
    service.withActivity instanceIndex .stopped
  else
    match service.batcher.overreach? now with
    | some lost =>
        ({ service with batcher := lost.batcher }.lose lost.requests).withActivity instanceIndex
          (.faulted (.workerPanic instanceIndex "capacity overflow"))
    | none =>
        let formation := service.batcher.formBatch instanceIndex now
        { service with batcher := formation.batcher }.withActivity instanceIndex
          (if formation.hasWork then
            .failing formation.failed formation.batch?
          else
            .waiting formation.wakeAt?)

/-- The backend of an instance answers; the batch is counted. -/
def answer
    (service : Service)
    (instanceIndex : Nat)
    (answer : BackendAnswer)
    (now : Nat) :
    Service :=
  match service.activity instanceIndex with
  | .executing batch since =>
      let computed := elapsed since now
      { service with
        statistics := service.statistics.countBatch batch.requestCount computed
      }.withActivity instanceIndex (.returned batch answer computed)
  | _ => service

/-- The fault that a backend's answer means for the instance. -/
def faultOf?
    (instanceIndex : Nat) :
    BackendAnswer →
    Option Fault
  | .panicked payload => some (.backendPanic instanceIndex payload.message)
  | _ => none

/-- A worker reports its batch to the batcher and gets ready to deliver. -/
def report
    (service : Service)
    (instanceIndex : Nat)
    (batch : Batch)
    (answer : BackendAnswer)
    (computed : Nat)
    (now : Nat) :
    Service :=
  let settlement := service.batcher.complete instanceIndex batch.records now
  let run : BatchRun :=
    { dispatchedAt := batch.formedAt, computed := computed, size := batch.requestCount }
  let deliveries := run.deliveries batch.queueEntries answer
  { service with batcher := settlement.batcher }.withActivity instanceIndex
    (match settlement.verdict with
    | .settled failures =>
        .delivering (deliveries ++ failures.map Failure.toDelivery)
          (faultOf? instanceIndex answer)
    | .refused fault => .delivering deliveries (some fault))

/-- Mark the worker of an instance as out of service. -/
def markHalted
    (service : Service)
    (instanceIndex : Nat) :
    Service :=
  { service with
    workers := service.workers.modify instanceIndex (fun worker =>
      { worker with isHalted := true }) }

/-- What requests are told that an instance leaves behind. -/
def haltError
    (service : Service)
    (instanceIndex : Nat)
    (fault : Fault) :
    RequestError :=
  .unavailable ("instance " ++ toString instanceIndex ++ " of " ++ service.quotedModel ++
    " halted: " ++ fault.message)

/-- A worker takes its instance out of service; the last one takes all that waits along. -/
def haltInstance
    (service : Service)
    (instanceIndex : Nat)
    (fault : Fault) :
    Service :=
  let halted := service.markHalted instanceIndex
  let orphaned := halted.batcher.halt instanceIndex
  let handover : Handover Batcher :=
    if halted.liveCount = 0 then
      let drained := orphaned.batcher.drain
      { drained with requests := orphaned.requests ++ drained.requests }
    else
      orphaned
  { halted with batcher := handover.batcher }.withActivity instanceIndex
    (.abandoning (Failure.all handover.requests (service.haltError instanceIndex fault)))

/-- The next step of a worker that does not wait for its backend. -/
def advance
    (service : Service)
    (instanceIndex : Nat)
    (now : Nat) :
    Service :=
  match service.activity instanceIndex with
  | .waiting _ => service.look instanceIndex now
  | .failing (failure :: rest) batch? =>
      (service.finish failure.toDelivery).withActivity instanceIndex (.failing rest batch?)
  | .failing [] (some batch) => service.withActivity instanceIndex (.executing batch now)
  | .failing [] none => service.withActivity instanceIndex (.waiting none)
  | .executing _ _ => service
  | .returned batch answer computed => service.report instanceIndex batch answer computed now
  | .delivering (delivery :: rest) fault? =>
      (service.finish delivery).withActivity instanceIndex (.delivering rest fault?)
  | .delivering [] (some fault) => service.withActivity instanceIndex (.faulted fault)
  | .delivering [] none => service.withActivity instanceIndex (.waiting none)
  | .faulted fault => service.haltInstance instanceIndex fault
  | .abandoning (failure :: rest) =>
      (service.finish failure.toDelivery).withActivity instanceIndex (.abandoning rest)
  | .abandoning [] => service.withActivity instanceIndex .stopped
  | .stopped => service

/-- Shut the service down: callers are left to end everything that waits. -/
def shutDown
    (service : Service) :
    Service :=
  if service.isShutDown then
    service
  else
    let handover := service.batcher.drain
    let error := RequestError.unavailable (service.quotedModel ++ " is shutting down")
    { service with
      isShutDown := true
      batcher := handover.batcher
      callers := service.callers ++ Failure.all handover.requests error }

end Service

end InferenceBatching
