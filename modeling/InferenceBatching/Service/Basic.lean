import InferenceBatching.Batcher.Basic
import InferenceBatching.Service.Completion
import InferenceBatching.Service.Statistics
import InferenceBatching.Text.Quoted

namespace InferenceBatching

/-!
# The service of a model

A service has a batcher, one worker for each instance, and the requests that
somebody still has to end: callers whose request was turned away, and workers
with failures or results to deliver. Every request that was submitted and has not
ended is in exactly one of these places. A request that ends takes its completion
along, which is fired or dropped then.
-/

/-- What the worker of an instance is doing. -/
inductive Activity where
  | waiting (wakeAt? : Option Nat)
  | failing (failures : List Failure) (batch? : Option Batch)
  | executing (batch : Batch) (since : Nat)
  | returned (batch : Batch) (answer : BackendAnswer) (computed : Nat)
  | delivering (deliveries : List Delivery) (fault? : Option Fault)
  | faulted (fault : Fault)
  | abandoning (failures : List Failure)
  | stopped
  deriving Repr, DecidableEq

/-- The worker of an instance. -/
structure Worker where
  activity : Activity := .waiting none
  isHalted : Bool := false
  deriving Repr, DecidableEq

/-- A running model. -/
structure Service where
  model : String
  batcher : Batcher
  isShutDown : Bool := false
  workers : List Worker
  callers : List Failure := []
  statistics : Statistics := {}
  ended : List Delivery := []
  completions : List Completion := []
  deriving Repr, DecidableEq

namespace Service

/-- Start the service of a valid configuration. -/
def start
    (config : ModelConfig)
    (now : Nat)
    (entryBytes : Nat := DynamicBatcher.usualEntryBytes) :
    Except Fault Service :=
  match config.validate with
  | .error fault => .error fault
  | .ok () =>
      .ok {
        model := config.name
        batcher := .ofConfig config now entryBytes
        workers := List.replicate config.instanceCount {}
      }

/-- The number of instances in service. -/
def liveCount
    (service : Service) :
    Nat :=
  (service.workers.filter (fun worker => !worker.isHalted)).length

/-- The description of a service. -/
def describe
    (service : Service) :
    String :=
  "ModelScheduler \x7b model: " ++ Text.quoted service.model ++ ", instances: " ++
    toString service.workers.length ++ " \x7d"

/-- Whether requests are taken. -/
def isReady
    (service : Service) :
    Bool :=
  !service.isShutDown && 0 < service.liveCount

/-- The number of requests that wait for a batch. -/
def pendingCount
    (service : Service) :
    Nat :=
  service.batcher.pendingCount

/-- What the worker of an instance is doing; one that does not exist has stopped. -/
def activity
    (service : Service)
    (instanceIndex : Nat) :
    Activity :=
  match service.workers[instanceIndex]? with
  | some worker => worker.activity
  | none => .stopped

/-- Set what the worker of an instance is doing. -/
def withActivity
    (service : Service)
    (instanceIndex : Nat)
    (activity : Activity) :
    Service :=
  { service with
    workers := service.workers.modify instanceIndex (fun worker =>
      { worker with activity := activity }) }

/-- Count the end of a request. -/
def countEnd
    (statistics : Statistics)
    (outcome : Outcome) :
    Statistics :=
  match outcome with
  | .succeeded response => statistics.countSuccess response.queued
  | .failed error => statistics.countFailure error

/-- Make a completion for a request, which carries it from then on. -/
def equip
    (service : Service)
    (request : Request)
    (sink : CompletionSink) :
    Service × Request :=
  ({ service with completions := service.completions ++ [.new sink] },
    { request with completion := service.completions.length })

/-- Lose requests: their completions are dropped, and nothing is counted. -/
def lose
    (service : Service)
    (requests : List Request) :
    Service :=
  { service with
    ended := service.ended ++
      (Failure.all requests Completion.droppedError).map Failure.toDelivery
    completions := requests.foldl
      (fun completions request => completions.modify request.completion Completion.drop)
      service.completions }

/-- End a request: count it and fire its completion with the outcome. -/
def finish
    (service : Service)
    (delivery : Delivery) :
    Service :=
  { service with
    statistics := countEnd service.statistics delivery.outcome
    ended := service.ended ++ [delivery]
    completions := service.completions.modify delivery.request.completion
      (fun completion => completion.complete delivery.outcome) }

end Service

end InferenceBatching
