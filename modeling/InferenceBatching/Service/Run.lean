import InferenceBatching.Service.Step

namespace InferenceBatching

/-!
# One run of a service

Of the many ways in which callers and workers may interleave, a run takes the
one in which nobody waits without need: callers end their requests at once, and
after every change each worker goes on until it executes a batch, has stopped,
or finds no work. Time stands still meanwhile, and passes only while somebody
sleeps or waits for something that a later instant brings.
-/

/-- A service at an instant. -/
structure Run where
  service : Service
  now : Nat
  deriving Repr, DecidableEq

namespace Activity

/-- How many requests a worker holds that it has to end. -/
def load :
    Activity →
    Nat
  | .waiting _ => 0
  | .failing failures _ => failures.length
  | .executing batch _ => batch.size
  | .returned batch _ _ => batch.size
  | .delivering deliveries _ => deliveries.length
  | .faulted _ => 0
  | .abandoning failures => failures.length
  | .stopped => 0

/-- Whether a worker is looking for work. -/
def isWaiting :
    Activity →
    Bool
  | .waiting _ => true
  | _ => false

/-- Whether a worker cannot go on by itself. -/
def isBlocked :
    Activity →
    Bool
  | .executing _ _ => true
  | .stopped => true
  | _ => false

end Activity

namespace Service

/-- The number of requests that have not ended. -/
def load
    (service : Service) :
    Nat :=
  service.pendingCount + service.callers.length +
    (service.workers.map (fun worker => worker.activity.load)).sum

/-- Let callers end what they were left with, in order. -/
def finishCallers :
    Nat →
    Service →
    Service
  | 0, service => service
  | count + 1, service => finishCallers count (service.finishCaller 0)

/-- Let a worker go on for up to a number of steps, until it is blocked or finds no work. -/
def goOn
    (instanceIndex : Nat)
    (now : Nat) :
    Nat →
    Service →
    Service
  | 0, service => service
  | fuel + 1, service =>
      let before := service.activity instanceIndex
      if before.isBlocked then
        service
      else
        let advanced := service.advance instanceIndex now
        if before.isWaiting && (advanced.activity instanceIndex).isWaiting then
          advanced
        else
          goOn instanceIndex now fuel advanced

/--
Steps enough for a worker to come to rest: a request takes one step to be ended,
and the look that finds some takes three more at most.
-/
def restBudget
    (service : Service) :
    Nat :=
  4 * service.load + 16

/-- Let a worker come to rest. -/
def restWorker
    (now : Nat)
    (service : Service)
    (instanceIndex : Nat) :
    Service :=
  service.goOn instanceIndex now service.restBudget

/-- Let every worker come to rest, in order. -/
def restWorkers
    (now : Nat)
    (service : Service) :
    Service :=
  (List.range service.workers.length).foldl (restWorker now) service

/-- Let everybody come to rest; a worker may find work that a later one has made. -/
def rest
    (now : Nat)
    (service : Service) :
    Service :=
  let answered := service.finishCallers service.callers.length
  answered.workers.foldl (fun rested _ => rested.restWorkers now) (answered.restWorkers now)

/-- The instant at which the first worker would look for work again. -/
def nextWake?
    (service : Service) :
    Option Nat :=
  earliest? (service.workers.filterMap (fun worker =>
    match worker.activity with
    | .waiting wakeAt? => wakeAt?
    | _ => none))

/-- The batch in execution that holds a request, with the index of its instance. -/
def executing?
    (service : Service)
    (request : RequestId) :
    Option (Nat × Batch) :=
  (service.workers.mapIdx (fun index worker =>
      match worker.activity with
      | .executing batch _ =>
          if batch.requestIds.contains request then some (index, batch) else none
      | _ => none)).findSome? id

/-- Whether a request has ended. -/
def hasEnded
    (service : Service)
    (request : RequestId) :
    Bool :=
  service.ended.any (fun delivery => delivery.request.id = request)

end Service

namespace Run

/-- Start the service of a valid configuration. -/
def start
    (config : ModelConfig) :
    Except Fault Run :=
  (Service.start config 0).map (fun service => { service := service.rest 0, now := 0 })

/-- The run after a change of the service at the current instant. -/
def change
    (run : Run)
    (action : Service → Service) :
    Run :=
  { run with service := (action run.service).rest run.now }

/-- The run after everybody has come to rest at a later instant. -/
def wake
    (run : Run)
    (instant : Nat) :
    Run :=
  let now := max run.now instant
  { service := run.service.rest now, now := now }

/--
How many wake-ups a run may need: each comes with the deadline of a request, with
the end of its window, or with the idle limit of a slot.
-/
def wakeBudget
    (run : Run) :
    Nat :=
  2 * run.service.load + run.service.batcher.slotCount + 16

/-- Let time pass until a condition holds, as long as any worker waits for an instant. -/
def waitUntil
    (condition : Service → Bool) :
    Nat →
    Run →
    Run
  | 0, run => run
  | fuel + 1, run =>
      if condition run.service then
        run
      else
        match run.service.nextWake? with
        | none => run
        | some instant => waitUntil condition fuel (run.wake instant)

/-- Let time pass up to an instant, waking workers on the way. -/
def passUntil
    (target : Nat) :
    Nat →
    Run →
    Run
  | 0, run => run.wake target
  | fuel + 1, run =>
      match run.service.nextWake? with
      | none => run.wake target
      | some instant =>
          if instant < target then
            passUntil target fuel (run.wake instant)
          else
            run.wake target

/-- Submit a request. -/
def submit
    (run : Run)
    (request : Request) :
    Run × Option RequestError :=
  let equipped := run.service.equip { request with arrival := run.now } .channel
  let submitted := equipped.1.submit equipped.2 run.now
  ({ run with service := submitted.1.rest run.now }, submitted.2)

/-- Wait until a request is in a batch that is being executed. -/
def waitForBatch
    (run : Run)
    (request : RequestId) :
    Run :=
  run.waitUntil (fun service => (service.executing? request).isSome) run.wakeBudget

/-- Wait until some requests have ended. -/
def waitForEnds
    (run : Run)
    (requests : List RequestId) :
    Run :=
  run.waitUntil (fun service => requests.all service.hasEnded) run.wakeBudget

/-- Sleep for a time. -/
def sleep
    (run : Run)
    (duration : Nat) :
    Run :=
  run.passUntil (run.now + duration) run.wakeBudget

/-- Let the backend of an instance answer. -/
def answer
    (run : Run)
    (instanceIndex : Nat)
    (answer : BackendAnswer) :
    Run :=
  run.change (fun service => service.answer instanceIndex answer run.now)

/-- Shut the service down. -/
def shutDown
    (run : Run) :
    Run :=
  run.change Service.shutDown

/-- Let every backend that is executing return the inputs. -/
def echoAll
    (run : Run) :
    Run :=
  (List.range run.service.workers.length).foldl
    (fun echoed index =>
      match echoed.service.activity index with
      | .executing batch _ => echoed.answer index (echo batch)
      | _ => echoed)
    run

/-- Shut the service down and let the batches that are still executing finish. -/
def close
    (run : Run) :
    Run :=
  run.shutDown.echoAll

end Run

end InferenceBatching
