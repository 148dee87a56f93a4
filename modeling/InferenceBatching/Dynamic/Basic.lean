import InferenceBatching.Batcher.Outcome
import InferenceBatching.Model.Config
import InferenceBatching.Queue.Priority

namespace InferenceBatching

/-!
# The dynamic batcher

Independent requests wait in priority queues that all instances share. Each
instance has a phase, which is only for show: what an instance may do next does
not depend on it.
-/

/-- What an instance of a dynamic model is doing. -/
inductive InstancePhase where
  | idle
  | accumulating
  | dispatched
  deriving Repr, DecidableEq

/-- The name of a phase. -/
def InstancePhase.name :
    InstancePhase →
    String
  | .idle => "Idle"
  | .accumulating => "Accumulating"
  | .dispatched => "Dispatched"

/-- Groups independent requests into batches. -/
structure DynamicBatcher where
  queue : PriorityQueue
  inputs : List InputSpec
  maxBatchSize : Nat
  preferredBatchSize : Nat
  maxQueueDelay : Nat
  delayClosesAcrossLevels : Bool
  phases : List InstancePhase
  entryBytes : Nat
  deriving Repr, DecidableEq

namespace DynamicBatcher

/-- The bytes that a queued entry takes in a block as a rule, without what it refers to. -/
def usualEntryBytes : Nat :=
  224

/--
A batcher for a model. Without a description of the grouping, requests run alone. How much
room an entry takes is up to the machine, so it can be given.
-/
def ofConfig
    (config : ModelConfig)
    (entryBytes : Nat := usualEntryBytes) :
    DynamicBatcher :=
  let phases := List.replicate (max config.instanceCount 1) InstancePhase.idle
  match config.dynamicBatching? with
  | some batching =>
      { queue := .ofLayout batching.layout
        inputs := config.inputs
        maxBatchSize := config.effectiveMaxBatchSize
        preferredBatchSize := config.preferredBatchSize
        maxQueueDelay := batching.maxQueueDelay
        delayClosesAcrossLevels := batching.delayClosesAcrossLevels
        phases := phases
        entryBytes := entryBytes }
  | none =>
      { queue := .ofLayout {}
        inputs := config.inputs
        maxBatchSize := 1
        preferredBatchSize := 1
        maxQueueDelay := 0
        delayClosesAcrossLevels := false
        phases := phases
        entryBytes := entryBytes }

/-- The phase of an instance; one that does not exist is idle. -/
def phase
    (batcher : DynamicBatcher)
    (instanceIndex : Nat) :
    InstancePhase :=
  batcher.phases.getD instanceIndex .idle

/-- Note what an instance is doing. -/
def enterPhase
    (batcher : DynamicBatcher)
    (instanceIndex : Nat)
    (phase : InstancePhase) :
    DynamicBatcher :=
  { batcher with phases := batcher.phases.set instanceIndex phase }

/-- Let a request in, or hand it back. -/
def enqueue
    (batcher : DynamicBatcher)
    (request : Request)
    (now : Nat) :
    Answer DynamicBatcher :=
  match batcher.queue.enqueue request now with
  | .ok queue => .accepted { batcher with queue := queue }
  | .error failure => .rejected batcher failure.request failure.error

/-- The number of waiting requests. -/
def pendingCount
    (batcher : DynamicBatcher) :
    Nat :=
  batcher.queue.size

/--
Whether an urgent entry closes the batch. Urgent entries on any level count only
if the model says so; otherwise those of the first level with entries do.
-/
def delayForcesClose
    (batcher : DynamicBatcher)
    (now : Nat) :
    Bool :=
  if batcher.delayClosesAcrossLevels then
    batcher.queue.hasUrgent now
  else
    match batcher.queue.highestPendingLevel?.bind batcher.queue.level? with
    | none => false
    | some level => 0 < level.urgentCount now

end DynamicBatcher

end InferenceBatching
