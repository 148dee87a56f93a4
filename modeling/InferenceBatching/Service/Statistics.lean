import InferenceBatching.Directory
import InferenceBatching.Json.Items
import InferenceBatching.Json.Number
import InferenceBatching.Number.Decimal
import InferenceBatching.RequestError

namespace InferenceBatching

/-!
# Statistics

Counters of one model: requests by outcome, failures by code, and batches by
size. Every request that somebody ends is counted once then, and every batch
once when the backend has returned.
-/

/-- The counters of a model. Times are totals in nanoseconds. -/
structure Statistics where
  successCount : Nat := 0
  failureCount : Nat := 0
  failuresByCode : Directory String Nat := .empty
  batchCount : Nat := 0
  executionCount : Nat := 0
  queuedNanoseconds : Nat := 0
  computeNanoseconds : Nat := 0
  batchSizes : Directory Nat Nat := .empty
  deriving Repr, DecidableEq

namespace Statistics

/-- Nanoseconds in a number of microseconds. -/
def nanoseconds
    (duration : Nat) :
    Nat :=
  duration * 1000

/-- Count a request that succeeded after waiting for some time. -/
def countSuccess
    (statistics : Statistics)
    (queued : Nat) :
    Statistics :=
  { statistics with
    successCount := statistics.successCount + 1
    queuedNanoseconds := statistics.queuedNanoseconds + nanoseconds queued }

/-- Count a request that failed. -/
def countFailure
    (statistics : Statistics)
    (error : RequestError) :
    Statistics :=
  { statistics with
    failureCount := statistics.failureCount + 1
    failuresByCode := statistics.failuresByCode.update error.code 0 (· + 1) }

/-- Count a batch that the backend took some time for. -/
def countBatch
    (statistics : Statistics)
    (size : Nat)
    (computed : Nat) :
    Statistics :=
  { statistics with
    batchCount := statistics.batchCount + 1
    executionCount := statistics.executionCount + size
    computeNanoseconds := statistics.computeNanoseconds + nanoseconds computed
    batchSizes := statistics.batchSizes.update size 0 (· + 1) }

/-- The number of requests counted as ended; a sum beyond 64 bits wraps around. -/
def completedCount
    (statistics : Statistics) :
    Nat :=
  (statistics.successCount + statistics.failureCount) % 2 ^ 64

/-- The average number of requests in a batch, as text. -/
def averageBatchSize
    (statistics : Statistics) :
    String :=
  (Number.average statistics.executionCount statistics.batchCount).fixedText
    Number.averagePlaces

/-- How many requests failed for causes with the code of the given one. -/
def failuresFor
    (statistics : Statistics)
    (error : RequestError) :
    Nat :=
  (statistics.failuresByCode.find? error.code).getD 0

/-- Counts by key as a written object. -/
def writeCounts
    (counts : List (String × Nat)) :
    List Char :=
  Json.writeObject (counts.map (fun count => (count.1, Json.writeNatural count.2)))

/-- The counters as a JSON object. -/
def toJson
    (statistics : Statistics) :
    String :=
  String.ofList (Json.writeObject [
    ("success_count", Json.writeNatural statistics.successCount),
    ("failure_count", Json.writeNatural statistics.failureCount),
    ("failures", writeCounts statistics.failuresByCode.entries),
    ("batch_count", Json.writeNatural statistics.batchCount),
    ("execution_count", Json.writeNatural statistics.executionCount),
    ("cumulative_queue_ns", Json.writeNatural statistics.queuedNanoseconds),
    ("cumulative_compute_ns", Json.writeNatural statistics.computeNanoseconds),
    ("batch_sizes",
      writeCounts (statistics.batchSizes.entries.map (fun count =>
        (toString count.1, count.2)))) ])

end Statistics

end InferenceBatching
