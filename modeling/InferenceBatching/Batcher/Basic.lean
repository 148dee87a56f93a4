import InferenceBatching.Backlog.Admission
import InferenceBatching.Backlog.Formation
import InferenceBatching.Dynamic.Formation

namespace InferenceBatching

/-!
# Batchers

A model has a batcher of one of the two groupings. This module gives the
operations that both share.
-/

/-- A batcher of either grouping. -/
inductive Batcher where
  | dynamic (batcher : DynamicBatcher)
  | sequence (batcher : BacklogBatcher)
  deriving Repr, DecidableEq

/-- The grouping that a configuration asks for. -/
def ModelConfig.kind
    (config : ModelConfig) :
    BatchKind :=
  if config.sequenceBatching?.isSome then .sequence else .dynamic

namespace Batcher

/-- The batcher that a configuration asks for. -/
def ofConfig
    (config : ModelConfig)
    (now : Nat)
    (entryBytes : Nat := DynamicBatcher.usualEntryBytes) :
    Batcher :=
  match config.kind with
  | .sequence => .sequence (.ofConfig config now)
  | .dynamic => .dynamic (.ofConfig config entryBytes)

/-- The grouping of a batcher. -/
def kind :
    Batcher →
    BatchKind
  | .dynamic _ => .dynamic
  | .sequence _ => .sequence

/-- Let a request in, or turn it away. -/
def enqueue
    (request : Request)
    (now : Nat) :
    Batcher →
    Answer Batcher
  | .dynamic batcher => (batcher.enqueue request now).mapState .dynamic
  | .sequence batcher => (batcher.enqueue request now).mapState .sequence

/-- Fail what has expired and form a batch for an instance if one is due. -/
def formBatch
    (instanceIndex : Nat)
    (now : Nat) :
    Batcher →
    Formation Batcher
  | .dynamic batcher => (batcher.formBatch instanceIndex now).mapState .dynamic
  | .sequence batcher => (batcher.formBatch instanceIndex now).mapState .sequence

/-- What has expired, if a batch is due that is too large to make room for. -/
def overreach?
    (now : Nat) :
    Batcher →
    Option (Handover Batcher)
  | .dynamic batcher => (batcher.overreach? now).map (Handover.mapState · .dynamic)
  | .sequence _ => none

/-- Note that the requests of a batch are back from an instance. -/
def complete
    (instanceIndex : Nat)
    (records : List DispatchRecord)
    (now : Nat) :
    Batcher →
    Settlement Batcher
  | .dynamic batcher => (batcher.complete instanceIndex).mapState .dynamic
  | .sequence batcher => (batcher.complete instanceIndex records now).mapState .sequence

/-- Take an instance out of service and hand over what only it could run. -/
def halt
    (instanceIndex : Nat) :
    Batcher →
    Handover Batcher
  | .dynamic batcher => (batcher.halt instanceIndex).mapState .dynamic
  | .sequence batcher => (batcher.halt instanceIndex).mapState .sequence

/-- Hand over everything that waits. -/
def drain :
    Batcher →
    Handover Batcher
  | .dynamic batcher => batcher.drain.mapState .dynamic
  | .sequence batcher => batcher.drain.mapState .sequence

/-- The number of slots on all instances. -/
def slotCount :
    Batcher →
    Nat
  | .dynamic _ => 0
  | .sequence batcher => (batcher.instances.map (fun held => held.table.size)).sum

/-- The number of waiting requests. -/
def pendingCount :
    Batcher →
    Nat
  | .dynamic batcher => batcher.pendingCount
  | .sequence batcher => batcher.pendingCount

end Batcher

end InferenceBatching
