import InferenceBatching.Json.Record
import InferenceBatching.Model.Config

namespace InferenceBatching

/-!
# Configuration documents

The JSON form of policies and of model configurations, field by field in the
order in which the fields are written. `ModelConfig.ofText` reads a document and
turns away one that contradicts itself.
-/

open Json

/-- Timeout actions by name. -/
def TimeoutAction.codec : Codec TimeoutAction :=
  .constant
    [(TimeoutAction.reject.name, .reject), (TimeoutAction.delay.name, .delay)]
    TimeoutAction.name

/-- Queue policies; every field may be left out. -/
def QueuePolicy.codec : Codec QueuePolicy :=
  .record
    [ .optional "max_queue_size" .size
        (fun policy => policy.capacity)
        (fun policy value => { policy with capacity := value }),
      .optional "timeout_action" TimeoutAction.codec
        (fun policy => policy.timeoutAction)
        (fun policy value => { policy with timeoutAction := value }),
      (Field.optional "timeout_micros" .size
        (fun policy => policy.timeout)
        (fun policy value => { policy with timeout := value })).orNamed
          "default_timeout_microseconds",
      .optional "allow_timeout_override" .boolean
        (fun policy => policy.allowsOverride)
        (fun policy value => { policy with allowsOverride := value }) ]
    {}

/-- Declared inputs. -/
def InputSpec.codec : Codec InputSpec :=
  .record
    [ .required "name" .text
        (fun spec => spec.name)
        (fun spec value => { spec with name := value }),
      .required "dims" (.list .signed)
        (fun spec => spec.dims)
        (fun spec value => { spec with dims := value }) ]
    { name := "", dims := [] }

/-- Policies by level. -/
def levelPoliciesCodec : Codec (Directory Nat QueuePolicy) :=
  .numericMap (2 ^ 32) QueuePolicy.codec

/-- Groupings of independent requests. -/
def DynamicBatching.codec : Codec DynamicBatching :=
  .record
    [ .optional "preferred_batch_size" (.list .size)
        (fun batching => batching.preferredSizes)
        (fun batching value => { batching with preferredSizes := value }),
      (Field.optional "max_queue_delay_micros" .size
        (fun batching => batching.maxQueueDelay)
        (fun batching value => { batching with maxQueueDelay := value })).orNamed
          "max_queue_delay_microseconds",
      .optional "priority_levels" .level
        (fun batching => batching.priorityLevels)
        (fun batching value => { batching with priorityLevels := value }),
      .optional "default_priority_level" .level
        (fun batching => batching.defaultPriorityLevel)
        (fun batching value => { batching with defaultPriorityLevel := value }),
      .optional "default_queue_policy" QueuePolicy.codec
        (fun batching => batching.defaultPolicy)
        (fun batching value => { batching with defaultPolicy := value }),
      .optional "priority_queue_policy" levelPoliciesCodec
        (fun batching => batching.levelPolicies)
        (fun batching value => { batching with levelPolicies := value }),
      .optional "delay_closes_across_levels" .boolean
        (fun batching => batching.delayClosesAcrossLevels)
        (fun batching value => { batching with delayClosesAcrossLevels := value }) ]
    {}

/-- Names of control values; every field may be left out. -/
def ControlNames.codec : Codec ControlNames :=
  .record
    [ .optional "start" .text
        (fun names => names.start)
        (fun names value => { names with start := value }),
      .optional "end" .text
        (fun names => names.ending)
        (fun names value => { names with ending := value }),
      .optional "ready" .text
        (fun names => names.ready)
        (fun names value => { names with ready := value }),
      .optional "correlation_id" .text
        (fun names => names.correlation)
        (fun names value => { names with correlation := value }) ]
    {}

/-- Groupings of requests that belong to sequences. -/
def SequenceBatching.codec : Codec SequenceBatching :=
  .record
    [ .required "max_candidate_sequences" .size
        (fun batching => batching.maxSequences)
        (fun batching value => { batching with maxSequences := value }),
      .optional "max_sequence_idle_microseconds" .size
        (fun batching => batching.maxIdle)
        (fun batching value => { batching with maxIdle := value }),
      .optional "blocking" .boolean
        (fun batching => batching.blocking)
        (fun batching value => { batching with blocking := value }),
      .optional "control_input" ControlNames.codec
        (fun batching => batching.controlNames)
        (fun batching value => { batching with controlNames := value }),
      .optional "queue_policy" QueuePolicy.codec
        (fun batching => batching.policy)
        (fun batching value => { batching with policy := value }),
      .optional "timed_out_retention_microseconds" .size
        (fun batching => batching.timedOutRetention)
        (fun batching value => { batching with timedOutRetention := value }) ]
    { maxSequences := 0 }

/-- Model configurations. -/
def ModelConfig.codec : Codec ModelConfig :=
  .record
    [ .required "name" .text
        (fun config => config.name)
        (fun config value => { config with name := value }),
      .optional "max_batch_size" .size
        (fun config => config.maxBatchSize)
        (fun config value => { config with maxBatchSize := value }),
      .optional "instance_count" .size
        (fun config => config.instanceCount)
        (fun config value => { config with instanceCount := value }),
      .optional "inputs" (.list InputSpec.codec)
        (fun config => config.inputs)
        (fun config value => { config with inputs := value }),
      .optional "dynamic_batching" (.optional DynamicBatching.codec)
        (fun config => config.dynamicBatching?)
        (fun config value => { config with dynamicBatching? := value }),
      .optional "sequence_batching" (.optional SequenceBatching.codec)
        (fun config => config.sequenceBatching?)
        (fun config value => { config with sequenceBatching? := value }) ]
    { name := "" }

/-- Why a document gives no configuration. -/
inductive DocumentFault where
  | missing
  | notUnicode
  | unreadable (fault : ReadFault)
  | invalid (fault : Fault)
  deriving Repr, DecidableEq

namespace ModelConfig

/-- Read a configuration and accept it only if it does not contradict itself. -/
def ofText
    (text : String) :
    Except DocumentFault ModelConfig :=
  match ModelConfig.codec.decode text with
  | .error fault => .error (.unreadable fault)
  | .ok config =>
      match config.validate with
      | .error fault => .error (.invalid fault)
      | .ok () => .ok config

/-- Read a configuration from the contents of a file, if the file exists. -/
def ofFile
    (contents? : Option ByteArray) :
    Except DocumentFault ModelConfig :=
  match contents? with
  | none => .error .missing
  | some contents =>
      match String.fromUTF8? contents with
      | none => .error .notUnicode
      | some text => ofText text

end ModelConfig

end InferenceBatching
