import InferenceBatching.Fault
import InferenceBatching.Model.Input
import InferenceBatching.Queue.Layout

namespace InferenceBatching

/-!
# Model configurations

A configuration names a model, bounds its batches, counts its instances, and
says how requests are grouped: by arrival (`DynamicBatching`), by sequence
(`SequenceBatching`), or not at all. `ModelConfig.problem?` finds the first
contradiction.
-/

/-- Grouping of independent requests. -/
structure DynamicBatching where
  preferredSizes : List Nat := []
  maxQueueDelay : Nat := 0
  priorityLevels : Nat := 0
  defaultPriorityLevel : Nat := 0
  defaultPolicy : QueuePolicy := {}
  levelPolicies : Directory Nat QueuePolicy := .empty
  delayClosesAcrossLevels : Bool := false
  deriving Repr, DecidableEq

/-- The names under which the backend is given the control values of the slots. -/
structure ControlNames where
  start : String := "START"
  ending : String := "END"
  ready : String := "READY"
  correlation : String := "CORRID"
  deriving Repr, DecidableEq

/-- Grouping of requests that belong to sequences. -/
structure SequenceBatching where
  maxSequences : Nat
  maxIdle : Nat := 0
  blocking : Bool := true
  controlNames : ControlNames := {}
  policy : QueuePolicy := {}
  timedOutRetention : Nat := 60000000
  deriving Repr, DecidableEq

/-- The description of one model. -/
structure ModelConfig where
  name : String
  maxBatchSize : Nat := 0
  instanceCount : Nat := 1
  inputs : List InputSpec := []
  dynamicBatching? : Option DynamicBatching := none
  sequenceBatching? : Option SequenceBatching := none
  deriving Repr, DecidableEq

namespace DynamicBatching

/-- The queues that a grouping asks for. -/
def layout
    (batching : DynamicBatching) :
    QueueLayout where
  levels := max batching.priorityLevels 1
  defaultLevel := max batching.defaultPriorityLevel 1
  defaultPolicy := batching.defaultPolicy
  levelPolicies := batching.levelPolicies

end DynamicBatching

namespace SequenceBatching

/-- The grouping used when a configuration does not describe one. -/
def standard : SequenceBatching :=
  { maxSequences := 4 }

end SequenceBatching

namespace ModelConfig

/-- The number of requests that one batch may hold; a model without batching takes one. -/
def effectiveMaxBatchSize
    (config : ModelConfig) :
    Nat :=
  max config.maxBatchSize 1

/-- The batch size to aim for: the largest preferred size that is allowed. -/
def preferredBatchSize
    (config : ModelConfig) :
    Nat :=
  let limit := config.effectiveMaxBatchSize
  match config.dynamicBatching? with
  | none => limit
  | some batching =>
      ((batching.preferredSizes.filter (fun size => size ≤ limit)).max?).getD limit

/-- The declared input with a name. -/
def input?
    (config : ModelConfig)
    (name : String) :
    Option InputSpec :=
  config.inputs.find? (fun spec => spec.name = name)

end ModelConfig

/-- A contradiction within a configuration. -/
inductive ConfigProblem where
  | emptyName
  | noInstances
  | exclusiveBlocks
  | invalidDims (input : String) (dims : List Int)
  | preferredWithoutBatching
  | preferredOutside (size : Nat) (limit : Nat)
  | defaultLevelOutside (level : Nat) (levels : Nat)
  | unknownLevel (level : Nat)
  | noSequences
  | tooManySequences (sequences : Nat) (limit : Nat)
  deriving Repr, DecidableEq

/-- The text of a contradiction, apart from the model's name. -/
def ConfigProblem.detail :
    ConfigProblem →
    String
  | .emptyName => "model name must not be empty"
  | .noInstances => "instance_count must be at least 1"
  | .exclusiveBlocks =>
      "dynamic_batching and sequence_batching are mutually exclusive"
  | .invalidDims input dims =>
      "input '" ++ input ++ "' has invalid dims " ++ Text.ofInts dims
  | .preferredWithoutBatching => "preferred_batch_size requires max_batch_size > 0"
  | .preferredOutside size limit =>
      "preferred batch size " ++ toString size ++ " outside 1..=" ++ toString limit
  | .defaultLevelOutside level levels =>
      "default_priority_level " ++ toString level ++ " outside 1..=" ++ toString levels
  | .unknownLevel level =>
      "queue policy for unknown priority level " ++ toString level
  | .noSequences => "max_candidate_sequences must be at least 1"
  | .tooManySequences sequences limit =>
      toString sequences ++ " sequence slots exceed max batch size " ++ toString limit

/-- The text of a contradiction in the configuration of a model. -/
def ConfigProblem.message
    (model : String) :
    ConfigProblem →
    String
  | .emptyName => ConfigProblem.emptyName.detail
  | problem => "model '" ++ model ++ "': " ++ problem.detail

namespace InputSpec

/-- An extent is either open or positive. -/
def problem?
    (spec : InputSpec) :
    Option ConfigProblem :=
  if spec.dims.any (fun extent => extent = 0 || extent < -1) then
    some (.invalidDims spec.name spec.dims)
  else
    none

end InputSpec

namespace DynamicBatching

/-- The first preferred size that is zero or over the limit. -/
def preferredProblem?
    (batching : DynamicBatching)
    (limit : Nat) :
    Option ConfigProblem :=
  (batching.preferredSizes.find? (fun size => size = 0 || limit < size)).map
    (fun size => .preferredOutside size limit)

/-- The default level has to exist when there are several levels. -/
def defaultLevelProblem?
    (batching : DynamicBatching) :
    Option ConfigProblem :=
  let level := batching.defaultPriorityLevel
  let levels := batching.priorityLevels
  if 1 < levels && (level = 0 || levels < level) then
    some (.defaultLevelOutside level levels)
  else
    none

/-- The first level, in ascending order, that has a policy and does not exist. -/
def levelPolicyProblem?
    (batching : DynamicBatching) :
    Option ConfigProblem :=
  (batching.levelPolicies.keys.find? (fun level =>
      level = 0 || max batching.priorityLevels 1 < level)).map
    ConfigProblem.unknownLevel

/-- The first contradiction of a grouping within a model. -/
def problem?
    (batching : DynamicBatching)
    (config : ModelConfig) :
    Option ConfigProblem :=
  if config.maxBatchSize = 0 && !batching.preferredSizes.isEmpty then
    some .preferredWithoutBatching
  else
    batching.preferredProblem? config.effectiveMaxBatchSize
      <|> batching.defaultLevelProblem?
      <|> batching.levelPolicyProblem?

end DynamicBatching

namespace SequenceBatching

/-- The number of sequences has to be positive and within the batch size. -/
def problem?
    (batching : SequenceBatching)
    (config : ModelConfig) :
    Option ConfigProblem :=
  if batching.maxSequences = 0 then
    some .noSequences
  else if config.effectiveMaxBatchSize < batching.maxSequences then
    some (.tooManySequences batching.maxSequences config.effectiveMaxBatchSize)
  else
    none

end SequenceBatching

namespace ModelConfig

/-- The first contradiction of the groupings. -/
def batchingProblem?
    (config : ModelConfig) :
    Option ConfigProblem :=
  config.dynamicBatching?.bind (fun batching => batching.problem? config)
    <|> config.sequenceBatching?.bind (fun batching => batching.problem? config)

/-- The first contradiction of a configuration, if there is any. -/
def problem?
    (config : ModelConfig) :
    Option ConfigProblem :=
  if config.name.isEmpty then
    some .emptyName
  else if config.instanceCount = 0 then
    some .noInstances
  else if config.dynamicBatching?.isSome && config.sequenceBatching?.isSome then
    some .exclusiveBlocks
  else
    config.inputs.findSome? InputSpec.problem?
      <|> config.batchingProblem?

/-- Whether a configuration is free of contradictions. -/
def isValid
    (config : ModelConfig) :
    Bool :=
  config.problem?.isNone

/-- Accept a configuration, or say what is wrong with it. -/
def validate
    (config : ModelConfig) :
    Except Fault Unit :=
  match config.problem? with
  | none => .ok ()
  | some problem => .error (.configuration (problem.message config.name))

end ModelConfig

end InferenceBatching
