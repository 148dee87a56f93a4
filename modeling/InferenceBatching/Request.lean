import InferenceBatching.Directory
import InferenceBatching.Tensor
import InferenceBatching.Time

namespace InferenceBatching

/-!
# Requests

A request is one unit of work submitted by a client. It may belong to a
sequence, named by a correlation id, in which it may be the first, the last, or
both. Nothing about a request changes after submission except that admission
stamps its arrival. It carries the completion that its submitter made for it.
-/

/-- The number under which a client knows a request. -/
abbrev RequestId := Nat

/-- The number that the requests of one sequence share. -/
abbrev CorrelationId := Nat

/-- The number of the completion that is to be fired when a request ends. -/
abbrev CompletionId := Nat

/-- The value of a free-form request parameter. -/
inductive Parameter where
  | integer (value : Int)
  | boolean (value : Bool)
  | text (value : String)
  deriving Repr, DecidableEq

namespace Parameter

/-- The parameter as a number. -/
def asInteger? :
    Parameter →
    Option Int
  | .integer value => some value
  | _ => none

/-- The parameter as a switch; every number but zero is on. -/
def asBoolean? :
    Parameter →
    Option Bool
  | .boolean value => some value
  | .integer value => some (value ≠ 0)
  | .text _ => none

end Parameter

/-- Parameters by key. -/
abbrev Parameters := Directory String Parameter

/-- A client's unit of work. Priority zero stands for "no priority given". -/
structure Request where
  id : RequestId
  sequence? : Option CorrelationId := none
  starts : Bool := false
  ends : Bool := false
  priority : Nat := 0
  timeout? : Option Nat := none
  inputs : List NamedTensor := []
  requestedOutputs : List String := []
  parameters : Parameters := .empty
  arrival : Nat := 0
  completion : CompletionId := 0
  deriving Repr, DecidableEq

/-- Whether a request belongs to a sequence. -/
inductive RequestKind where
  | stateless
  | sequence (id : CorrelationId)
  deriving Repr, DecidableEq

/-- The name of a request kind. -/
def RequestKind.name :
    RequestKind →
    String
  | .stateless => "stateless"
  | .sequence _ => "sequence"

namespace Request

/-- The highest priority number a request can carry. -/
def maxPriority : Nat :=
  2 ^ 32 - 1

/-- Read a positive number from the parameters. -/
def positiveParameter?
    (parameters : Parameters)
    (key : String) :
    Option Nat :=
  match (parameters.find? key).bind Parameter.asInteger? with
  | some value => if 0 < value then some value.toNat else none
  | none => none

/-- Read a switch from the parameters; anything else is off. -/
def switchParameter
    (parameters : Parameters)
    (key : String) :
    Bool :=
  ((parameters.find? key).bind Parameter.asBoolean?).getD false

/--
The request that a front end describes by parameters alone.

A positive `sequence_id` puts it into a sequence, and only then do
`sequence_start` and `sequence_end` count. Priorities too large for the priority
range become the largest one. All parameters are kept.
-/
def ofParameters
    (id : RequestId)
    (parameters : Parameters) :
    Request :=
  let sequence? := positiveParameter? parameters "sequence_id"
  let inSequence := sequence?.isSome
  { id := id
    sequence? := sequence?
    starts := inSequence && switchParameter parameters "sequence_start"
    ends := inSequence && switchParameter parameters "sequence_end"
    priority := min ((positiveParameter? parameters "priority").getD 0) maxPriority
    timeout? := positiveParameter? parameters "timeout"
    parameters := parameters }

/-- Put a request into a sequence. -/
def inSequence
    (request : Request)
    (sequence : CorrelationId)
    (starts ends : Bool) :
    Request :=
  { request with sequence? := some sequence, starts := starts, ends := ends }

/-- Add or replace a parameter. -/
def withParameter
    (request : Request)
    (key : String)
    (value : Parameter) :
    Request :=
  { request with parameters := request.parameters.insert key value }

/-- The kind of a request. -/
def kind
    (request : Request) :
    RequestKind :=
  match request.sequence? with
  | some sequence => .sequence sequence
  | none => .stateless

/-- The first input with a name. -/
def input?
    (request : Request)
    (name : String) :
    Option Tensor :=
  findTensor? request.inputs name

/-- Stamp the instant at which the request was admitted. -/
def arriveAt
    (request : Request)
    (now : Nat) :
    Request :=
  { request with arrival := now }

end Request

end InferenceBatching
