import InferenceBatching.Batch.Basic

namespace InferenceBatching

/-!
# What the backend makes of a batch

The tensors of one input are stacked along a new leading axis with a row for
each entry, and the control values of the slots become columns of integers.
-/

/-- Why an input of a batch does not stack. -/
inductive StackFault where
  | notCarried (name : String)
  | incompatible
  deriving Repr, DecidableEq

/-- The text of a stacking fault, where it has one of its own. -/
def StackFault.message? :
    StackFault →
    Option String
  | .notCarried name => some ("no entry carries input '" ++ name ++ "'")
  | .incompatible => none

/-- What is done to tensors when an input is stacked: zeros take the place of one, and all join. -/
structure TensorOperations (Value : Type) where
  zerosLike : Value → Value
  stack? : List Value → Option Value

/-- The operations of tensors with integer elements. -/
def Tensor.operations :
    TensorOperations Tensor where
  zerosLike := zerosLike
  stack? := stack?

namespace Batch

/-- The tensor that an entry carries under a name, whatever the tensors of requests are. -/
def carried?
    {Value : Type}
    (input? : Request → String → Option Value)
    (entry : BatchEntry)
    (name : String) :
    Option Value :=
  entry.request?.bind (fun request => input? request name)

/--
Stack an input. Entries without it are rows of zeros, shaped like the first
tensor that there is.
-/
def stackedWith
    {Value : Type}
    (batch : Batch)
    (tensors : TensorOperations Value)
    (input? : Request → String → Option Value)
    (name : String) :
    Except StackFault Value :=
  match batch.requests.findSome? (fun request => input? request name) with
  | none => .error (.notCarried name)
  | some template =>
      let rows := batch.entries.map (fun entry =>
        (carried? input? entry name).getD (tensors.zerosLike template))
      match tensors.stack? rows with
      | none => .error .incompatible
      | some stacked => .ok stacked

/-- Stack the tensors that the requests have. -/
def stackedInput
    (batch : Batch)
    (name : String) :
    Except StackFault Tensor :=
  batch.stackedWith Tensor.operations Request.input? name

/-- The control values of an entry; an entry without any counts as not ready. -/
def controlOf
    (entry : BatchEntry) :
    SlotControl :=
  entry.control?.getD {}

/-- A switch as a number. -/
def switchValue
    (value : Bool) :
    Int :=
  if value then 1 else 0

/-- A correlation id as a signed 64-bit number; none counts as zero. -/
def correlationValue
    (sequence? : Option CorrelationId) :
    Int :=
  match sequence? with
  | none => 0
  | some sequence => (sequence : Int).bmod (2 ^ 64)

/-- The control columns with their names; only sequence batches have any. -/
def controlColumns
    (batch : Batch) :
    List (String × List Int) :=
  match batch.form with
  | .dynamic => []
  | .sequence names =>
      let controls := batch.entries.map controlOf
      [ (names.start, controls.map (fun control => switchValue control.start)),
        (names.ending, controls.map (fun control => switchValue control.ending)),
        (names.ready, controls.map (fun control => switchValue control.ready)),
        (names.correlation, controls.map (fun control => correlationValue control.sequence?)) ]

end Batch

end InferenceBatching
