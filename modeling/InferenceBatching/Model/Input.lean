import InferenceBatching.Request
import InferenceBatching.Text.Value

namespace InferenceBatching

/-!
# Declared inputs

A model may declare the inputs it takes. A request then has to send each of them
in an accepted shape and nothing else.
-/

/-- A declared input. An extent of `-1` leaves that extent open. -/
structure InputSpec where
  name : String
  dims : List Int
  deriving Repr, DecidableEq

/-- The extent of an unsigned 64-bit size with the given two's complement reading. -/
def unsignedExtent
    (extent : Int) :
    Nat :=
  (extent % 2 ^ 64).toNat

namespace InputSpec

/-- Whether a declared extent takes a sent one. -/
def acceptsExtent
    (declared : Int)
    (sent : Nat) :
    Bool :=
  declared = -1 || unsignedExtent declared = sent

/-- Whether the declared extents take a shape. -/
def accepts
    (spec : InputSpec)
    (shape : List Nat) :
    Bool :=
  shape.length = spec.dims.length &&
    (spec.dims.zip shape).all (fun pair => acceptsExtent pair.1 pair.2)

end InputSpec

/-- Why a request's inputs do not fit the declared ones. -/
inductive InputMismatch where
  | missing (name : String)
  | wrongShape (name : String) (shape : List Nat) (expected : List Int)
  | unexpected (name : String)
  deriving Repr, DecidableEq

/-- The text of an input mismatch. -/
def InputMismatch.message :
    InputMismatch →
    String
  | .missing name => "missing input '" ++ name ++ "'"
  | .wrongShape name shape expected =>
      "input '" ++ name ++ "' has shape " ++ Text.ofNats shape ++
        ", expected " ++ Text.ofInts expected
  | .unexpected name => "unexpected input '" ++ name ++ "'"

/-- What is wrong with a request's tensor for one declared input. -/
def InputSpec.mismatch?
    (spec : InputSpec)
    (request : Request) :
    Option InputMismatch :=
  match request.input? spec.name with
  | none => some (.missing spec.name)
  | some tensor =>
      if spec.accepts tensor.dims then
        none
      else
        some (.wrongShape spec.name tensor.dims spec.dims)

/-- The first sent input that is not declared. -/
def undeclared?
    (declared : List InputSpec)
    (request : Request) :
    Option InputMismatch :=
  (request.inputs.find? (fun sent => !declared.any (fun spec => spec.name = sent.name))).map
    (fun sent => .unexpected sent.name)

/--
The first thing wrong with a request's inputs: the declared inputs are looked at
in their order, and then the sent ones in theirs. Without a declaration nothing
is wrong.
-/
def inputMismatch?
    (declared : List InputSpec)
    (request : Request) :
    Option InputMismatch :=
  if declared.isEmpty then
    none
  else
    match declared.findSome? (fun spec => spec.mismatch? request) with
    | some mismatch => some mismatch
    | none => undeclared? declared request

end InferenceBatching
