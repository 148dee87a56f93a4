import InferenceBatching.Request

namespace InferenceBatching

/-!
# Shapes within a batch

Requests of one batch must agree on the shape of every input that they share, or
the backend could not stack them. A ledger notes the shape that each input name
has in the batch so far.
-/

/-- The shape of each input name, as first seen. -/
abbrev ShapeLedger := Directory String (List Nat)

namespace ShapeLedger

/-- Whether one tensor agrees with the ledger. -/
def fitsTensor
    (ledger : ShapeLedger)
    (named : NamedTensor) :
    Bool :=
  match ledger.find? named.name with
  | some dims => dims = named.tensor.dims
  | none => true

/-- Whether all inputs of a request agree with the ledger. -/
def fits
    (ledger : ShapeLedger)
    (request : Request) :
    Bool :=
  request.inputs.all (fitsTensor ledger)

/-- Note the shape of a tensor, unless its name has one already. -/
def noteTensor
    (ledger : ShapeLedger)
    (named : NamedTensor) :
    ShapeLedger :=
  if ledger.contains named.name then
    ledger
  else
    ledger.insert named.name named.tensor.dims

/-- Note the shapes of a request's inputs in order. -/
def note
    (ledger : ShapeLedger)
    (request : Request) :
    ShapeLedger :=
  request.inputs.foldl noteTensor ledger

end ShapeLedger

end InferenceBatching
