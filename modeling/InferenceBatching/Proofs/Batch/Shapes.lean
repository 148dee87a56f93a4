import InferenceBatching.Batch.Shapes

namespace InferenceBatching

/-!
# What a ledger of shapes stands for

A ledger is kept request by request. What it holds under a name is the shape that
the name had first among the requests noted, so a request fits the ledger exactly
if its inputs have the shapes that were seen first. Where each request agrees with
those before it, all requests that carry a name carry it with one shape.
-/

/-- The shape that the first tensor of a name has among the inputs of some requests. -/
def firstShape?
    (requests : List Request)
    (name : String) :
    Option (List Nat) :=
  (findTensor? (requests.flatMap Request.inputs) name).map Tensor.dims

/-- Whether every input of a request has the shape first seen under its name. -/
def agrees
    (requests : List Request)
    (request : Request) :
    Bool :=
  request.inputs.all (fun named =>
    (firstShape? requests named.name).all (fun dims => dims = named.tensor.dims))

/-- A first request agrees with none before it. -/
theorem agrees_nil
    (request : Request) :
    agrees [] request = true := by
  simp [agrees, firstShape?, findTensor?]

/-- A request that comes last is the first with the names that nobody carries before it. -/
theorem firstShape?_append_singleton
    (requests : List Request)
    (request : Request)
    (name : String) :
    firstShape? (requests ++ [request]) name =
      (firstShape? requests name).or ((request.input? name).map Tensor.dims) := by
  simp only [firstShape?, findTensor?, Request.input?, List.flatMap_append,
    List.flatMap_singleton, List.find?_append, Option.map_or]

/-- An agreeing request carries a name with the shape that the name had first, if it had one. -/
theorem dims_of_agrees
    {requests : List Request}
    {request : Request}
    (agreed : agrees requests request = true)
    {name : String}
    {tensor : Tensor}
    (carried : request.input? name = some tensor) :
    ∀ dims ∈ firstShape? requests name, dims = tensor.dims := by
  intro dims isFirst
  obtain ⟨named, isNamed, isTensor⟩ := Option.map_eq_some_iff.mp carried
  have isName : named.name = name := by simpa using List.find?_some isNamed
  have sameShape := List.all_eq_true.mp agreed named (List.mem_of_find?_eq_some isNamed)
  rw [isName, Option.mem_def.mp isFirst] at sameShape
  rw [← isTensor]
  simpa using sameShape

/-- Of some requests, each agrees with those before it. -/
inductive Agreeing : List Request → Prop where
  | nil : Agreeing []
  | snoc
      {requests : List Request}
      {request : Request} :
      Agreeing requests →
      agrees requests request = true →
      Agreeing (requests ++ [request])

/-- Among agreeing requests, whoever carries a name carries it with the shape seen first. -/
theorem Agreeing.firstShape?_eq
    {requests : List Request}
    (agreeing : Agreeing requests)
    {request : Request}
    (member : request ∈ requests)
    {name : String}
    {tensor : Tensor}
    (carried : request.input? name = some tensor) :
    firstShape? requests name = some tensor.dims := by
  induction agreeing with
  | nil => contradiction
  | @snoc requests last agreeing agreed inductionHypothesis =>
      rw [firstShape?_append_singleton]
      rcases List.mem_append.mp member with before | isLast
      · rw [inductionHypothesis before]
        rfl
      · have same : request = last := List.mem_singleton.mp isLast
        subst same
        cases isFirst : firstShape? requests name with
        | none => simp [carried]
        | some dims => simp [dims_of_agrees agreed carried dims isFirst]

namespace ShapeLedger

/-- A ledger holds the shapes first seen among some requests. -/
def Reflects
    (ledger : ShapeLedger)
    (requests : List Request) :
    Prop :=
  ∀ name, ledger.find? name = firstShape? requests name

theorem reflects_empty :
    Reflects .empty [] :=
  fun _ => rfl

/-- Noting a tensor changes nothing but what a new name has. -/
private theorem find?_noteTensor
    (ledger : ShapeLedger)
    (named : NamedTensor)
    (name : String) :
    (ledger.noteTensor named).find? name =
      (ledger.find? name).or
        (if named.name = name then some named.tensor.dims else none) := by
  unfold noteTensor
  split
  · next isHeld =>
      obtain ⟨dims, isDims⟩ := Option.isSome_iff_exists.mp isHeld
      by_cases same : named.name = name
      · rw [← same, isDims]
        rfl
      · simp [same]
  · next isNew =>
      have absent : ledger.find? named.name = none :=
        Option.not_isSome_iff_eq_none.mp isNew
      rw [Directory.find?_insert]
      by_cases same : named.name = name
      · simp [← same, absent]
      · simp [same, Ne.symm same]

/-- Of several tensors that are noted, the first of a name counts, if it has no shape yet. -/
private theorem find?_noteAll
    (tensors : List NamedTensor)
    (ledger : ShapeLedger)
    (name : String) :
    (tensors.foldl noteTensor ledger).find? name =
      (ledger.find? name).or ((findTensor? tensors name).map Tensor.dims) := by
  induction tensors generalizing ledger with
  | nil => simp [findTensor?]
  | cons named tensors inductionHypothesis =>
      rw [List.foldl_cons, inductionHypothesis, find?_noteTensor, Option.or_assoc]
      congr 1
      by_cases same : named.name = name
      · simp [findTensor?, same]
      · simp [findTensor?, same]

variable {ledger : ShapeLedger}
variable {requests : List Request}

/-- A request that is noted comes behind those noted before. -/
theorem Reflects.note
    (reflects : ledger.Reflects requests)
    (request : Request) :
    (ledger.note request).Reflects (requests ++ [request]) := by
  intro name
  rw [ShapeLedger.note, find?_noteAll, reflects name]
  simp only [firstShape?, findTensor?, List.flatMap_append, List.flatMap_singleton,
    List.find?_append, Option.map_or]

/-- What fits a ledger is what agrees with the requests noted. -/
theorem Reflects.fits
    (reflects : ledger.Reflects requests)
    (request : Request) :
    ledger.fits request = agrees requests request := by
  unfold ShapeLedger.fits agrees
  congr 1
  funext named
  rw [fitsTensor, reflects named.name]
  cases firstShape? requests named.name <;> rfl

end ShapeLedger

end InferenceBatching
