import InferenceBatching.Proofs.Batch.Order
import InferenceBatching.Proofs.Batch.Stacking
import InferenceBatching.Proofs.Dynamic.Conservation
import InferenceBatching.Proofs.Dynamic.Selection
import InferenceBatching.Proofs.Run.Operation
import InferenceBatching.Proofs.Sequence.Dispatch

namespace InferenceBatching

/-!
# Batches that stack

Either grouping admits a request to a batch only if it agrees with those admitted
before. So the requests of a batch agree, whatever the batcher has been through, and
each input of the batch stacks if its tensors share an element type.
-/

/-- The requests taken agree, and the ledger stands for them. -/
private def Selection.Agrees
    (selection : Selection) :
    Prop :=
  selection.shapes.Reflects (requestsOf selection.taken) ∧
    Agreeing (requestsOf selection.taken)

/-- An entry is taken only if it agrees with those taken before. -/
private theorem Selection.agrees_consider
    (inputs : List InputSpec)
    (selection : Selection)
    (agrees : selection.Agrees)
    (entry : QueueEntry) :
    (consider inputs selection entry).Agrees := by
  obtain ⟨reflects, agreeing⟩ := agrees
  unfold consider
  split
  · exact ⟨reflects, agreeing⟩
  · split
    · next fits =>
        rw [reflects.fits] at fits
        refine ⟨?_, ?_⟩ <;> simp only [requestsOf, List.map_append, List.map_cons, List.map_nil]
        · exact reflects.note entry.request
        · exact agreeing.snoc fits
    · exact ⟨reflects, agreeing⟩

/-- The requests that a dynamic batcher selects agree. -/
theorem DynamicBatcher.agreeing_select
    (batcher : DynamicBatcher)
    (limit now : Nat) :
    Agreeing (requestsOf (batcher.select limit now).taken) := by
  have agrees : (batcher.select limit now).Agrees := by
    refine select_induction ⟨ShapeLedger.reflects_empty, .nil⟩ ?_ now
    intro selection queue entry level _ _ agrees
    exact Selection.agrees_consider batcher.inputs { selection with queue := queue } agrees entry
  exact agrees.2

/-- The requests of a dynamic batch agree. -/
theorem DynamicBatcher.agreeing_attempt
    (batcher : DynamicBatcher)
    (instanceIndex now : Nat) :
    ∀ batch ∈ (batcher.attempt instanceIndex now).batch?, Agreeing batch.requests := by
  refine attempt_cases
    (motive := fun formation => ∀ batch ∈ formation.batch?, Agreeing batch.requests) ?_ ?_ ?_
  · intro phase wakeAt? batch isBatch
    contradiction
  · intro limit batch isBatch
    obtain ⟨_, isTaken, _⟩ :=
      (batcher.takeExpired now).batcher.close_eq instanceIndex limit
        (Failure.all (batcher.takeExpired now).requests .timeoutExpired) now
    rw [Option.mem_def.mp isBatch, Option.toList_some, List.flatMap_singleton] at isTaken
    rw [batch.requests_eq, isTaken]
    exact agreeing_select _ limit now
  · intro batch isBatch
    contradiction

/-- The slots of a dispatch add requests that agree with those below them. -/
theorem Dispatch.agreeing_ofSlots
    {shapes : ShapeLedger}
    {taken : List Request}
    (reflects : shapes.Reflects taken)
    (agreeing : Agreeing taken)
    (now index : Nat)
    (slots : List Slot) :
    Agreeing
      (taken ++ (ofSlots now index shapes slots).entries.filterMap BatchEntry.request?) := by
  induction slots generalizing shapes taken index with
  | nil => simpa [ofSlots] using agreeing
  | cons slot slots inductionHypothesis =>
      obtain ⟨noted, further, isDispatch⟩ := ofSlots_cons reflects now index slot slots
      have isRequest :
          (slot.position index taken).request? = (slot.given? taken).map QueueEntry.request := by
        rw [BatchEntry.request?, Slot.queued?_position]
      rw [isDispatch, prepend, List.filterMap_cons, isRequest]
      cases given : slot.given? taken with
      | none =>
          rw [given] at further
          exact inductionHypothesis (by simpa using further) agreeing (index + 1)
      | some head =>
          rw [given] at further
          have fits := (Slot.given?_eq_some.mp given).2.2.2
          have later := inductionHypothesis further (agreeing.snoc fits) (index + 1)
          rw [List.append_assoc] at later
          exact later

/-- The requests of a sequence batch agree. -/
theorem BacklogBatcher.agreeing_formBatch
    (batcher : BacklogBatcher)
    (instanceIndex now : Nat) :
    ∀ batch ∈ (batcher.formBatch instanceIndex now).batch?, Agreeing batch.requests := by
  intro batch isBatch
  unfold formBatch at isBatch
  split at isBatch
  · contradiction
  · dsimp only at isBatch
    split at isBatch
    · contradiction
    · next table _ =>
        split at isBatch
        · have same := Option.some.inj isBatch
          rw [← same]
          exact Dispatch.agreeing_ofSlots ShapeLedger.reflects_empty .nil now 0 table.slots
        · contradiction

namespace Batcher

/-- The requests of a batch agree, whatever the batcher has been through. -/
theorem agreeing_attempt
    (batcher : Batcher)
    (instanceIndex now : Nat) :
    ∀ batch ∈ (batcher.attempt instanceIndex now).batch?, Agreeing batch.requests := by
  intro batch isBatch
  cases batcher with
  | dynamic batcher =>
      rw [attempt_dynamic] at isBatch
      exact batcher.agreeing_attempt instanceIndex now batch isBatch
  | sequence batcher =>
      rw [attempt_sequence] at isBatch
      exact batcher.agreeing_formBatch instanceIndex now batch isBatch

/--
The batches that are formed stack, by any lawful operations on any tensors, as batchers
look at nothing of a tensor but its extents. Whoever carries an input carries it with one
shape. If all that carry it do so with one element type as well, then the input stacks to a
tensor with a row for each position of the batch, in order: the tensor carried there, or zeros.
-/
theorem formed_batches_stack
    {Value Element : Type}
    {tensors : TensorOperations Value}
    {view : TensorView Value Element}
    (lawful : tensors.Lawful view)
    {input? : Request → String → Option Value}
    (sameExtents :
      ∀ request name,
        (input? request name).map view.dims = (request.input? name).map Tensor.dims)
    (config : ModelConfig)
    (start : Nat)
    (kind : BatchKind)
    (operations : List Operation)
    (instanceIndex now : Nat) :
    let batcher := (ofKind config start kind).after operations
    ∀ batch ∈ (batcher.attempt instanceIndex now).batch?,
      ∀ name,
        (∃ request ∈ batch.requests, (input? request name).isSome = true) →
          ∃ dims,
            (∀ request ∈ batch.requests, ∀ tensor ∈ input? request name,
              view.dims tensor = dims) ∧
              ∀ elementType,
                (∀ request ∈ batch.requests, ∀ tensor ∈ input? request name,
                  view.elementType tensor = elementType) →
                ∃ stacked,
                  batch.stackedWith tensors input? name = .ok stacked ∧
                    view.dims stacked = batch.size :: dims ∧
                    view.elementType stacked = elementType ∧
                    ∀ index entry,
                      batch.entries[index]? = some entry →
                        ∃ row,
                          view.row? stacked index = some row ∧
                            view.dims row = dims ∧
                            view.elementType row = elementType ∧
                            (∀ tensor ∈ Batch.carried? input? entry name, row = tensor) ∧
                            (Batch.carried? input? entry name = none → view.IsZero row) := by
  intro batcher batch isBatch name isCarried
  have agreeing := batcher.agreeing_attempt instanceIndex now batch isBatch
  have extents :
      ∀ request tensor,
        input? request name = some tensor →
          ∃ held, request.input? name = some held ∧ held.dims = view.dims tensor := by
    intro request tensor isTensor
    have same := sameExtents request name
    rw [isTensor, Option.map_some, eq_comm, Option.map_eq_some_iff] at same
    exact same
  obtain ⟨carrier, isCarrier, carried⟩ := isCarried
  obtain ⟨first, isFirst⟩ := Option.isSome_iff_exists.mp carried
  obtain ⟨firstHeld, isFirstHeld, firstDims⟩ := extents carrier first isFirst
  have sameDims :
      ∀ request ∈ batch.requests, ∀ tensor ∈ input? request name,
        view.dims tensor = view.dims first := by
    intro request member tensor isTensor
    obtain ⟨held, isHeld, heldDims⟩ := extents request tensor (Option.mem_def.mp isTensor)
    have isShape := agreeing.firstShape?_eq member isHeld
    rw [agreeing.firstShape?_eq isCarrier isFirstHeld] at isShape
    rw [← heldDims, ← firstDims, Option.some.inj isShape]
  refine ⟨view.dims first, sameDims, ?_⟩
  intro elementType sameType
  refine Batch.stackedWith_of_carries lawful ⟨carrier, isCarrier, carried⟩ ?_
  intro request member tensor isTensor
  exact ⟨sameDims request member tensor isTensor, sameType request member tensor isTensor⟩

/--
Of three sequences the first does not carry the input, the second carries it twice, and
the third carries it in another shape and waits: zeros stand in the rows around the second.
-/
theorem formed_batches_stack_of_gaps :
    let config : ModelConfig :=
      { name := "model"
        sequenceBatching? := some { maxSequences := 3 } }
    let sends := fun (name : String) (elements : List Int) =>
      ({ name := name, tensor := .ofElements [elements.length] .int64 elements } : NamedTensor)
    let operations : List Operation :=
      [.enqueue { id := 1, sequence? := some 7, starts := true, inputs := [sends "y" [1]] } 0,
        .enqueue
          { id := 2
            sequence? := some 8
            starts := true
            inputs := [sends "x" [5, 6], sends "x" [3, 4]] } 0,
        .enqueue { id := 3, sequence? := some 9, starts := true, inputs := [sends "x" [9]] } 0]
    let batcher := (ofKind config 0 .sequence).after operations
    ∃ batch stacked,
      (batcher.attempt 0 1).batch? = some batch ∧
        batch.requestIds = [1, 2] ∧
        batch.stackedInput "x" = .ok stacked ∧
        stacked.dims = [3, 2] ∧
        stacked.row? 1 = some (.ofElements [2] .int64 [5, 6]) ∧
        ∃ row, stacked.row? 2 = some row ∧ ∀ element ∈ row.elements, element = 0 := by
  intro config sends operations batcher
  let batch : Batch :=
    { form := .sequence {}
      instanceIndex := 0
      formedAt := 1
      entries :=
        [.seated 0 (.enter
            { id := 1, sequence? := some 7, starts := true, inputs := [sends "y" [1]] } {} 0),
          .seated 1 (.enter
            { id := 2
              sequence? := some 8
              starts := true
              inputs := [sends "x" [5, 6], sends "x" [3, 4]] } {} 0),
          .padding 2 (some 9)] }
  have isFormed : (batcher.attempt 0 1).batch? = some batch := by decide
  have isCarried : ∃ request ∈ batch.requests, (request.input? "x").isSome = true := by decide
  obtain ⟨dims, sameDims, joins⟩ :=
    formed_batches_stack Tensor.lawful_operations (fun _ _ => rfl) config 0 .sequence operations
      0 1 batch isFormed "x" isCarried
  have sameType :
      ∀ request ∈ batch.requests, ∀ tensor ∈ request.input? "x",
        tensor.elementType = .int64 := by
    decide
  obtain ⟨stacked, isStacked, stackedDims, _, rows⟩ := joins .int64 sameType
  obtain ⟨second, isSecond, _, _, isCarriedThere, _⟩ := rows 1 _ rfl
  obtain ⟨third, isThird, _, _, _, isPadded⟩ := rows 2 _ rfl
  have isTensor := isCarriedThere (.ofElements [2] .int64 [5, 6]) rfl
  obtain ⟨carrier, isCarrier, isInput⟩ :
      ∃ request ∈ batch.requests,
        request.input? "x" = some (.ofElements [2] .int64 [5, 6]) := by
    decide
  have isDims := sameDims carrier isCarrier _ isInput
  exact ⟨batch, stacked, isFormed, by decide, isStacked, stackedDims.trans (isDims ▸ rfl),
    isSecond.trans (congrArg some isTensor), third, isThird, isPadded rfl⟩

end Batcher

end InferenceBatching
