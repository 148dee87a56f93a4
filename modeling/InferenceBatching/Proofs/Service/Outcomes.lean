import InferenceBatching.Proofs.Batch.Order
import InferenceBatching.Proofs.Service.Custody

namespace InferenceBatching

/-!
# Whose outcome is whose

A backend answers without saying to which request an outcome belongs: positions tell.
The requests of a batch are ended in the order of its positions, padding left out, and
each with what the answer has at the same place.
-/

/-- How the request at a place in its batch ends when the backend has answered. -/
inductive BatchRun.Ending
    (run : BatchRun)
    (answer : BackendAnswer)
    (index : Nat)
    (entry : QueueEntry) :
    Outcome → Prop where
  | succeeded
      {rows : List RowOutcome}
      {tensors outputs : List NamedTensor}
      (answered : answer = .rows rows)
      (isRow : rows[index]? = some (.outputs tensors))
      (selected :
        outputs =
          if entry.request.requestedOutputs = [] then
            tensors
          else
            tensors.filter (fun output => output.name ∈ entry.request.requestedOutputs)) :
      Ending run answer index entry
        (.succeeded {
          request := entry.request.id
          outputs := outputs
          queued := run.dispatchedAt - entry.enqueuedAt
          computed := run.computed
          batchSize := run.size })
  | failed
      {rows : List RowOutcome}
      {message : String}
      (answered : answer = .rows rows)
      (isRow : rows[index]? = some (.failed message)) :
      Ending run answer index entry (.failed (.backendExecution message))
  | missing
      {rows : List RowOutcome}
      (answered : answer = .rows rows)
      (beyond : rows.length ≤ index) :
      Ending run answer index entry
        (.failed (.backendExecution "backend returned no outcome for request"))
  | batchFailed
      {message : String}
      (answered : answer = .failed message) :
      Ending run answer index entry (.failed (.backendExecution message))
  | panicked
      {payload : PanicPayload}
      (answered : answer = .panicked payload) :
      Ending run answer index entry
        (.failed (.backendExecution ("backend panicked: " ++ payload.message)))

namespace BatchRun

variable {run : BatchRun}
variable {entries : List QueueEntry}
variable {index : Nat}
variable {entry : QueueEntry}

/-- The requests of a batch take the outcomes one after the other. -/
private theorem getElem?_deliverRows
    (isEntry : entries[index]? = some entry)
    (rows : List RowOutcome) :
    (run.deliverRows entries rows)[index]? =
      some { request := entry.request, outcome := run.outcomeOf entry rows[index]? } := by
  induction entries generalizing index rows with
  | nil => contradiction
  | cons first entries inductionHypothesis =>
      cases index with
      | zero =>
          have same : first = entry := Option.some.inj isEntry
          rw [deliverRows, List.getElem?_cons_zero, same, List.head?_eq_getElem?]
      | succ index =>
          rw [deliverRows, List.getElem?_cons_succ, inductionHypothesis isEntry rows.tail,
            List.getElem?_tail]

private theorem getElem?_failBatch
    (isEntry : entries[index]? = some entry)
    (message : String) :
    (failBatch entries message)[index]? =
      some { request := entry.request, outcome := .failed (.backendExecution message) } := by
  simp [failBatch, Failure.all, requestsOf, Failure.toDelivery, isEntry]

/-- A request has the end that the outcome at its place makes. -/
private theorem ending_outcomeOf
    (run : BatchRun)
    (entry : QueueEntry)
    (rows : List RowOutcome)
    (index : Nat) :
    run.Ending (.rows rows) index entry (run.outcomeOf entry rows[index]?) := by
  unfold outcomeOf
  split
  · next tensors isRow =>
      refine .succeeded rfl isRow ?_
      simp only [selectOutputs, List.isEmpty_iff, List.contains_eq_mem]
  · next message isRow => exact .failed rfl isRow
  · next isRow => exact .missing rfl (List.getElem?_eq_none_iff.mp isRow)

/-- The request at a place is delivered at that place, with the end that is due to it. -/
theorem ending_deliveries
    (isEntry : entries[index]? = some entry)
    (answer : BackendAnswer) :
    ∃ outcome,
      (run.deliveries entries answer)[index]? =
          some { request := entry.request, outcome := outcome } ∧
        run.Ending answer index entry outcome := by
  cases answer with
  | rows rows => exact ⟨_, getElem?_deliverRows isEntry rows, ending_outcomeOf run entry rows index⟩
  | failed message => exact ⟨_, getElem?_failBatch isEntry message, .batchFailed rfl⟩
  | panicked payload => exact ⟨_, getElem?_failBatch isEntry _, .panicked rfl⟩

end BatchRun

/--
A batch lists its carriers in one order: the k-th waiting request, request, id and record
are those of the k-th carrier, and so is the k-th end, whatever the backend answers.
-/
structure Batch.InStep
    (batch : Batch)
    (run : BatchRun)
    (answer : BackendAnswer) :
    Prop where
  queueEntries : batch.queueEntries.length = batch.requestCount
  requests : batch.requests.length = batch.requestCount
  requestIds : batch.requestIds.length = batch.requestCount
  records : batch.records.length = batch.requestCount
  deliveries : (run.deliveries batch.queueEntries answer).length = batch.requestCount
  carrier :
    ∀ (index : Nat) (entry : BatchEntry),
      batch.carriers[index]? = some entry →
        ∃ queued outcome,
          entry.queued? = some queued ∧
            batch.queueEntries[index]? = some queued ∧
            batch.requests[index]? = some queued.request ∧
            batch.requestIds[index]? = some queued.request.id ∧
            batch.records[index]? =
              some {
                request := queued.request.id
                slot? := entry.slot?
                sequence? := queued.request.sequence?
                ends := queued.request.ends } ∧
            (run.deliveries batch.queueEntries answer)[index]? =
              some { request := queued.request, outcome := outcome } ∧
            run.Ending answer index queued outcome

theorem Batch.inStep
    (batch : Batch)
    (run : BatchRun)
    (answer : BackendAnswer) :
    batch.InStep run answer where
  queueEntries := batch.length_queueEntries
  requests := batch.length_requests
  requestIds := by rw [requestIds, List.length_map, length_requests]
  records := batch.length_records
  deliveries := by
    rw [← List.length_map Delivery.request, run.map_request_deliveries, requestsOf,
      List.length_map, length_queueEntries]
  carrier := by
    intro index entry isCarrier
    obtain ⟨queued, isQueued⟩ := queued_of_carrier (List.mem_of_getElem? isCarrier)
    have isEntry : batch.queueEntries[index]? = some queued := by
      rw [getElem?_queueEntries isCarrier, isQueued]
    have isRequest : batch.requests[index]? = some queued.request := by
      rw [getElem?_requests isCarrier, BatchEntry.request?, isQueued, Option.map_some]
    obtain ⟨outcome, isDelivered, ending⟩ := BatchRun.ending_deliveries isEntry answer
    refine ⟨queued, outcome, isQueued, isEntry, isRequest, ?_, ?_, isDelivered, ending⟩
    · rw [requestIds, List.getElem?_map, isRequest, Option.map_some]
    · rw [getElem?_records isCarrier, recordOf?, BatchEntry.request?, isQueued]
      rfl

end InferenceBatching
