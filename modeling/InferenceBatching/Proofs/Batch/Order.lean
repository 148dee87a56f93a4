import InferenceBatching.Batch.Basic

namespace InferenceBatching

/-!
# The one order of a batch

Requests, ids, records and waiting requests of a batch are listed each by its own
walk over the positions. All of the walks leave out the same positions, so that the
lists are of one length and belong together element by element.
-/

namespace Batch

/-- The positions of a batch that carry a request. -/
def carriers
    (batch : Batch) :
    List BatchEntry :=
  batch.entries.filter (fun entry => !entry.isPadding)

/-- The requests of a batch are those of its waiting requests. -/
theorem requests_eq
    (batch : Batch) :
    batch.requests = requestsOf batch.queueEntries := by
  simp only [requests, requestsOf, queueEntries, List.map_filterMap]
  rfl

/-- Walks that leave out the same positions keep step with one another. -/
private theorem getElem?_filterMap
    {Item : Type}
    {part? : BatchEntry → Option Item}
    (leavesOut : ∀ entry, (part? entry).isSome = !entry.isPadding)
    (entries : List BatchEntry)
    (index : Nat) :
    (entries.filterMap part?)[index]? =
      (entries.filter (fun entry => !entry.isPadding))[index]?.bind part? := by
  induction entries generalizing index with
  | nil => rfl
  | cons entry entries inductionHypothesis =>
      have carries := leavesOut entry
      cases isPart : part? entry with
      | none =>
          rw [isPart, Option.isSome_none] at carries
          rw [List.filterMap_cons_none isPart, List.filter_cons, ← carries,
            if_neg Bool.false_ne_true, inductionHypothesis]
      | some part =>
          rw [isPart, Option.isSome_some] at carries
          rw [List.filterMap_cons_some isPart, List.filter_cons, ← carries, if_pos rfl]
          cases index with
          | zero => simp [isPart]
          | succ index =>
              rw [List.getElem?_cons_succ, List.getElem?_cons_succ, inductionHypothesis]

/-- A walk that leaves out the padding finds something at each of the other positions. -/
private theorem length_filterMap
    {Item : Type}
    {part? : BatchEntry → Option Item}
    (leavesOut : ∀ entry, (part? entry).isSome = !entry.isPadding)
    (batch : Batch) :
    (batch.entries.filterMap part?).length = batch.requestCount := by
  rw [List.length_filterMap_eq_countP, requestCount, ← List.countP_eq_length_filter]
  exact List.countP_congr (fun entry _ => by rw [leavesOut entry])

theorem length_queueEntries
    (batch : Batch) :
    batch.queueEntries.length = batch.requestCount :=
  length_filterMap (by intro entry; simp [BatchEntry.isPadding]) batch

theorem length_requests
    (batch : Batch) :
    batch.requests.length = batch.requestCount := by
  rw [requests_eq, requestsOf, List.length_map, length_queueEntries]

theorem length_records
    (batch : Batch) :
    batch.records.length = batch.requestCount :=
  length_filterMap (by
    intro entry
    simp [BatchEntry.isPadding, BatchEntry.request?, recordOf?]) batch

/-- A carrier carries a waiting request. -/
theorem queued_of_carrier
    {batch : Batch}
    {entry : BatchEntry}
    (isCarrier : entry ∈ batch.carriers) :
    ∃ queued, entry.queued? = some queued := by
  have carries := (List.mem_filter.mp isCarrier).2
  rw [← Option.isSome_iff_exists]
  simpa [BatchEntry.isPadding] using carries

section Position

variable {batch : Batch}
variable {index : Nat}
variable {entry : BatchEntry}

/-- The position of a waiting request in its list. -/
theorem getElem?_queueEntries
    (isCarrier : batch.carriers[index]? = some entry) :
    batch.queueEntries[index]? = entry.queued? := by
  rw [queueEntries, getElem?_filterMap (by intro entry; simp [BatchEntry.isPadding])]
  exact isCarrier ▸ rfl

theorem getElem?_requests
    (isCarrier : batch.carriers[index]? = some entry) :
    batch.requests[index]? = entry.request? := by
  rw [requests, getElem?_filterMap (by
    intro entry
    simp [BatchEntry.isPadding, BatchEntry.request?])]
  exact isCarrier ▸ rfl

theorem getElem?_records
    (isCarrier : batch.carriers[index]? = some entry) :
    batch.records[index]? = recordOf? entry := by
  rw [records, getElem?_filterMap (by
    intro entry
    simp [BatchEntry.isPadding, BatchEntry.request?, recordOf?])]
  exact isCarrier ▸ rfl

end Position

end Batch

end InferenceBatching
