import InferenceBatching.Proofs.Sequence.Run
import InferenceBatching.Proofs.Sequence.Stranding
import InferenceBatching.Proofs.Sequence.Waiting

namespace InferenceBatching

/-!
# Requests that come after the end

What is stranded behind the end of its sequence waits until its lane or slot times
out, until the end is back and it is told that there is no such sequence, or until
it is handed over. Nobody else is told so of a request that was let in.
-/

namespace SequenceBatcher

section Handover

variable {batcher : SequenceBatcher}
variable {entry : QueueEntry}

/-- Tearing down several slots hands over what was pending on each of them. -/
private theorem mem_tearDownEach
    {table : SlotTable}
    (indexed : table.Indexed)
    {index : Nat}
    {held : Slot}
    (found : table.slot? index = some held)
    (used : held.state ≠ .free)
    {indices : List Nat}
    (isTornDown : index ∈ indices)
    (isPending : entry ∈ held.pending) :
    entry ∈ (table.tearDownEach indices).1 := by
  induction indices generalizing table with
  | nil => contradiction
  | cons first indices inductionHypothesis =>
      simp only [SlotTable.tearDownEach]
      by_cases isFirst : index = first
      · rw [← isFirst, indexed.beginTeardown_eq found used]
        exact List.mem_append_left _ isPending
      · refine List.mem_append_right _ (inductionHypothesis (indexed.beginTeardown first) ?_
          ((List.mem_cons.mp isTornDown).resolve_left isFirst))
        have untouched :
            (table.slots.modify first Slot.tearDown)[index]? = table.slots[index]? := by
          simp [Ne.symm isFirst]
        exact untouched.trans found

/-- Halting an instance hands over what was pending on its slots. -/
theorem mem_requests_halt
    (coherent : batcher.Coherent)
    {seat : Seat}
    {held : Slot}
    (found : batcher.liveSlot? seat = some held)
    (isPending : entry ∈ held.pending) :
    entry.request ∈ (batcher.halt seat.instanceIndex).requests := by
  obtain ⟨owner, live, isSlot⟩ := liveSlot?_eq_some.mp found
  have used : held.state ≠ .free := by
    intro free
    rw [(coherent.sound_of_liveSlot found).freePending free] at isPending
    contradiction
  obtain ⟨sequence, carries⟩ := (coherent.sound_of_liveSlot found).usedSequence used
  have bound := coherent.seat_of_liveSlot found carries
  have isTornDown : seat.slot ∈
      (batcher.bindingsOf seat.instanceIndex).map (fun binding => binding.2.slot) := by
    refine List.mem_map.mpr ⟨(sequence, seat), ?_, rfl⟩
    simpa [bindingsOf, seat?, Directory.find?_eq_some_iff] using bound
  rw [halt_eq]
  simp only [table?_of_live live, Option.map_some, Option.getD_some]
  exact List.mem_map_of_mem
    (mem_tearDownEach (coherent.indexed_of_live live) isSlot used isTornDown isPending)

/-- What is stranded waits. -/
theorem IsStranded.mem_pendingEntries
    (stranded : batcher.IsStranded entry) :
    entry ∈ batcher.pendingEntries := by
  rcases stranded with ⟨lane, inBacklog, behind⟩ | ⟨seat, slot, found, onSlot⟩
  · exact List.mem_append_left _
      (List.mem_flatMap.mpr ⟨lane, inBacklog, behindEnd_subset _ behind⟩)
  · obtain ⟨owner, live, isSlot⟩ := liveSlot?_eq_some.mp found
    have isInstance := List.mem_of_getElem? (live?_eq_some.mp live).1
    exact List.mem_append_right _ (List.mem_flatMap.mpr ⟨owner, isInstance,
      List.mem_flatMap.mpr ⟨slot, List.mem_of_getElem? isSlot, Slot.stranded_subset onSlot⟩⟩)

end Handover

/-- What an operation tells a request, or its callers, so that it waits no longer. -/
def GivesUp
    (batcher : SequenceBatcher)
    (request : Request) :
    Operation →
    Prop
  | .enqueue _ _ => False
  | .form instanceIndex now =>
      ∃ failure ∈ (batcher.formBatch instanceIndex now).failed, failure.request = request
  | .complete instanceIndex records now =>
      ∀ failures,
        (batcher.complete instanceIndex records now).verdict = .settled failures →
          ∃ failure ∈ failures, failure.request = request
  | .halt instanceIndex => request ∈ (batcher.halt instanceIndex).requests
  | .drain => request ∈ batcher.drain.requests

section Runs

variable {batcher : SequenceBatcher}
variable {entry : QueueEntry}

/-- What is stranded after an operation was so before, or has just been let in behind an end. -/
theorem stranded_perform
    (coherent : batcher.Coherent)
    {operation : Operation}
    (stranded : (batcher.perform operation).IsStranded entry) :
    batcher.IsStranded entry ∨
      ∃ request now sequence,
        operation = .enqueue request now ∧
          (batcher.enqueue request now).rejection? = none ∧
          entry = batcher.entryFor request now ∧
          request.sequence? = some sequence ∧
          batcher.EndWaits sequence := by
  cases operation with
  | enqueue request now =>
      rw [perform] at stranded
      cases answered : (batcher.enqueue request now).rejection? with
      | some failure =>
          obtain ⟨marks, isLast⟩ := enqueue_marks coherent answered
          rw [isLast] at stranded
          exact Or.inl stranded
      | none =>
          obtain ⟨marks, after, others, move, isLast⟩ := enqueue_move coherent answered
          rw [isLast] at stranded
          rcases move.stranded_before (coherent.withMarks marks) stranded with
            before | ⟨isNew, sequence, belongs, endWaits⟩
          · exact Or.inl before
          · have isEntry : entry = batcher.entryFor request now := by simpa using isNew
            rw [isEntry] at belongs
            exact Or.inr ⟨request, now, sequence, rfl, answered, isEntry, belongs, endWaits⟩
  | form instanceIndex now =>
      have phases := formBatch_phases coherent instanceIndex now
      rw [perform] at stranded
      generalize batcher.formBatch instanceIndex now = formation at phases stranded
      cases phases with
      | halted halted => exact Or.inl stranded
      | live live expires onlyFailures isFailed dispatches placed =>
          have swept := dispatches.stranded_before (expires.coherent coherent)
            (by simp [Formation.dispatches_eq, List.filterMap_flatMap,
              Batch.filterMap_admitted_events]) stranded
          exact Or.inl (expires.stranded_before coherent
            (Event.filterMap_of_isFailure onlyFailures).1 swept)
  | complete instanceIndex records now =>
      obtain ⟨events, _, moves, _, _, noAdmission, _⟩ :=
        complete_moves coherent instanceIndex records now
      exact Or.inl (moves.stranded_before coherent noAdmission stranded)
  | halt instanceIndex =>
      rcases stranded with ⟨lane, inBacklog, behind⟩ | ⟨seat, slot, found, onSlot⟩
      · rw [perform, backlog_halt] at inBacklog
        exact Or.inl (Or.inl ⟨lane, inBacklog, behind⟩)
      · rw [perform, liveSlot?_halt] at found
        split at found
        · contradiction
        · exact Or.inl (Or.inr ⟨seat, slot, found, onSlot⟩)
  | drain =>
      have nothing := stranded.mem_pendingEntries
      rw [perform, (drain_pending coherent).2] at nothing
      contradiction

/-- What is stranded is so after an operation, unless the operation gives it up. -/
theorem gaveUp_perform
    (coherent : batcher.Coherent)
    (stranded : batcher.IsStranded entry)
    (operation : Operation) :
    (batcher.perform operation).IsStranded entry ∨ batcher.GivesUp entry.request operation := by
  cases operation with
  | enqueue request now =>
      refine Or.inl ?_
      rw [perform]
      cases answered : (batcher.enqueue request now).rejection? with
      | some failure =>
          obtain ⟨marks, isLast⟩ := enqueue_marks coherent answered
          rw [isLast]
          exact stranded
      | none =>
          obtain ⟨marks, after, others, move, isLast⟩ := enqueue_move coherent answered
          rw [isLast]
          rcases move.stranded_after (coherent.withMarks marks) stranded with
            still | ⟨error, failed⟩
          · exact still
          · have isOther := List.mem_singleton.mp failed
            contradiction
  | form instanceIndex now =>
      have phases := formBatch_phases coherent instanceIndex now
      rw [perform, GivesUp]
      generalize batcher.formBatch instanceIndex now = formation at phases
      cases phases with
      | halted halted => exact Or.inl stranded
      | live live expires onlyFailures isFailed dispatches placed =>
          rcases expires.stranded_after coherent stranded with still | ⟨error, failed⟩
          · rcases dispatches.stranded_after (expires.coherent coherent) still with
              left | ⟨error, failed⟩
            · exact Or.inl left
            · have noFailure : formation.dispatches.filterMap Event.failed? = [] := by
                simp [Formation.dispatches_eq, List.filterMap_flatMap,
                  Batch.filterMap_failed_events]
              have isFailure := List.filterMap_eq_nil_iff.mp noFailure _ failed
              contradiction
          · refine Or.inr ⟨{ request := entry.request, error := error }, ?_, rfl⟩
            rw [← isFailed]
            exact List.mem_filterMap.mpr ⟨_, failed, rfl⟩
  | complete instanceIndex records now =>
      obtain ⟨events, _, moves, _, _, _, _, isFailed⟩ :=
        complete_moves coherent instanceIndex records now
      rcases moves.stranded_after coherent stranded with still | ⟨error, failed⟩
      · exact Or.inl still
      · refine Or.inr (fun failures isSettled => ?_)
        rw [(isFailed failures isSettled).2]
        exact ⟨{ request := entry.request, error := error },
          List.mem_filterMap.mpr ⟨_, failed, rfl⟩, rfl⟩
  | halt instanceIndex =>
      rcases stranded with ⟨lane, inBacklog, behind⟩ | ⟨seat, slot, found, onSlot⟩
      · refine Or.inl (Or.inl ⟨lane, ?_, behind⟩)
        rwa [perform, backlog_halt]
      · by_cases within : seat.instanceIndex = instanceIndex
        · rw [← within]
          exact Or.inr (mem_requests_halt coherent found (Slot.stranded_subset onSlot))
        · refine Or.inl (Or.inr ⟨seat, slot, ?_, onSlot⟩)
          rwa [perform, liveSlot?_halt, if_neg within]
  | drain =>
      refine Or.inr ?_
      rw [GivesUp, (drain_pending coherent).1]
      exact List.mem_map_of_mem stranded.mem_pendingEntries

/-- What is stranded after a run was so before it, or was let in behind an end. -/
theorem stranded_after
    (coherent : batcher.Coherent)
    (operations : List Operation)
    (stranded : (batcher.after operations).IsStranded entry) :
    batcher.IsStranded entry ∨
      ∃ earlier request arrival later sequence,
        operations = earlier ++ .enqueue request arrival :: later ∧
          ((batcher.after earlier).enqueue request arrival).rejection? = none ∧
          entry = (batcher.after earlier).entryFor request arrival ∧
          request.sequence? = some sequence ∧
          (batcher.after earlier).EndWaits sequence := by
  rcases before_or_caused Coherent Coherent.perform
      (fun reached => reached.IsStranded entry)
      (fun reached operation =>
        ∃ request arrival sequence,
          operation = .enqueue request arrival ∧
            (reached.enqueue request arrival).rejection? = none ∧
            entry = reached.entryFor request arrival ∧
            request.sequence? = some sequence ∧
            reached.EndWaits sequence)
      stranded_perform coherent stranded with
    before | ⟨earlier, _, later, isSplit, request, arrival, sequence, isEnqueue, entered⟩
  · exact Or.inl before
  · rw [isEnqueue] at isSplit
    exact Or.inr ⟨earlier, request, arrival, later, sequence, isSplit, entered⟩

/-- What is stranded is so after a run, unless an operation of the run gives it up. -/
theorem gaveUp_after
    (coherent : batcher.Coherent)
    (stranded : batcher.IsStranded entry)
    (operations : List Operation) :
    (batcher.after operations).IsStranded entry ∨
      ∃ between operation rest,
        operations = between ++ operation :: rest ∧
          (batcher.after between).GivesUp entry.request operation :=
  after_or_ended Coherent Coherent.perform
    (fun reached => reached.IsStranded entry)
    (fun reached operation => reached.GivesUp entry.request operation)
    gaveUp_perform coherent stranded operations

end Runs

section Answers

variable {batcher : SequenceBatcher}
variable {request : Request}
variable {now : Nat}

/-- A START that may not join is told that there is no room. -/
private theorem join_of_starts
    (starts : request.starts = true)
    {sequence : CorrelationId}
    {rejection : Failure}
    (rejected : rejection ∈ (batcher.join sequence request now).rejection?) :
    rejection.error = .queueFull ∨ rejection.error = .noAvailableSlot := by
  rw [join_rejected rejected, if_pos starts] at rejected
  rw [← Option.some.inj rejected]
  dsimp only [noRoom]
  split <;> simp

/-- A START is turned away for its inputs or for want of room, whatever its sequence is doing. -/
theorem enqueue_of_starts
    (starts : request.starts = true)
    {rejection : Failure}
    (rejected : (batcher.enqueue request now).rejection? = some rejection) :
    (∃ message, rejection.error = .invalidRequest message) ∨
      rejection.error = .queueFull ∨ rejection.error = .noAvailableSlot := by
  simp only [enqueue, starts, Bool.not_true, Bool.false_and] at rejected
  split at rejected
  · rw [← Option.some.inj rejected]
    exact Or.inl ⟨_, rfl⟩
  · simp only [Bool.false_eq_true, if_false, if_true] at rejected
    split at rejected
    · rw [← Option.some.inj rejected]
      exact Or.inl ⟨_, rfl⟩
    · exact Or.inr (join_of_starts starts rejected)

/-- When the end of a sequence comes back, everything pending behind it fails. -/
theorem complete_of_end
    (coherent : batcher.Coherent)
    {seat : Seat}
    {slot : Slot}
    {sequence : CorrelationId}
    {id : RequestId}
    (found : batcher.liveSlot? seat = some slot)
    (ending : slot.state = .ending)
    (carries : slot.sequence? = some sequence)
    (inFlight : slot.inFlight? = some id)
    (ends : Bool)
    (now : Nat) :
    let record : DispatchRecord :=
      { request := id, slot? := some seat.slot, sequence? := some sequence, ends := ends }
    (batcher.complete seat.instanceIndex [record] now).verdict =
      .settled (Failure.all (requestsOf slot.pending) (batcher.leftoverError sequence now)) := by
  intro record
  obtain ⟨owner, live, isSlot⟩ := liveSlot?_eq_some.mp found
  have isTable := table?_of_live live
  have isInstance := List.mem_of_getElem? (live?_eq_some.mp live).1
  have checked : batcher.checkSeat seat.instanceIndex record = .ok (sequence, seat.slot) := by
    simp [checkSeat, record, coherent.seat_of_liveSlot found carries]
  obtain ⟨⟨leftovers?, after⟩, completed⟩ :=
    SlotTable.complete_of_held isSlot carries inFlight now
  obtain ⟨held, isHeld, _, _, stage⟩ :=
    (coherent.indexed_of_live live).complete_shape (coherent.slots owner isInstance) completed
  rw [isSlot] at isHeld
  cases isHeld
  rcases stage with ⟨active, _⟩ | ⟨_, isLeft, _⟩
  · rw [ending] at active
    contradiction
  · subst isLeft
    simp only [complete, isTable, settleRecords, settleRecord, checked, record, completed]
    rfl

/-- A report tells only what is stranded that there is no such sequence. -/
theorem stranded_of_settled
    (coherent : batcher.Coherent)
    {instanceIndex : Nat}
    {records : List DispatchRecord}
    {failures : List Failure}
    (isSettled : (batcher.complete instanceIndex records now).verdict = .settled failures)
    {failure : Failure}
    (member : failure ∈ failures)
    {sequence : CorrelationId}
    (isError : failure.error = .sequenceNotFound sequence) :
    ∃ entry,
      failure.request = entry.request ∧
        entry.request.sequence? = some sequence ∧
        batcher.IsStranded entry := by
  obtain ⟨events, _, moves, _, _, noAdmission, _, isFailed⟩ :=
    complete_moves coherent instanceIndex records now
  rw [(isFailed failures isSettled).2] at member
  obtain ⟨event, inEvents, isFailure⟩ := List.mem_filterMap.mp member
  cases event with
  | admitted | dispatched | returned => contradiction
  | failed entry error =>
      rw [← Option.some.inj isFailure] at isError ⊢
      have isNotFound : error = .sequenceNotFound sequence := isError
      subst isNotFound
      obtain ⟨stranded, carried⟩ := moves.stranded_of_notFound coherent noAdmission inEvents
      exact ⟨entry, rfl, carried, stranded⟩

/-- A request that is let in while the end of its sequence waits is stranded. -/
theorem stranded_of_enqueue
    (coherent : batcher.Coherent)
    {sequence : CorrelationId}
    (belongs : request.sequence? = some sequence)
    (accepted : (batcher.enqueue request now).rejection? = none)
    (endWaits : batcher.EndWaits sequence) :
    (batcher.enqueue request now).batcher.IsStranded (batcher.entryFor request now) := by
  obtain ⟨marks, after, others, move, isLast⟩ := enqueue_move coherent accepted
  have placed := move.strands (coherent.withMarks marks) belongs endWaits
  rw [isLast]
  exact placed

end Answers

/--
In every run, a START is not turned away as one of an unknown sequence, and forming a
batch fails no request so. A report does, to requests that were let in while the end
of their sequence waited in their lane or at their active slot; a START is among them
as much as any other request. Whatever is let in like that stays behind the end, and is
never sent off, until its lane or slot times out, it is handed over, or the end comes
back; and then all that is pending behind the end is told that there is no such
sequence, or that it has timed out if its id is marked.
-/
theorem not_found_behind_end
    (config : ModelConfig)
    (start : Nat)
    (operations : List Operation) :
    let reached := (ofConfig config start).after
    let batcher := reached operations
    (∀ request now rejection sequence,
        request.starts = true →
        (batcher.enqueue request now).rejection? = some rejection →
          rejection.error ≠ .sequenceNotFound sequence) ∧
      (∀ instanceIndex now,
        ∀ failure ∈ (batcher.formBatch instanceIndex now).failed,
          ∀ sequence, failure.error ≠ .sequenceNotFound sequence) ∧
      (∀ instanceIndex records now failures,
        (batcher.complete instanceIndex records now).verdict = .settled failures →
          ∀ failure ∈ failures,
            ∀ sequence,
              failure.error = .sequenceNotFound sequence →
                ∃ earlier request arrival later,
                  operations = earlier ++ .enqueue request arrival :: later ∧
                    failure.request = request.arriveAt arrival ∧
                    request.sequence? = some sequence ∧
                    ((reached earlier).enqueue request arrival).rejection? = none ∧
                    (reached earlier).EndWaits sequence) ∧
      (∀ earlier request arrival later sequence,
        operations = earlier ++ .enqueue request arrival :: later →
        request.sequence? = some sequence →
        ((reached earlier).enqueue request arrival).rejection? = none →
        (reached earlier).EndWaits sequence →
          let entered := earlier ++ [.enqueue request arrival]
          batcher.IsStranded ((reached earlier).entryFor request arrival) ∨
            ∃ between operation rest,
              later = between ++ operation :: rest ∧
                (reached (entered ++ between)).GivesUp (request.arriveAt arrival) operation) ∧
      ∀ seat slot sequence id ends now,
        batcher.liveSlot? seat = some slot →
        slot.state = .ending →
        slot.sequence? = some sequence →
        slot.inFlight? = some id →
          let record : DispatchRecord :=
            { request := id, slot? := some seat.slot, sequence? := some sequence, ends := ends }
          (batcher.complete seat.instanceIndex [record] now).verdict =
            .settled
              (Failure.all (requestsOf slot.pending) (batcher.leftoverError sequence now)) := by
  intro reached batcher
  have coherent : ∀ ops, (reached ops).Coherent := fun ops =>
    (coherent_ofConfig config start).after ops
  have chained : ∀ first second, reached (first ++ second) = (reached first).after second :=
    fun first second => List.foldl_append
  refine ⟨?_, ?_, ?_, ?_, ?_⟩
  · intro request now rejection sequence starts rejected
    rcases enqueue_of_starts starts rejected with ⟨message, isError⟩ | isError | isError <;>
      simp [isError]
  · intro instanceIndex now failure member sequence
    cases isLive : batcher.live? instanceIndex with
    | none =>
        simp only [formBatch, isLive] at member
        contradiction
    | some owner =>
        rw [failed_formBatch (by simp [isLive])] at member
        obtain ⟨_, _, _, _, _, cause⟩ :=
          failed_expire_isDue (coherent operations) now failure member
        rcases cause with ⟨isError, _⟩ | ⟨_, _, _, isError, _⟩ <;> simp [isError]
  · intro instanceIndex records now failures isSettled failure member sequence isError
    obtain ⟨entry, isRequest, carried, stranded⟩ :=
      stranded_of_settled (coherent operations) isSettled member isError
    rcases stranded_after (coherent_ofConfig config start) operations stranded with
      atStart | ⟨earlier, request, arrival, later, other, isSplit, accepted, isEntry, belongs,
        endWaits⟩
    · have nothing := atStart.mem_pendingEntries
      rw [pendingEntries_ofConfig] at nothing
      contradiction
    · subst isEntry
      have isSequence : other = sequence := Option.some.inj (belongs.symm.trans carried)
      subst isSequence
      exact ⟨earlier, request, arrival, later, isSplit, isRequest, belongs, accepted, endWaits⟩
  · intro earlier request arrival later sequence isSplit belongs accepted endWaits entered
    have isEntered : reached entered = ((reached earlier).enqueue request arrival).batcher :=
      chained earlier [.enqueue request arrival]
    have stranded := stranded_of_enqueue (coherent earlier) belongs accepted endWaits
    rw [← isEntered] at stranded
    have isRun : operations = entered ++ later := by simp [isSplit, entered]
    rcases gaveUp_after (coherent entered) stranded later with
      still | ⟨between, operation, rest, isLater, givesUp⟩
    · rw [← chained, ← isRun] at still
      exact Or.inl still
    · rw [← chained] at givesUp
      exact Or.inr ⟨between, operation, rest, isLater, givesUp⟩
  · intro seat slot sequence id ends now found ending carries inFlight
    exact complete_of_end (coherent operations) found ending carries inFlight ends now

/-- A START comes too early for a sequence of its own: the end before it waits for its turn. -/
example :
    let config : ModelConfig :=
      { name := "model", sequenceBatching? := some { maxSequences := 1 } }
    let record (request : RequestId) (ends : Bool) : DispatchRecord :=
      { request := request, slot? := some 0, sequence? := some 7, ends := ends }
    let restart : Request := { id := 3, sequence? := some 7, starts := true }
    let batcher := (ofConfig config 0).after
      [.enqueue { id := 1, sequence? := some 7, starts := true } 0,
        .enqueue { id := 2, sequence? := some 7, ends := true } 0,
        .enqueue restart 0,
        .form 0 0,
        .complete 0 [record 1 false] 0,
        .form 0 0]
    config.problem? = none ∧
      (batcher.complete 0 [record 2 true] 0).verdict =
        .settled [{ request := restart.arriveAt 0, error := .sequenceNotFound 7 }] := by
  decide

end SequenceBatcher

end InferenceBatching
