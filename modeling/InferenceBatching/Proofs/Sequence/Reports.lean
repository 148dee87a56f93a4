import InferenceBatching.Proofs.Sequence.History

namespace InferenceBatching

/-!
# Reports

A batch is awaited from the moment it is formed until its instance reports it or is
halted. Until then the slots hold its flights, whatever other instances do, and so
its report is never refused.
-/

/-- Flights that no event ends stay under way. -/
theorem Event.sublist_noteFlights
    {events : List Event}
    {kept flights : List Flight}
    (underWay : kept.Sublist flights)
    (spared : ∀ flight ∈ events.filterMap Event.returned?, flight ∉ kept) :
    kept.Sublist (events.foldl Event.noteFlights flights) := by
  induction events generalizing flights with
  | nil => exact underWay
  | cons event events inductionHypothesis =>
      cases event with
      | returned flight =>
          have notEnded : kept.erase flight = kept :=
            List.erase_of_not_mem (spared flight (by simp))
          have stillUnderWay := underWay.erase flight
          rw [notEnded] at stillUnderWay
          exact inductionHypothesis stillUnderWay
            (fun other member => spared other (by simp_all))
      | admitted | dispatched | failed =>
          exact inductionHypothesis (underWay.trans (List.sublist_append_left _ _)) spared

theorem Batch.filterMap_returned_events
    (batch : Batch) :
    batch.events.filterMap Event.returned? = [] := by
  simp only [events, List.filterMap_filterMap, List.filterMap_eq_nil_iff]
  intro entry _
  cases entry <;> rfl

namespace SequenceBatcher

section Settling

variable {batcher : SequenceBatcher}
variable {instanceIndex : Nat}

/-- A report of a flight that its slot holds is settled. -/
private theorem settleRecord_of_held
    (coherent : batcher.Coherent)
    {record : DispatchRecord}
    {flight : Flight}
    (isFlight : record.flight? instanceIndex = some flight)
    {held : Slot}
    (found : batcher.liveSlot? flight.seat = some held)
    (inFlight : held.inFlight? = some flight.request)
    (carries : held.sequence? = some flight.sequence)
    (now : Nat) :
    ∃ settled failures,
      batcher.settleRecord instanceIndex record now = .ok (settled, failures) := by
  obtain ⟨owner, live, isSlot⟩ := liveSlot?_eq_some.mp found
  have bound := coherent.seat_of_liveSlot found carries
  unfold DispatchRecord.flight? at isFlight
  split at isFlight
  · next slot sequence isSlotIndex isSequence =>
      cases isFlight
      have checked : batcher.checkSeat instanceIndex record = .ok (sequence, slot) := by
        simp [checkSeat, isSlotIndex, isSequence, bound]
      obtain ⟨⟨leftovers?, landed⟩, completed⟩ :=
        SlotTable.complete_of_held isSlot carries inFlight now
      simp only [settleRecord, table?_of_live live, checked, completed]
      cases leftovers? <;> exact ⟨_, _, rfl⟩
  · contradiction

/-- Reports of flights that the slots hold are settled, one after the other. -/
private theorem settleRecords_settled
    (coherent : batcher.Coherent)
    {records : List DispatchRecord}
    (recorded : ∀ record ∈ records, (record.flight? instanceIndex).isSome = true)
    (flying : batcher.Flying (records.filterMap (DispatchRecord.flight? instanceIndex)))
    (live : (batcher.live? instanceIndex).isSome = true)
    (failed : List Failure)
    (now : Nat) :
    ∃ failures,
      (settleRecords instanceIndex now records batcher failed).verdict =
        .settled failures := by
  induction records generalizing batcher failed with
  | nil => exact ⟨failed, rfl⟩
  | cons record records inductionHypothesis =>
      obtain ⟨flight, isFlight⟩ :=
        Option.isSome_iff_exists.mp (recorded record List.mem_cons_self)
      have atInstance : flight.seat.instanceIndex = instanceIndex :=
        DispatchRecord.instanceIndex_of_flight isFlight
      rw [List.filterMap_cons_some isFlight] at flying
      obtain ⟨held, found, inFlight, carries⟩ :=
        flying.held flight List.mem_cons_self (by rw [atInstance, live])
      obtain ⟨settled, failures, settles⟩ :=
        settleRecord_of_held coherent isFlight found inFlight carries now
      obtain ⟨other, failureEvents, isOther, move, onlyFailures, _⟩ :=
        settleRecord_move coherent settles
      have same : other = flight := Option.some.inj (isOther.symm.trans isFlight)
      subst same
      have goesOn := move.flying coherent flying
      rw [List.foldl_cons, Event.foldl_noteFlights_of_isFailure onlyFailures] at goesOn
      simp only [Event.noteFlights, List.erase_cons_head] at goesOn
      simp only [settleRecords, settles]
      exact inductionHypothesis (move.coherent coherent)
        (fun later member => recorded later (List.mem_cons_of_mem record member)) goesOn
        (by rw [move.live?_isSome, live]) (failed ++ failures)

end Settling

/-- A batch is out, and what its records report is in flight. -/
structure Awaits
    (batcher : SequenceBatcher)
    (batch : Batch) :
    Prop where
  flying : batcher.Flying batch.flights
  recorded :
    ∀ record ∈ batch.records, (record.flight? batch.instanceIndex).isSome = true

section Awaits

variable {batcher last : SequenceBatcher}
variable {batch : Batch}

/-- The report of a batch that is awaited from a running instance is settled. -/
theorem Awaits.settled
    (awaits : batcher.Awaits batch)
    (coherent : batcher.Coherent)
    (live : (batcher.live? batch.instanceIndex).isSome = true)
    (now : Nat) :
    ∃ failures,
      (batcher.complete batch.instanceIndex batch.records now).verdict =
        .settled failures := by
  obtain ⟨owner, isOwner⟩ := Option.isSome_iff_exists.mp live
  simp only [complete, table?_of_live isOwner]
  exact settleRecords_settled coherent awaits.recorded awaits.flying live [] now

/-- A batch is still awaited after moves that bring none of its flights back. -/
theorem Awaits.moves
    (awaits : batcher.Awaits batch)
    (coherent : batcher.Coherent)
    {now : Nat}
    {activity : Activity}
    {events : List Event}
    (moves : Moves now batcher activity events last)
    (spared : ∀ flight ∈ events.filterMap Event.returned?, flight ∉ batch.flights) :
    last.Awaits batch where
  flying := (moves.flying coherent awaits.flying).sublist
    (Event.sublist_noteFlights (List.Sublist.refl _) spared)
  recorded := awaits.recorded

/-- What is dispatched belongs to a sequence. -/
private theorem sequence_of_dispatched
    {now : Nat}
    {activity : Activity}
    {events : List Event}
    (coherent : batcher.Coherent)
    (moves : Moves now batcher activity events last)
    {seat : Seat}
    {entry : QueueEntry}
    (member : .dispatched seat entry ∈ events) :
    entry.request.sequence?.isSome = true := by
  induction moves with
  | nil => contradiction
  | @snoc middle last events more moves move inductionHypothesis =>
      rcases List.mem_append.mp member with earlier | now
      · exact inductionHypothesis earlier
      · have notFailure : ∀ {failures : List Event},
            (∀ event ∈ failures, event.IsFailure) → .dispatched seat entry ∉ failures := by
          intro failures onlyFailures inFailures
          obtain ⟨_, _, isFailed⟩ := onlyFailures _ inFailures
          contradiction
        cases move with
        | @dispatch sent place held after found dispatched =>
            have sound := (moves.coherent coherent).sound_of_liveSlot found
            obtain ⟨active, _, rest, isPending, _⟩ := Slot.dispatch?_shape dispatched
            obtain ⟨sequence, carries⟩ := sound.usedSequence (by simp [active])
            cases List.mem_singleton.mp now
            rw [sound.carried entry (by simp [isPending]), carries]
            rfl
        | expireLanes => exact absurd now (notFailure (Lane.isFailure_of_flatMap _ _))
        | tearDown | evict => exact absurd now (notFailure (Event.isFailure_of_failAll _ _))
        | release =>
            rcases List.mem_cons.mp now with isReturned | inFailures
            · contradiction
            · exact absurd inFailures (notFailure (Event.isFailure_of_failAll _ _))
        | follow | push | openLane | start | land =>
            have isOther := List.mem_singleton.mp now
            contradiction
        | unmark | forget | reclaim | seatLane => contradiction

/-- A batch is awaited as soon as it is formed. -/
theorem awaits_formed
    (coherent : batcher.Coherent)
    {instanceIndex now : Nat}
    (formed : batch ∈ (batcher.formBatch instanceIndex now).batch?) :
    (batcher.formBatch instanceIndex now).batcher.Awaits batch := by
  have phases := formBatch_phases coherent instanceIndex now
  generalize batcher.formBatch instanceIndex now = formation at phases formed
  cases phases with
  | halted halted => contradiction
  | live live expires onlyFailures isFailed dispatches placed =>
      have swept := expires.coherent coherent
      have isEvents : formation.dispatches = batch.events := by
        simp [Formation.dispatches, Option.mem_def.mp formed]
      rw [isEvents] at dispatches
      have nothing : (batcher.expire now).batcher.Flying [] := ⟨by simp, List.Pairwise.nil⟩
      refine ⟨?_, ?_⟩
      · simpa [Batch.noteFlights_events] using dispatches.flying swept nothing
      · intro record member
        obtain ⟨entry, inBatch, isRecord⟩ := List.mem_filterMap.mp member
        have isSlot : entry.slot? ∈ batch.entries.map BatchEntry.slot? :=
          List.mem_map_of_mem inBatch
        rw [(placed batch formed).2] at isSlot
        obtain ⟨slot, _, isSome⟩ := List.mem_map.mp isSlot
        cases entry with
        | single queued => contradiction
        | padding slot sequence? => contradiction
        | seated slot queued =>
            have isSent :
                Event.dispatched { instanceIndex := batch.instanceIndex, slot := slot } queued ∈
                  batch.events :=
              List.mem_filterMap.mpr ⟨_, inBatch, rfl⟩
            obtain ⟨sequence, belongs⟩ :=
              Option.isSome_iff_exists.mp (sequence_of_dispatched swept dispatches isSent)
            cases isRecord
            simp [DispatchRecord.flight?, BatchEntry.slot?, belongs]

/-- A batch is awaited until its own instance reports it. -/
theorem Awaits.perform
    (awaits : batcher.Awaits batch)
    (coherent : batcher.Coherent)
    (operation : Operation)
    (elsewhere :
      ∀ instanceIndex records now,
        operation = .complete instanceIndex records now →
          instanceIndex ≠ batch.instanceIndex) :
    (batcher.perform operation).Awaits batch := by
  cases operation with
  | enqueue request now =>
      have admission := enqueue_admission coherent request now
      simp only [SequenceBatcher.perform]
      generalize batcher.enqueue request now = answer at admission
      cases admission with
      | accepted belongs moves => exact awaits.moves coherent moves (by simp)
      | rejected error moves => exact awaits.moves coherent moves (by simp)
  | form instanceIndex now =>
      have phases := formBatch_phases coherent instanceIndex now
      simp only [SequenceBatcher.perform]
      generalize batcher.formBatch instanceIndex now = formation at phases
      cases phases with
      | halted halted => exact awaits
      | live live expires onlyFailures isFailed dispatches placed =>
          have swept := awaits.moves coherent expires
            (by simp [(Event.filterMap_of_isFailure onlyFailures).2.2])
          apply swept.moves (expires.coherent coherent) dispatches
          rw [Formation.dispatches_eq, List.filterMap_flatMap]
          simp [Batch.filterMap_returned_events]
  | complete instanceIndex records now =>
      obtain ⟨events, settled, moves, _, returned, _⟩ :=
        complete_moves coherent instanceIndex records now
      apply awaits.moves coherent moves
      rw [returned]
      intro flight member inBatch
      obtain ⟨record, _, isFlight⟩ := List.mem_filterMap.mp member
      obtain ⟨own, _, isOwn⟩ := List.mem_filterMap.mp inBatch
      apply elsewhere instanceIndex records now rfl
      rw [← DispatchRecord.instanceIndex_of_flight isFlight,
        DispatchRecord.instanceIndex_of_flight isOwn]
  | halt instanceIndex => exact ⟨awaits.flying.halt instanceIndex, awaits.recorded⟩
  | drain => exact ⟨awaits.flying.drain, awaits.recorded⟩

end Awaits

end SequenceBatcher

end InferenceBatching
