import InferenceBatching.Proofs.Sequence.Endings
import InferenceBatching.Proofs.Sequence.Turns

namespace InferenceBatching

/-!
# Release of slots

Nothing but a request in flight keeps a slot at its end, unless the batcher is
drained. What is in flight was sent off in a batch whose report is still to come,
so once every report is in, the slots in use are active. Those are given up when
their sequences send an END, or when they have been idle for long enough.
-/

/-- A request that a batch sends off is one of its flights. -/
theorem Batch.mem_flights_of_dispatched
    {batch : Batch}
    {flight : Flight}
    {entry : QueueEntry}
    (sentOff : .dispatched flight.seat entry ∈ batch.events)
    (isRequest : entry.request.id = flight.request)
    (carried : entry.request.sequence? = some flight.sequence) :
    flight ∈ batch.flights := by
  obtain ⟨position, member, isEvent⟩ := List.mem_filterMap.mp sentOff
  cases position with
  | single queued => contradiction
  | padding slot sequence? => contradiction
  | seated slot queued =>
      simp only [BatchEntry.event?, Option.some.injEq, Event.dispatched.injEq] at isEvent
      obtain ⟨isSeat, isEntry⟩ := isEvent
      subst isEntry
      have isRecord : Batch.recordOf? (.seated slot queued) =
          some {
            request := flight.request
            slot? := some slot
            sequence? := some flight.sequence
            ends := queued.request.ends } := by
        simp [Batch.recordOf?, BatchEntry.request?, BatchEntry.queued?, BatchEntry.slot?,
          isRequest, carried]
      refine List.mem_filterMap.mpr ⟨_, List.mem_filterMap.mpr ⟨_, member, isRecord⟩, ?_⟩
      simp [DispatchRecord.flight?, isSeat]

/-- A report about a flight names its request, its slot and its sequence. -/
private theorem DispatchRecord.eq_of_flight
    {record : DispatchRecord}
    {instanceIndex : Nat}
    {flight : Flight}
    (isFlight : record.flight? instanceIndex = some flight) :
    record =
      { request := flight.request
        slot? := some flight.seat.slot
        sequence? := some flight.sequence
        ends := record.ends } := by
  unfold flight? at isFlight
  split at isFlight
  · next isSlot isSequence =>
      cases isFlight
      rw [← isSlot, ← isSequence]
  · contradiction

namespace SequenceBatcher

/-- Every slot at its end on a running instance has a request in flight. -/
def EndsInFlight
    (batcher : SequenceBatcher) :
    Prop :=
  ∀ seat slot,
    batcher.liveSlot? seat = some slot →
    slot.state = .ending →
      slot.inFlight?.isSome = true

/-- The slot at the seat of a flight has that flight's request in flight. -/
def Holds
    (batcher : SequenceBatcher)
    (flight : Flight) :
    Prop :=
  ∃ slot,
    batcher.liveSlot? flight.seat = some slot ∧
      slot.inFlight? = some flight.request ∧
      slot.sequence? = some flight.sequence

/-- The slot from which a flight was sent off is free, and its sequence is unbound. -/
def HasReleased
    (batcher : SequenceBatcher)
    (flight : Flight) :
    Prop :=
  batcher.seat? flight.sequence = none ∧
    ∃ slot, batcher.liveSlot? flight.seat = some slot ∧ slot.state = .free

/-- A batch that a run has formed, and no report of its records has been settled since. -/
def Outstanding
    (batcher : SequenceBatcher)
    (operations : List Operation)
    (batch : Batch) :
    Prop :=
  ∃ earlier now later,
    operations = earlier ++ .form batch.instanceIndex now :: later ∧
      batch ∈ ((batcher.after earlier).formBatch batch.instanceIndex now).batch? ∧
      ∀ done instant,
        done ++ [.complete batch.instanceIndex batch.records instant] <+: later →
          ∀ failed,
            ((batcher.after (earlier ++ .form batch.instanceIndex now :: done)).complete
              batch.instanceIndex batch.records instant).verdict ≠ .settled failed

section Moves

variable {now : Nat}
variable {batcher last : SequenceBatcher}
variable {activity : Activity}
variable {events : List Event}
variable {flight : Flight}

/-- A slot that is put at its end must have a request in flight; the others stay as they are. -/
private theorem EndsInFlight.change
    (before : batcher.EndsInFlight)
    {seat : Seat}
    {held slot : Slot}
    (found : batcher.liveSlot? seat = some held)
    (isPut : last.liveSlot? = (batcher.putSlot seat slot).liveSlot?)
    (inFlight : slot.state = .ending → slot.inFlight?.isSome = true) :
    last.EndsInFlight := by
  intro other after isAfter
  rw [isPut, liveSlot?_putSlot slot found] at isAfter
  split at isAfter
  · rw [← Option.some.inj isAfter]
    exact inFlight
  · exact before other after isAfter

/-- No move leaves a slot at its end with nothing in flight. -/
theorem Move.endsInFlight
    (before : batcher.EndsInFlight)
    (move : Move now batcher activity events last) :
    last.EndsInFlight := by
  cases move with
  | follow | openLane | unmark | forget | expireLanes => exact before
  | push _ found active => exact before.change found rfl (by simp [Slot.push, active])
  | start _ _ found free => exact before.change found rfl (by simp [Slot.push, Slot.bind])
  | tearDown found carries expired flying => exact before.change found rfl (by simp [flying])
  | evict found | reclaim found => exact before.change found rfl (by simp [Slot.vacate])
  | @seatLane _ _ lane seat held _ _ _ found free =>
      refine before.change found rfl ?_
      rw [((held.bind lane.sequence now).pushAll_fields lane.entries now).1]
      simp [Slot.bind]
  | dispatch found dispatched =>
      obtain ⟨_, _, flies⟩ := Slot.dispatch?_eq_some dispatched
      exact before.change found rfl (by simp [flies])
  | land found carries flying active => exact before.change found rfl (by simp [Slot.land, active])
  | release found => exact before.change found rfl (by simp [Slot.vacate])

/-- What is held after a slot was put is held by that slot, or was held before. -/
private theorem Holds.before_put
    (holds : last.Holds flight)
    {seat : Seat}
    {held slot : Slot}
    (found : batcher.liveSlot? seat = some held)
    (isPut : last.liveSlot? = (batcher.putSlot seat slot).liveSlot?) :
    (flight.seat = seat ∧
        slot.inFlight? = some flight.request ∧
        slot.sequence? = some flight.sequence) ∨
      (flight.seat ≠ seat ∧ batcher.Holds flight) := by
  obtain ⟨after, isAfter, inFlight, carries⟩ := holds
  rw [isPut, liveSlot?_putSlot slot found] at isAfter
  split at isAfter
  · next same =>
      rw [← Option.some.inj isAfter] at inFlight carries
      exact Or.inl ⟨same, inFlight, carries⟩
  · next elsewhere => exact Or.inr ⟨elsewhere, after, isAfter, inFlight, carries⟩

/-- What is in flight after a move is sent off by it, or was in flight and does not come back. -/
theorem Move.holds_before
    (coherent : batcher.Coherent)
    (move : Move now batcher activity events last)
    (holds : last.Holds flight) :
    (∃ entry,
        .dispatched flight.seat entry ∈ events ∧
          entry.request.id = flight.request ∧
          entry.request.sequence? = some flight.sequence) ∨
      (batcher.Holds flight ∧ .returned flight ∉ events) := by
  have notFailure :
      ∀ {failures : List Event},
        (∀ event ∈ failures, event.IsFailure) → .returned flight ∉ failures := by
    intro failures onlyFailures member
    obtain ⟨_, _, isFailed⟩ := onlyFailures _ member
    contradiction
  -- A slot that is put with nothing in flight holds no flight, so an earlier slot does.
  have grounded :
      ∀ {place held slot},
        batcher.liveSlot? place = some held →
        last.liveSlot? = (batcher.putSlot place slot).liveSlot? →
        slot.inFlight? = none →
          flight.seat ≠ place ∧ batcher.Holds flight := by
    intro place held slot found isPut nothing
    rcases holds.before_put found isPut with ⟨_, inFlight, _⟩ | earlier
    · rw [nothing] at inFlight
      contradiction
    · exact earlier
  -- A slot that keeps what it has in flight holds the same flight as before.
  have kept :
      ∀ {place held slot},
        batcher.liveSlot? place = some held →
        last.liveSlot? = (batcher.putSlot place slot).liveSlot? →
        slot.inFlight? = held.inFlight? →
        slot.sequence? = held.sequence? →
          batcher.Holds flight := by
    intro place held slot found isPut sameFlight sameSequence
    rcases holds.before_put found isPut with ⟨same, inFlight, carries⟩ | ⟨_, earlier⟩
    · rw [sameFlight] at inFlight
      rw [sameSequence] at carries
      exact ⟨held, same ▸ found, inFlight, carries⟩
    · exact earlier
  cases move with
  | follow | openLane => exact Or.inr ⟨holds, by simp⟩
  | unmark | forget => exact Or.inr ⟨holds, List.not_mem_nil⟩
  | expireLanes => exact Or.inr ⟨holds, notFailure (Lane.isFailure_of_flatMap _ _)⟩
  | push waitsNot found => exact Or.inr ⟨kept found rfl rfl rfl, by simp⟩
  | start waitsNot unbound found free =>
      have nothing := (coherent.sound_of_liveSlot found).freeInFlight free
      exact Or.inr ⟨(grounded found rfl nothing).2, by simp⟩
  | @tearDown _ _ _ held found =>
      have still := kept found rfl held.tearDown_inFlight held.tearDown_sequence
      exact Or.inr ⟨still, notFailure (Event.isFailure_of_failAll _ _)⟩
  | @evict _ _ held found carries expired nothing =>
      have earlier := grounded found rfl (held.tearDown_inFlight.trans nothing)
      exact Or.inr ⟨earlier.2, notFailure (Event.isFailure_of_failAll _ _)⟩
  | reclaim found carries idle =>
      exact Or.inr ⟨(grounded found rfl (Slot.idle_shape idle).2.1).2, List.not_mem_nil⟩
  | @seatLane _ _ lane _ held _ _ _ found free =>
      have nothing := (coherent.sound_of_liveSlot found).freeInFlight free
      have isPushed := ((held.bind lane.sequence now).pushAll_fields lane.entries now).2.2.1
      exact Or.inr ⟨(grounded found rfl (isPushed.trans nothing)).2, List.not_mem_nil⟩
  | @dispatch entry seat held after found dispatched =>
      rcases holds.before_put found rfl with ⟨same, inFlight, carries⟩ | ⟨_, earlier⟩
      · obtain ⟨_, _, rest, isPending, isAfter⟩ := Slot.dispatch?_shape dispatched
        rw [isAfter] at inFlight carries
        have sound := coherent.sound_of_liveSlot found
        refine Or.inl ⟨entry, by simp [same], Option.some.inj inFlight, ?_⟩
        exact (sound.carried entry (by simp [isPending])).trans carries
      · exact Or.inr ⟨earlier, by simp⟩
  | land found carries flying active =>
      obtain ⟨elsewhere, earlier⟩ := grounded found rfl rfl
      refine Or.inr ⟨earlier, ?_⟩
      intro member
      cases List.mem_singleton.mp member
      exact elsewhere rfl
  | release found carries flying ending =>
      obtain ⟨elsewhere, earlier⟩ := grounded found rfl rfl
      refine Or.inr ⟨earlier, ?_⟩
      intro member
      rcases List.mem_cons.mp member with isReturned | inFailures
      · cases isReturned
        exact elsewhere rfl
      · exact notFailure (Event.isFailure_of_failAll _ _) inFailures

theorem Moves.holds_before
    (coherent : batcher.Coherent)
    (moves : Moves now batcher activity events last)
    (holds : last.Holds flight) :
    (∃ entry,
        .dispatched flight.seat entry ∈ events ∧
          entry.request.id = flight.request ∧
          entry.request.sequence? = some flight.sequence) ∨
      (batcher.Holds flight ∧ .returned flight ∉ events) := by
  induction moves with
  | nil => exact Or.inr ⟨holds, List.not_mem_nil⟩
  | snoc moves move inductionHypothesis =>
      rcases move.holds_before (moves.coherent coherent) holds with
        ⟨entry, sentOff, shape⟩ | ⟨earlier, notNow⟩
      · exact Or.inl ⟨entry, List.mem_append_right _ sentOff, shape⟩
      · rcases inductionHypothesis earlier with ⟨entry, sentOff, shape⟩ | ⟨before, notEarlier⟩
        · exact Or.inl ⟨entry, List.mem_append_left _ sentOff, shape⟩
        · refine Or.inr ⟨before, ?_⟩
          rw [List.mem_append, not_or]
          exact ⟨notEarlier, notNow⟩

/-- What is in flight after moves that send nothing off was so before, and does not come back. -/
theorem Moves.held_before
    (coherent : batcher.Coherent)
    (moves : Moves now batcher activity events last)
    (noDispatch : events.filterMap Event.dispatched? = [])
    (holds : last.Holds flight) :
    batcher.Holds flight ∧ .returned flight ∉ events := by
  rcases moves.holds_before coherent holds with ⟨entry, sentOff, _⟩ | earlier
  · have sent : (flight.seat, entry) ∈ events.filterMap Event.dispatched? :=
      List.mem_filterMap.mpr ⟨_, sentOff, rfl⟩
    rw [noDispatch] at sent
    contradiction
  · exact earlier

/-- A settling move changes one slot with a request in flight, and frees it at its end. -/
private theorem Move.lands
    (move : Move now batcher .settling events last) :
    ∃ seat held slot,
      batcher.liveSlot? seat = some held ∧
        last.liveSlot? = (batcher.putSlot seat slot).liveSlot? ∧
        held.inFlight? ≠ none ∧
        (held.state = .ending → slot.state = .free) := by
  cases move with
  | land found carries flying active =>
      exact ⟨_, _, _, found, rfl, by simp [flying], by simp [active]⟩
  | release found carries flying ending =>
      exact ⟨_, _, _, found, rfl, by simp [flying], fun _ => rfl⟩

/-- Settling leaves a slot at its end as it is, or free. -/
private theorem Moves.ending_or_free
    (coherent : batcher.Coherent)
    (moves : Moves now batcher .settling events last)
    {seat : Seat}
    {held : Slot}
    (found : batcher.liveSlot? seat = some held)
    (ending : held.state = .ending) :
    last.liveSlot? seat = some held ∨
      ∃ slot, last.liveSlot? seat = some slot ∧ slot.state = .free := by
  induction moves with
  | nil => exact Or.inl found
  | snoc moves move inductionHypothesis =>
      obtain ⟨place, other, slot, isOther, isPut, flies, frees⟩ := move.lands
      rw [isPut, liveSlot?_putSlot slot isOther]
      by_cases same : seat = place
      · rw [if_pos same]
        rw [same] at inductionHypothesis
        rcases inductionHypothesis with kept | ⟨freed, isFreed, free⟩
        · have isHeld : other = held := Option.some.inj (isOther.symm.trans kept)
          exact Or.inr ⟨slot, rfl, frees (isHeld ▸ ending)⟩
        · have isFree : other = freed := Option.some.inj (isOther.symm.trans isFreed)
          have sound := (moves.coherent coherent).sound_of_liveSlot isOther
          exact absurd (sound.freeInFlight (isFree ▸ free)) flies
      · rw [if_neg same]
        exact inductionHypothesis

/-- When the request in flight of a slot at its end comes back, the slot is released. -/
theorem Moves.released
    (coherent : batcher.Coherent)
    (moves : Moves now batcher .settling events last)
    (noDispatch : events.filterMap Event.dispatched? = [])
    (reported : .returned flight ∈ events)
    {held : Slot}
    (found : batcher.liveSlot? flight.seat = some held)
    (ending : held.state = .ending)
    (inFlight : held.inFlight? = some flight.request)
    (carries : held.sequence? = some flight.sequence) :
    last.HasReleased flight := by
  have bound := coherent.seat_of_liveSlot found carries
  rcases moves.ending_or_free coherent found ending with kept | ⟨slot, isSlot, free⟩
  · exact absurd reported
      (moves.held_before coherent noDispatch ⟨held, kept, inFlight, carries⟩).2
  · refine ⟨?_, slot, isSlot, free⟩
    by_contra stillBound
    obtain ⟨place, isPlace⟩ := Option.ne_none_iff_exists'.mp stillBound
    have wasPlace := moves.seat?_before (Or.inr rfl) isPlace
    have same : flight.seat = place := Option.some.inj (bound.symm.trans wasPlace)
    exact (moves.coherent coherent).not_bound_of_free isSlot free _ (same ▸ isPlace)

end Moves

section Reports

variable {batcher : SequenceBatcher}
variable {flight : Flight}

/-- A report that is settled brings back all that it reports. -/
private theorem returned_of_settled
    (coherent : batcher.Coherent)
    {instanceIndex now : Nat}
    {records : List DispatchRecord}
    {failed : List Failure}
    (isSettled : (batcher.complete instanceIndex records now).verdict = .settled failed)
    (reported : flight ∈ records.filterMap (DispatchRecord.flight? instanceIndex)) :
    ∃ events,
      Moves now batcher .settling events (batcher.complete instanceIndex records now).batcher ∧
        events.filterMap Event.dispatched? = [] ∧
        .returned flight ∈ events := by
  obtain ⟨events, settled, moves, _, returned, _, noDispatch, verdict⟩ :=
    complete_moves coherent instanceIndex records now
  rw [(verdict failed isSettled).1] at returned
  rw [← returned] at reported
  refine ⟨events, moves, noDispatch, ?_⟩
  obtain ⟨event, inEvents, isReturned⟩ := List.mem_filterMap.mp reported
  cases event with
  | admitted | dispatched | failed => contradiction
  | returned other => exact Option.some.inj isReturned ▸ inEvents

/-- A settled report leaves nothing of what it reports in flight. -/
theorem not_holds_of_settled
    (coherent : batcher.Coherent)
    {instanceIndex now : Nat}
    {records : List DispatchRecord}
    {failed : List Failure}
    (isSettled : (batcher.complete instanceIndex records now).verdict = .settled failed)
    (reported : flight ∈ records.filterMap (DispatchRecord.flight? instanceIndex)) :
    ¬ (batcher.complete instanceIndex records now).batcher.Holds flight := by
  intro holds
  obtain ⟨events, moves, noDispatch, returned⟩ := returned_of_settled coherent isSettled reported
  exact (moves.held_before coherent noDispatch holds).2 returned

/-- A settled report of the request for which a slot at its end waits releases the slot. -/
theorem released_of_settled
    (coherent : batcher.Coherent)
    {records : List DispatchRecord}
    {now : Nat}
    {failed : List Failure}
    (isSettled :
      (batcher.complete flight.seat.instanceIndex records now).verdict = .settled failed)
    (reported :
      flight ∈ records.filterMap (DispatchRecord.flight? flight.seat.instanceIndex))
    {held : Slot}
    (found : batcher.liveSlot? flight.seat = some held)
    (ending : held.state = .ending)
    (inFlight : held.inFlight? = some flight.request)
    (carries : held.sequence? = some flight.sequence) :
    (batcher.complete flight.seat.instanceIndex records now).batcher.HasReleased flight := by
  obtain ⟨events, moves, noDispatch, returned⟩ := returned_of_settled coherent isSettled reported
  exact moves.released coherent noDispatch returned found ending inFlight carries

end Reports

section Runs

variable {batcher : SequenceBatcher}
variable {flight : Flight}

/-- Every operation but draining leaves each slot at its end with a request in flight. -/
theorem EndsInFlight.perform
    (coherent : batcher.Coherent)
    (before : batcher.EndsInFlight)
    {operation : Operation}
    (notDrain : operation ≠ .drain) :
    (batcher.perform operation).EndsInFlight := by
  refine related_perform
    (fun before after => before.EndsInFlight → after.EndsInFlight)
    (fun _ before => before)
    (fun first second before => second (first before))
    (fun _ move before => move.endsInFlight before)
    coherent ?_ (fun isDrain => absurd isDrain notDrain) before
  intro instanceIndex _ before seat slot found
  rw [liveSlot?_halt] at found
  split at found
  · contradiction
  · exact before seat slot found

theorem EndsInFlight.after
    (coherent : batcher.Coherent)
    (before : batcher.EndsInFlight)
    {operations : List Operation}
    (undrained : .drain ∉ operations) :
    (batcher.after operations).EndsInFlight := by
  induction operations generalizing batcher with
  | nil => exact before
  | cons operation operations inductionHypothesis =>
      rw [List.mem_cons, not_or] at undrained
      exact inductionHypothesis (coherent.perform operation)
        (before.perform coherent (Ne.symm undrained.1)) undrained.2

theorem free_ofConfig
    (config : ModelConfig)
    (start : Nat)
    {seat : Seat}
    {slot : Slot}
    (found : (ofConfig config start).liveSlot? seat = some slot) :
    slot.state = .free := by
  by_contra used
  have coherent := coherent_ofConfig config start
  obtain ⟨sequence, carries⟩ := (coherent.sound_of_liveSlot found).usedSequence used
  have bound := coherent.seat_of_liveSlot found carries
  contradiction

/--
What is in flight after an operation was in flight before, or the operation is the
formation that sent it off.
-/
theorem Holds.before_perform
    (coherent : batcher.Coherent)
    {operation : Operation}
    (holds : (batcher.perform operation).Holds flight) :
    batcher.Holds flight ∨
      ∃ now batch,
        operation = .form flight.seat.instanceIndex now ∧
          batch ∈ (batcher.formBatch flight.seat.instanceIndex now).batch? ∧
          batch.instanceIndex = flight.seat.instanceIndex ∧
          flight ∈ batch.flights := by
  cases operation with
  | enqueue request now =>
      have admission := enqueue_admission coherent request now
      simp only [SequenceBatcher.perform] at holds
      generalize batcher.enqueue request now = answer at admission holds
      cases admission with
      | accepted belongs moves => exact Or.inl (moves.held_before coherent (by simp) holds).1
      | rejected error moves => exact Or.inl (moves.held_before coherent rfl holds).1
  | form instanceIndex now =>
      have phases := formBatch_phases coherent instanceIndex now
      simp only [SequenceBatcher.perform] at holds
      generalize isFormation : batcher.formBatch instanceIndex now = formation at phases holds
      cases phases with
      | halted halted => exact Or.inl holds
      | live live expires onlyFailures isFailed dispatches placed =>
          rcases dispatches.holds_before (expires.coherent coherent) holds with
            ⟨entry, sentOff, isRequest, carried⟩ | ⟨earlier, _⟩
          · rw [Formation.dispatches_eq, List.mem_flatMap] at sentOff
            obtain ⟨batch, isBatch, inEvents⟩ := sentOff
            have formed := Option.mem_toList.mp isBatch
            obtain ⟨isInstance, _⟩ := placed batch formed
            have isFlight := Batch.mem_flights_of_dispatched inEvents isRequest carried
            obtain ⟨record, _, isRecord⟩ := List.mem_filterMap.mp isFlight
            have atInstance := DispatchRecord.instanceIndex_of_flight isRecord
            rw [isInstance] at atInstance
            subst atInstance
            refine Or.inr ⟨now, batch, rfl, ?_, isInstance, isFlight⟩
            rw [isFormation]
            exact formed
          · have noDispatch := (Event.filterMap_of_isFailure onlyFailures).2.1
            exact Or.inl (expires.held_before coherent noDispatch earlier).1
  | complete instanceIndex records now =>
      obtain ⟨events, _, moves, _, _, _, noDispatch, _⟩ :=
        complete_moves coherent instanceIndex records now
      exact Or.inl (moves.held_before coherent noDispatch holds).1
  | halt instanceIndex =>
      obtain ⟨slot, found, inFlight, carries⟩ := holds
      rw [SequenceBatcher.perform, liveSlot?_halt] at found
      split at found
      · contradiction
      · exact Or.inl ⟨slot, found, inFlight, carries⟩
  | drain =>
      obtain ⟨slot, found, inFlight, carries⟩ := holds
      rw [SequenceBatcher.perform, liveSlot?_drain] at found
      obtain ⟨held, isHeld, isTornDown⟩ := Option.map_eq_some_iff.mp found
      rw [← isTornDown, held.tearDown_inFlight] at inFlight
      rw [← isTornDown, held.tearDown_sequence] at carries
      exact Or.inl ⟨held, isHeld, inFlight, carries⟩

/-- What is in flight after a run was sent off in a batch that is outstanding. -/
theorem outstanding_of_holds
    (config : ModelConfig)
    (start : Nat)
    {operations : List Operation}
    (holds : ((ofConfig config start).after operations).Holds flight) :
    ∃ batch,
      (ofConfig config start).Outstanding operations batch ∧
        batch.instanceIndex = flight.seat.instanceIndex ∧
        flight ∈ batch.flights := by
  have coherent : ∀ done, ((ofConfig config start).after done).Coherent := fun done =>
    (coherent_ofConfig config start).after done
  rcases held_since (fun reached => reached.Holds flight) holds with
    throughout | ⟨earlier, operation, later, isSplit, before, since⟩
  · obtain ⟨slot, found, inFlight, _⟩ := throughout [] List.nil_prefix
    have sound := (coherent_ofConfig config start).sound_of_liveSlot found
    rw [sound.freeInFlight (free_ofConfig config start found)] at inFlight
    contradiction
  · have begun := since [] List.nil_prefix
    rw [after, List.foldl_append] at begun
    obtain ⟨now, batch, isForm, formed, isInstance, isFlight⟩ :=
      (Holds.before_perform (coherent earlier) begun).resolve_left before
    rw [isForm, ← isInstance] at isSplit since
    rw [← isInstance] at formed
    refine ⟨batch, ⟨earlier, now, later, isSplit, formed, ?_⟩, isInstance, isFlight⟩
    intro done instant within failed isSettled
    have stillHolds := since _ within
    rw [← List.cons_append, ← List.append_assoc, after, List.foldl_append] at stillHolds
    exact not_holds_of_settled (coherent _) isSettled isFlight stillHolds

end Runs

section Idle

variable {batcher : SequenceBatcher}
variable {sequence : CorrelationId}
variable {seat : Seat}
variable {slot : Slot}

/-- After the timeouts, a formation on a running instance only fills slots. -/
private theorem formBatch_fills
    (coherent : batcher.Coherent)
    {instanceIndex : Nat}
    (live : (batcher.live? instanceIndex).isSome = true)
    (now : Nat) :
    ∃ events,
      Moves now (batcher.expire now).batcher .filling events
        (batcher.formBatch instanceIndex now).batcher := by
  have phases := formBatch_phases coherent instanceIndex now
  generalize batcher.formBatch instanceIndex now = formation at phases ⊢
  cases phases with
  | halted halted =>
      rw [halted] at live
      contradiction
  | live _ _ _ _ dispatches _ => exact ⟨_, dispatches⟩

/--
A formation gives up a slot that has been idle for the limit: its sequence is unbound,
and the slot is free unless the instance has given it to a sequence that waited.
-/
theorem reclaimed_formBatch
    (coherent : batcher.Coherent)
    (succession : batcher.Succession)
    (found : batcher.liveSlot? seat = some slot)
    (carries : slot.sequence? = some sequence)
    (active : slot.state = .active)
    (grounded : slot.inFlight? = none)
    (nothing : slot.pending = [])
    {limit now instanceIndex : Nat}
    (isLimit : batcher.idleLimit? = some limit)
    (idle : slot.lastActivity + limit ≤ now)
    (live : (batcher.live? instanceIndex).isSome = true) :
    let formed := (batcher.formBatch instanceIndex now).batcher
    formed.seat? sequence = none ∧
      ∃ after,
        formed.liveSlot? seat = some after ∧
          (after.state = .free ∨
            instanceIndex = seat.instanceIndex ∧
              ∃ lane ∈ batcher.backlog,
                lane.sequence ≠ sequence ∧ after.sequence? = some lane.sequence) := by
  intro formed
  have formedCoherent : formed.Coherent := coherent.perform (.form instanceIndex now)
  obtain ⟨_, expires, _⟩ := expire_moves coherent now
  obtain ⟨_, fills⟩ := formBatch_fills coherent live now
  -- The timeouts free the slot and unbind its sequence.
  have freed : (batcher.expire now).batcher.liveSlot? seat = some (slot.vacate now) := by
    have isIdle : slot.isIdle batcher.idleLimit? now = true := by
      have isLong : limit ≤ elapsed slot.lastActivity now := Nat.le_sub_of_add_le' idle
      simp [Slot.isIdle, isLimit, active, Slot.isQuiescent, grounded, nothing, isLong]
    rw [liveSlot?_expire coherent, found, Option.map_some, Slot.swept,
      Slot.isExpired_of_pending now nothing, isIdle]
    rfl
  have notSeated : ∀ other, (batcher.expire now).batcher.seat? other ≠ some seat :=
    (expires.coherent coherent).not_bound_of_free freed rfl
  have unbound : (batcher.expire now).batcher.seat? sequence = none := by
    by_contra stillBound
    obtain ⟨place, isPlace⟩ := Option.ne_none_iff_exists'.mp stillBound
    have wasPlace := expires.seat?_before (Or.inl rfl) isPlace
    have same := Option.some.inj ((coherent.seat_of_liveSlot found carries).symm.trans wasPlace)
    exact notSeated sequence (same ▸ isPlace)
  -- Whoever is bound after that has waited before.
  have hasWaited :
      ∀ other place,
        (batcher.expire now).batcher.seat? other = none →
        formed.seat? other = some place →
          ∃ lane ∈ batcher.backlog, lane.sequence = other := by
    intro other place wasUnbound bound
    have released : (batcher.afterReleases (.form instanceIndex now)).seat? other = none := by
      rwa [afterReleases, if_pos live]
    obtain ⟨ahead, lane, behind, isSplit, isSequence, _⟩ :=
      formBatch_in_turn coherent released bound
    exact ⟨lane, by simp [isSplit], isSequence⟩
  have waitsNot : ∀ lane ∈ batcher.backlog, lane.sequence ≠ sequence := by
    intro lane member isSequence
    exact succession.notActive sequence (isSequence ▸ List.mem_map_of_mem member)
      ⟨seat, slot, found, carries, active⟩
  refine ⟨?_, ?_⟩
  · by_contra bound
    obtain ⟨place, isPlace⟩ := Option.ne_none_iff_exists'.mp bound
    obtain ⟨lane, member, isSequence⟩ := hasWaited sequence place unbound isPlace
    exact waitsNot lane member isSequence
  · by_cases within : seat.instanceIndex = instanceIndex
    · have stillThere : (formed.liveSlot? seat).isSome = true := by
        rw [fills.liveSlot?_isSome, freed]
        rfl
      obtain ⟨after, isAfter⟩ := Option.isSome_iff_exists.mp stillThere
      refine ⟨after, isAfter, ?_⟩
      by_cases free : after.state = .free
      · exact Or.inl free
      · obtain ⟨other, isOther⟩ := (formedCoherent.sound_of_liveSlot isAfter).usedSequence free
        have bound := formedCoherent.seat_of_liveSlot isAfter isOther
        have wasUnbound : (batcher.expire now).batcher.seat? other = none := by
          by_contra already
          obtain ⟨place, isPlace⟩ := Option.ne_none_iff_exists'.mp already
          have kept := fills.seat?_kept (Or.inr rfl) isPlace
          have same : seat = place := Option.some.inj (bound.symm.trans kept)
          exact notSeated other (same ▸ isPlace)
        obtain ⟨lane, member, isSequence⟩ := hasWaited other seat wasUnbound bound
        exact Or.inr ⟨within.symm, lane, member, waitsNot lane member, isSequence ▸ isOther⟩
    · have sameSlot : formed.liveSlot? seat = some (slot.vacate now) := by
        rw [liveSlot?, live?_formBatch_of_ne live within]
        exact freed
      exact ⟨slot.vacate now, sameSlot, Or.inl rfl⟩

end Idle

/--
In a run that does not drain, every slot at its end on a running instance has a request in
flight. Its report alone is settled, and any settled report with it frees the slot and unbinds
the sequence. If none of an instance's batches is outstanding, then its slots in use are
active with nothing in flight. One of these on which nothing is pending is given up by any
formation once it has been idle for the limit; it is taken at once at most by a sequence
that waited, and not by its own.
-/
theorem slots_never_leaked
    (config : ModelConfig)
    (start : Nat)
    (operations : List Operation)
    (undrained : .drain ∉ operations) :
    let initial := ofConfig config start
    let batcher := initial.after operations
    (∀ seat slot,
        batcher.liveSlot? seat = some slot →
        slot.state = .ending →
          ∃ flight, flight.seat = seat ∧ batcher.Holds flight) ∧
      (∀ flight slot,
        batcher.liveSlot? flight.seat = some slot →
        slot.state = .ending →
        batcher.Holds flight →
          batcher.seat? flight.sequence = some flight.seat ∧
            ∀ records now,
              (∃ record ∈ records,
                record.flight? flight.seat.instanceIndex = some flight) →
                let settlement := batcher.complete flight.seat.instanceIndex records now
                (records.length = 1 → ∃ failed, settlement.verdict = .settled failed) ∧
                  ∀ failed,
                    settlement.verdict = .settled failed →
                      settlement.batcher.HasReleased flight) ∧
      ∀ seat slot,
        batcher.liveSlot? seat = some slot →
        slot.state ≠ .free →
        (∀ batch,
          initial.Outstanding operations batch → batch.instanceIndex ≠ seat.instanceIndex) →
          slot.state = .active ∧
            slot.inFlight? = none ∧
            ∀ sequence limit instanceIndex now,
              slot.sequence? = some sequence →
              slot.pending = [] →
              batcher.idleLimit? = some limit →
              slot.lastActivity + limit ≤ now →
              (batcher.live? instanceIndex).isSome = true →
                let formed := (batcher.formBatch instanceIndex now).batcher
                formed.seat? sequence = none ∧
                  ∃ after,
                    formed.liveSlot? seat = some after ∧
                      (after.state = .free ∨
                        instanceIndex = seat.instanceIndex ∧
                          ∃ lane ∈ batcher.backlog,
                            lane.sequence ≠ sequence ∧
                              after.sequence? = some lane.sequence) := by
  intro initial batcher
  have coherent : batcher.Coherent := (coherent_ofConfig config start).after operations
  have succession : batcher.Succession :=
    (succession_ofConfig config start).after (coherent_ofConfig config start) operations
  have noneEnding : initial.EndsInFlight := by
    intro seat slot found ending
    rw [free_ofConfig config start found] at ending
    contradiction
  have endsInFlight : batcher.EndsInFlight :=
    noneEnding.after (coherent_ofConfig config start) undrained
  have holdsOf :
      ∀ {seat slot request},
        batcher.liveSlot? seat = some slot →
        slot.state ≠ .free →
        slot.inFlight? = some request →
          ∃ flight, flight.seat = seat ∧ batcher.Holds flight := by
    intro seat slot request found used inFlight
    obtain ⟨sequence, carries⟩ := (coherent.sound_of_liveSlot found).usedSequence used
    exact ⟨{ seat := seat, sequence := sequence, request := request }, rfl, slot, found,
      inFlight, carries⟩
  refine ⟨?_, ?_, ?_⟩
  · intro seat slot found ending
    obtain ⟨request, inFlight⟩ :=
      Option.isSome_iff_exists.mp (endsInFlight seat slot found ending)
    exact holdsOf found (by simp [ending]) inFlight
  · rintro flight slot found ending ⟨held, isHeld, inFlight, carries⟩
    have same : held = slot := Option.some.inj (isHeld.symm.trans found)
    subst same
    refine ⟨coherent.seat_of_liveSlot found carries, ?_⟩
    rintro records now ⟨record, member, isFlight⟩ settlement
    refine ⟨?_, ?_⟩
    · intro alone
      obtain ⟨only, isOnly⟩ := List.length_eq_one_iff.mp alone
      rw [isOnly, List.mem_singleton] at member
      have settles :=
        complete_of_end coherent found ending carries inFlight record.ends now
      rw [← DispatchRecord.eq_of_flight isFlight, member] at settles
      dsimp only at settles
      rw [← isOnly] at settles
      exact ⟨_, settles⟩
    · intro failed isSettled
      exact released_of_settled coherent isSettled
        (List.mem_filterMap.mpr ⟨record, member, isFlight⟩) found ending inFlight carries
  · intro seat slot found used noneOut
    have grounded : slot.inFlight? = none := by
      by_contra flies
      obtain ⟨request, inFlight⟩ := Option.ne_none_iff_exists'.mp flies
      obtain ⟨flight, isSeat, holds⟩ := holdsOf found used inFlight
      obtain ⟨batch, isOut, isInstance, _⟩ := outstanding_of_holds config start holds
      exact noneOut batch isOut (isSeat ▸ isInstance)
    have active : slot.state = .active := by
      cases isState : slot.state with
      | free => exact absurd isState used
      | active => rfl
      | ending =>
          have inFlight := endsInFlight seat slot found isState
          rw [grounded] at inFlight
          contradiction
    refine ⟨active, grounded, ?_⟩
    intro sequence limit instanceIndex now carries nothing isLimit idle live
    exact reclaimed_formBatch coherent succession found carries active grounded nothing
      isLimit idle live

/-- A report of both requests of a batch frees the slot of the one that ends its sequence. -/
theorem slots_never_leaked_of_two_sequences :
    let config : ModelConfig :=
      { name := "model", sequenceBatching? := some { maxSequences := 2 } }
    let operations : List Operation :=
      [.enqueue { id := 1, sequence? := some 7, starts := true } 0,
        .enqueue { id := 2, sequence? := some 8, starts := true, ends := true } 0,
        .form 0 0]
    let batcher := (ofConfig config 0).after operations
    let records : List DispatchRecord :=
      [{ request := 1, slot? := some 0, sequence? := some 7, ends := false },
        { request := 2, slot? := some 1, sequence? := some 8, ends := true }]
    let flight : Flight :=
      { seat := { instanceIndex := 0, slot := 1 }, sequence := 8, request := 2 }
    .drain ∉ operations ∧
      (batcher.liveSlot? flight.seat).map Slot.state = some .ending ∧
      (batcher.complete 0 records 1).batcher.HasReleased flight := by
  intro config operations batcher records flight
  have undrained : .drain ∉ operations := by decide
  have found :
      batcher.liveSlot? flight.seat =
        some {
          sequence? := some 8
          state := .ending
          lastActivity := 0
          pending := []
          inFlight? := some 2 } := by
    decide
  obtain ⟨_, reports, _⟩ := slots_never_leaked config 0 operations undrained
  obtain ⟨_, settles⟩ := reports flight _ found rfl ⟨_, found, rfl, rfl⟩
  have isSettled : (batcher.complete 0 records 1).verdict = .settled [] := by decide
  refine ⟨undrained, by rw [found]; rfl, ?_⟩
  exact (settles records 1 ⟨_, List.mem_cons_of_mem _ List.mem_cons_self, rfl⟩).2 [] isSettled

end SequenceBatcher

end InferenceBatching
