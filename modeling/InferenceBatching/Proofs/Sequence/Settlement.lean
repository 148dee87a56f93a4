import InferenceBatching.Proofs.Sequence.Move

namespace InferenceBatching

/-!
# Settlement by moves

A report that is settled ends one flight by one move, and the reports that are
settled come before all others. A report that matches a binding is about a live
instance, since no binding leads to a halted one.
-/

/-- The flight that a report is about. A report without a seat is about none. -/
def DispatchRecord.flight?
    (instanceIndex : Nat)
    (record : DispatchRecord) :
    Option Flight :=
  match record.slot?, record.sequence? with
  | some slot, some sequence =>
      some {
        seat := { instanceIndex := instanceIndex, slot := slot }
        sequence := sequence
        request := record.request
      }
  | _, _ => none

/-- A report from an instance is about a flight from there. -/
theorem DispatchRecord.instanceIndex_of_flight
    {instanceIndex : Nat}
    {record : DispatchRecord}
    {flight : Flight}
    (isFlight : record.flight? instanceIndex = some flight) :
    flight.seat.instanceIndex = instanceIndex := by
  unfold flight? at isFlight
  split at isFlight
  · cases isFlight
    rfl
  · contradiction

namespace SequenceBatcher

/-- A report that passes the check of the bindings names a live slot that carries its sequence. -/
private theorem checkSeat_shape
    {batcher : SequenceBatcher}
    {instanceIndex : Nat}
    {record : DispatchRecord}
    {sequence : CorrelationId}
    {slot : Nat}
    (checked : batcher.checkSeat instanceIndex record = .ok (sequence, slot)) :
    record.slot? = some slot ∧
      record.sequence? = some sequence ∧
      batcher.seat? sequence = some { instanceIndex := instanceIndex, slot := slot } := by
  rw [checkSeat] at checked
  split at checked
  · next isSlot isSequence =>
      dsimp only at checked
      split at checked
      · next bound =>
          simp only [Except.ok.injEq, Prod.mk.injEq] at checked
          obtain ⟨isSame, alsoSame⟩ := checked
          subst isSame alsoSame
          exact ⟨isSlot, isSequence, bound⟩
      · contradiction
  · contradiction

/-- A report that is settled ends its flight by a move. -/
theorem settleRecord_move
    {batcher settled : SequenceBatcher}
    (coherent : batcher.Coherent)
    {instanceIndex now : Nat}
    {record : DispatchRecord}
    {failures : List Failure}
    (settles : batcher.settleRecord instanceIndex record now = .ok (settled, failures)) :
    ∃ flight failureEvents,
      record.flight? instanceIndex = some flight ∧
        Move now batcher .settling (.returned flight :: failureEvents) settled ∧
        (∀ event ∈ failureEvents, event.IsFailure) ∧
        failureEvents.filterMap Event.failure? = failures := by
  simp only [settleRecord] at settles
  split at settles
  · contradiction
  · next table isTable =>
      split at settles
      · contradiction
      · next sequence slot checked =>
          obtain ⟨isSlot, isSequence, bound⟩ := checkSeat_shape checked
          obtain ⟨_, found, _, _⟩ := coherent.liveSlot_of_seat bound
          obtain ⟨owner, live, _⟩ := liveSlot?_eq_some.mp found
          have isInstance := List.mem_of_getElem? (live?_eq_some.mp live).1
          have sameTable : owner.table = table :=
            Option.some.inj ((table?_of_live live).symm.trans isTable)
          subst sameTable
          have indexed := coherent.indexed_of_live live
          have isFlight :
              record.flight? instanceIndex =
                some {
                  seat := { instanceIndex := instanceIndex, slot := slot }
                  sequence := sequence
                  request := record.request } := by
            simp [DispatchRecord.flight?, isSlot, isSequence]
          split at settles
          · contradiction
          · next landed completed =>
              obtain ⟨held, isHeld, carries, flying, stage⟩ :=
                indexed.complete_shape (coherent.slots owner isInstance) completed
              have heldFound := liveSlot?_eq_some.mpr ⟨owner, live, isHeld⟩
              rcases stage with ⟨active, _, isLanded⟩ | ⟨_, isNone, _⟩
              · simp only [Except.ok.injEq, Prod.mk.injEq] at settles
                obtain ⟨isSettled, noFailures⟩ := settles
                rw [isLanded, withTable_put (table?_of_live live)] at isSettled
                subst isSettled noFailures
                exact ⟨_, [], isFlight, .land heldFound carries flying active, by simp, rfl⟩
              · contradiction
          · next leftovers released completed =>
              obtain ⟨held, isHeld, carries, flying, stage⟩ :=
                indexed.complete_shape (coherent.slots owner isInstance) completed
              have heldFound := liveSlot?_eq_some.mpr ⟨owner, live, isHeld⟩
              rcases stage with ⟨_, isNone, _⟩ | ⟨ending, isPending, isReleased⟩
              · contradiction
              · simp only [Except.ok.injEq, Prod.mk.injEq] at settles
                obtain ⟨isSettled, isFailures⟩ := settles
                rw [isReleased, withTable_put (table?_of_live live)] at isSettled
                subst isSettled isFailures
                refine ⟨_, _, isFlight, .release heldFound carries flying ending,
                  Event.isFailure_of_failAll _ _, ?_⟩
                rw [Event.filterMap_failure_failAll, Option.some.inj isPending]
                rfl

/-- Reports are settled by moves, in order and up to the first that does not match. -/
private theorem settleRecords_moves
    {batcher : SequenceBatcher}
    (coherent : batcher.Coherent)
    (instanceIndex now : Nat)
    (records : List DispatchRecord)
    (failed : List Failure) :
    let settlement := settleRecords instanceIndex now records batcher failed
    ∃ events settled,
      Moves now batcher .settling events settlement.batcher ∧
        settled <+: records ∧
        events.filterMap Event.returned? =
          settled.filterMap (DispatchRecord.flight? instanceIndex) ∧
        events.filterMap Event.admitted? = [] ∧
        events.filterMap Event.dispatched? = [] ∧
        ∀ all, settlement.verdict = .settled all →
          settled = records ∧ all = failed ++ events.filterMap Event.failure? := by
  induction records generalizing batcher failed with
  | nil =>
      refine ⟨[], [], .nil, List.nil_prefix, rfl, rfl, rfl, ?_⟩
      intro all isSettled
      simp only [settleRecords, Verdict.settled.injEq] at isSettled
      exact ⟨rfl, by simp [isSettled]⟩
  | cons record records inductionHypothesis =>
      simp only [settleRecords]
      split
      · refine ⟨[], [], .nil, List.nil_prefix, rfl, rfl, rfl, ?_⟩
        intro all isSettled
        contradiction
      · next middle failures settles =>
          obtain ⟨flight, failureEvents, isFlight, move, onlyFailures, isFailures⟩ :=
            settleRecord_move coherent settles
          obtain ⟨events, settled, moves, isPrefix, landed, noAdmission, noDispatch, verdict⟩ :=
            inductionHypothesis (move.coherent coherent) (failed ++ failures)
          obtain ⟨noAdmission', noDispatch', noLanding⟩ :=
            Event.filterMap_of_isFailure onlyFailures
          refine ⟨_, record :: settled, (Moves.single move).append moves,
            (List.prefix_cons_inj record).mpr isPrefix, ?_, ?_, ?_, ?_⟩
          · simp [Event.returned?, isFlight, noLanding, landed]
          · simp [List.filterMap_cons, Event.admitted?, noAdmission, noAdmission']
          · simp [List.filterMap_cons, Event.dispatched?, noDispatch, noDispatch']
          · intro all isSettled
            obtain ⟨isAll, isFailed⟩ := verdict all isSettled
            rw [isAll, isFailed]
            simp [List.filterMap_cons, Event.failure?, isFailures]

/-- A report of returned requests is settled by moves. -/
theorem complete_moves
    {batcher : SequenceBatcher}
    (coherent : batcher.Coherent)
    (instanceIndex : Nat)
    (records : List DispatchRecord)
    (now : Nat) :
    let settlement := batcher.complete instanceIndex records now
    ∃ events settled,
      Moves now batcher .settling events settlement.batcher ∧
        settled <+: records ∧
        events.filterMap Event.returned? =
          settled.filterMap (DispatchRecord.flight? instanceIndex) ∧
        events.filterMap Event.admitted? = [] ∧
        events.filterMap Event.dispatched? = [] ∧
        ∀ failed, settlement.verdict = .settled failed →
          settled = records ∧ failed = events.filterMap Event.failure? := by
  simp only [complete]
  split
  · refine ⟨[], [], .nil, List.nil_prefix, rfl, rfl, rfl, ?_⟩
    intro failed isSettled
    contradiction
  · simpa using settleRecords_moves coherent instanceIndex now records []

end SequenceBatcher

end InferenceBatching
