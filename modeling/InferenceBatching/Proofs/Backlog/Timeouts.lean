import InferenceBatching.Proofs.Backlog.Agreement
import InferenceBatching.Proofs.Sequence.Timeouts

namespace InferenceBatching

/-!
# Timeouts fail whole sequences, also in the backlog

Three loops collect what has waited too long: one over the queue of first requests, one
over the directory of what came behind them, and one over the slots. Together they fail
each lane once and as a whole, whichever of them comes across it.
-/

namespace BacklogBatcher

/--
What the timeouts of a formation do. A lane is a START in the queue of the backlog with what
the directory has under its sequence. Exactly the lanes and the slots of live instances in
which a request is late fail, each with all its requests once and with the error that its
sequence timed out, except that a START that is late itself in its lane is told that it
expired. Their sequences, and no others, are marked. A lane that fails has left the queue and
the directory. A slot that fails is freed and its sequence unbound, or waits at its end for
its request in flight, which stays as it is. What does not fail keeps its requests in order,
up to being given a slot and being sent off. All this is whatever the order in which the loop
over the directory goes: any other order leaves the same batcher and the same failures.
-/
theorem timeouts_fail_whole_sequences
    (config : ModelConfig)
    (start : Nat)
    (operations : List Operation)
    (instanceIndex now : Nat)
    (live : (((ofConfig config start).after operations).live? instanceIndex).isSome = true) :
    let batcher := (ofConfig config start).after operations
    let lanes := batcher.backlog.lanes
    let started := expireStarts (batcher.forgetTimedOut now) now
    let swept := (batcher.expire now).batcher
    let formation := batcher.formBatch instanceIndex now
    let last := formation.batcher
    let isLate := fun (entries : List QueueEntry) =>
      entries.any (fun entry => entry.isRejectable now)
    let timedOut := fun (sequence : CorrelationId) (entry : QueueEntry) =>
      ({ request := entry.request, error := .sequenceTimeout sequence } : Failure)
    let timesOut := fun (sequence : CorrelationId) =>
      (∃ lane ∈ lanes, lane.sequence = sequence ∧ isLate lane.entries = true) ∨
        ∃ slot ∈ batcher.liveSlots, slot.sequence? = some sequence ∧ isLate slot.pending = true
    (∀ lane ∈ lanes,
        lane.first.request.sequence? = some lane.sequence ∧
          batcher.backlog.followers.find? lane.sequence = some lane.followers) ∧
      (∀ order : List CorrelationId,
        order.Perm (started.batcher.backlog.stalled now) →
          let other := SequenceBatcher.expireSlots (order.foldl (failStalled now) started) now
          other.batcher = swept ∧ other.failed.Perm (batcher.expire now).failed) ∧
      formation.failed.Perm
        (lanes.flatMap (fun lane =>
            if isLate lane.entries then
              { request := lane.first.request
                error :=
                  if lane.first.isRejectable now then
                    .timeoutExpired
                  else
                    .sequenceTimeout lane.sequence } ::
                lane.followers.map (timedOut lane.sequence)
            else
              []) ++
          batcher.liveSlots.flatMap (fun slot =>
            if isLate slot.pending then
              slot.sequence?.toList.flatMap (fun sequence =>
                slot.pending.map (timedOut sequence))
            else
              [])) ∧
      (∀ sequence, timesOut sequence → last.timedOut.find? sequence = some now) ∧
      (∀ sequence,
        ¬ timesOut sequence →
          last.timedOut.find? sequence =
            (batcher.timedOut.find? sequence).filter (fun instant =>
              elapsed instant now < batcher.timedOutRetention)) ∧
      (∀ lane ∈ lanes,
        isLate lane.entries = true →
          last.backlog.followers.find? lane.sequence = none ∧
            ∀ first ∈ last.backlog.starts.entries,
              first.request.sequence? ≠ some lane.sequence) ∧
      (∀ seat slot sequence,
        batcher.liveSlot? seat = some slot →
        slot.sequence? = some sequence →
        isLate slot.pending = true →
          (∀ request,
            slot.inFlight? = some request →
              last.bindings.find? sequence = some seat ∧
                last.slotAt? seat = some { slot with state := .ending, pending := [] }) ∧
            (slot.inFlight? = none →
              swept.bindings.find? sequence = none ∧
                swept.slotAt? seat = some (Slot.unused now) ∧
                (last.bindings.find? sequence = none ∨
                  ∃ lane ∈ swept.backlog.lanes,
                    lane.sequence = sequence ∧
                      ∃ index,
                        last.bindings.find? sequence =
                          some { instanceIndex := instanceIndex, slot := index }) ∧
                (last.slotAt? seat = some (Slot.unused now) ∨
                  ∃ lane ∈ swept.backlog.lanes,
                    last.bindings.find? lane.sequence = some seat))) ∧
      (∀ lane ∈ lanes,
        isLate lane.entries = false →
          (lane.first ∈ last.backlog.starts.entries ∧
              last.backlog.followers.find? lane.sequence = some lane.followers) ∨
            ∃ index after,
              last.bindings.find? lane.sequence =
                  some { instanceIndex := instanceIndex, slot := index } ∧
                last.slotAt? { instanceIndex := instanceIndex, slot := index } = some after ∧
                after.sequence? = some lane.sequence ∧
                (formation.sentFrom?
                      { instanceIndex := instanceIndex, slot := index }).toList ++
                    after.pending =
                  lane.entries) ∧
      ∀ seat slot,
        batcher.liveSlot? seat = some slot →
        slot.pending ≠ [] →
        isLate slot.pending = false →
          ∃ after,
            last.slotAt? seat = some after ∧
              after.sequence? = slot.sequence? ∧
              (formation.sentFrom? seat).toList ++ after.pending = slot.pending := by
  intro batcher lanes started swept formation last isLate timedOut timesOut
  have coherent : batcher.Coherent := (coherent_ofConfig config start).after operations
  have holds : batcher.backlog.Holds batcher.policy lanes := coherent.mirrors.holds
  have forms : formation.Mirrors (batcher.lanes.formBatch instanceIndex now) :=
    coherent.formBatch instanceIndex now
  have sweeps : (batcher.expire now).Mirrors (batcher.lanes.expire now) :=
    expire_mirrors holds now
  have lastHolds := forms.batcher.holds
  have sweptLanes : swept.backlog.lanes = (batcher.lanes.expire now).batcher.backlog :=
    sweeps.batcher.holds.lanes_eq
  have sent :
      ∀ seat, (batcher.lanes.formBatch instanceIndex now).sentFrom? seat =
        formation.sentFrom? seat := by
    intro seat
    rw [Formation.sentFrom?, ← forms.batch]
    rfl
  obtain ⟨fails, marked, unmarked, gone, slots, kept, pendingKept⟩ :=
    SequenceBatcher.timeouts_of_lanes coherent.lanes live now
  simp only [forms.batcher.seat?_eq, forms.batcher.slotAt?_eq, forms.batcher.timedOut_eq,
    sweeps.batcher.seat?_eq, sweeps.batcher.slotAt?_eq, ← sweptLanes, sent]
    at marked unmarked slots kept pendingKept
  refine ⟨fun lane member => ⟨holds.named lane member, holds.find?_followers member⟩,
    fun _ => expire_inOrder holds now, forms.failed.trans fails, marked, unmarked, ?_, slots, ?_,
    pendingKept⟩
  · intro lane member late
    have noFollowers : last.backlog.followers.find? lane.sequence = none := by
      rw [lastHolds.followers]
      exact congrArg (Option.map Lane.followers) (gone lane member late)
    refine ⟨noFollowers, ?_⟩
    intro first isFirst isSequence
    have listed := (lastHolds.mem_keys_followers lane.sequence).mpr ⟨first, isFirst, isSequence⟩
    obtain ⟨⟨key, followers⟩, isPair, rfl⟩ := List.mem_map.mp listed
    have isFound := last.backlog.followers.find?_eq_some_iff.mpr isPair
    exact Option.some_ne_none followers (isFound.symm.trans noFollowers)
  · intro lane member inTime
    refine (kept lane member inTime).imp_left ?_
    intro stillWaits
    refine ⟨?_, lastHolds.find?_followers stillWaits⟩
    rw [lastHolds.entries_starts]
    exact List.mem_map_of_mem stillWaits

/--
A late follower fails its START, and a late request behind one in flight fails alone and
leaves its slot at its end. The third sequence goes on.
-/
theorem timeouts_fail_whole_sequences_of_three :
    let config : ModelConfig :=
      { name := "model"
        sequenceBatching? := some {
          maxSequences := 2
          policy := { timeoutAction := .reject, allowsOverride := true } } }
    let operations : List Operation :=
      [.enqueue { id := 1, sequence? := some 7, starts := true } 0,
        .enqueue { id := 2, sequence? := some 8, starts := true } 0,
        .form 0 0,
        .enqueue { id := 3, sequence? := some 7, timeout? := some 1000 } 0,
        .enqueue { id := 4, sequence? := some 8 } 0,
        .enqueue { id := 5, sequence? := some 9, starts := true } 0,
        .enqueue { id := 6, sequence? := some 9, timeout? := some 500 } 0]
    let batcher := (ofConfig config 0).after operations
    let formation := BacklogBatcher.formBatch batcher 0 1000
    (batcher.live? 0).isSome = true ∧
      (formation.failed.map (fun failure => (failure.request.id, failure.error))).Perm
        [(5, .sequenceTimeout 9), (6, .sequenceTimeout 9), (3, .sequenceTimeout 7)] ∧
      formation.batcher.timedOut.find? 9 = some 1000 ∧
      formation.batcher.backlog.followers.find? 9 = none ∧
      formation.batcher.bindings.find? 7 = some { instanceIndex := 0, slot := 0 } := by
  intro config operations batcher formation
  have live : (batcher.live? 0).isSome = true := by decide
  have whole := timeouts_fail_whole_sequences config 0 operations 0 1000 live
  have isReached : (ofConfig config 0).after operations = batcher := rfl
  have isFormation : BacklogBatcher.formBatch batcher 0 1000 = formation := rfl
  simp only [isReached, isFormation] at whole
  obtain ⟨_, _, fails, marks, _, gone, slots, _⟩ := whole
  have late :
      ∃ lane ∈ batcher.backlog.lanes,
        lane.sequence = 9 ∧ lane.entries.any (fun entry => entry.isRejectable 1000) = true := by
    decide
  have flying :
      (batcher.liveSlot? { instanceIndex := 0, slot := 0 }).any (fun slot =>
        slot.sequence? = some 7 && slot.inFlight? = some 1 &&
          slot.pending.any (fun entry => entry.isRejectable 1000)) = true := by
    decide
  obtain ⟨lane, member, isSequence, isLate⟩ := late
  obtain ⟨slot, found, isSlot⟩ := (Option.any_eq_true _ _).mp flying
  simp only [Bool.and_eq_true, decide_eq_true_eq] at isSlot
  obtain ⟨⟨carries, inFlight⟩, slotLate⟩ := isSlot
  have isMarked := marks 9 (Or.inl ⟨lane, member, isSequence, isLate⟩)
  have laneGone := (gone lane member isLate).1
  have stillBound := ((slots _ slot 7 found carries slotLate).1 1 inFlight).1
  rw [isSequence] at laneGone
  refine ⟨live, ?_, isMarked, laneGone, stillBound⟩
  exact (fails.map _).trans (List.Perm.of_eq (by decide))

end BacklogBatcher

end InferenceBatching
