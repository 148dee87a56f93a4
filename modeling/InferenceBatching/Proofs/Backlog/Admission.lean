import InferenceBatching.Backlog.Admission
import InferenceBatching.Proofs.Backlog.Frame
import InferenceBatching.Proofs.Backlog.Lanes

namespace InferenceBatching

/-!
# Admission with a backlog and with lanes

A batcher with a backlog lets in what the batcher with its lanes lets in, turns away
what that one turns away, for the same reasons, and mirrors it afterwards.
-/

/-- Two answers are the same, of batchers that mirror each other. -/
structure Answer.Mirrors
    (answer : Answer BacklogBatcher)
    (other : Answer SequenceBatcher) :
    Prop where
  batcher : answer.batcher.Mirrors other.batcher
  rejection : answer.rejection? = other.rejection?

namespace BacklogBatcher

variable {batcher : BacklogBatcher}
variable {lanes : List Lane}

/-- An entry queued on a slot leaves the backlog alone. -/
theorem pushAt_mirrors
    (holds : batcher.backlog.Holds batcher.policy lanes)
    (seat : Seat)
    (entry : QueueEntry)
    (now : Nat) :
    Mirrors (batcher.pushAt seat entry now)
      ((batcher.withBacklog lanes).pushAt seat entry now) := by
  rw [SequenceBatcher.pushAt_withBacklog]
  refine mirrors_withBacklog ?_
  unfold SequenceBatcher.pushAt
  split <;> exact holds

/-- The backlog has room for the first request of a sequence when there is room for its lane. -/
theorem pushBacklog_mirrors
    (holds : batcher.backlog.Holds batcher.policy lanes)
    {sequence : CorrelationId}
    {request : Request}
    (absent : lanes.find? (fun lane => lane.sequence = sequence) = none)
    (belongs : request.sequence? = some sequence)
    (now : Nat) :
    (batcher.pushBacklog sequence request now).Mirrors
      ((batcher.withBacklog lanes).openLane sequence request now) := by
  have isPushed := holds.push_eq absent belongs now
  have samePolicy : (batcher.withBacklog lanes).policy = batcher.policy := rfl
  have sameLanes : (batcher.withBacklog lanes).backlog = lanes := rfl
  unfold pushBacklog SequenceBatcher.openLane
  rw [samePolicy, sameLanes]
  by_cases room : batcher.policy.hasRoom lanes.length = true
  · rw [if_pos room] at isPushed ⊢
    obtain ⟨pushed, isPushed, stillHolds⟩ := isPushed
    rw [isPushed]
    exact ⟨⟨rfl, stillHolds⟩, rfl⟩
  · rw [if_neg room] at isPushed ⊢
    rw [isPushed]
    exact ⟨mirrors_withBacklog holds, rfl⟩

theorem startSequence_mirrors
    (holds : batcher.backlog.Holds batcher.policy lanes)
    {sequence : CorrelationId}
    {request : Request}
    (absent : lanes.find? (fun lane => lane.sequence = sequence) = none)
    (belongs : request.sequence? = some sequence)
    (now : Nat) :
    (batcher.startSequence sequence request now).Mirrors
      ((batcher.withBacklog lanes).startSequence sequence request now) := by
  unfold startSequence SequenceBatcher.startSequence
  rw [SequenceBatcher.bindFree?_withBacklog]
  cases isBound : batcher.bindFree? sequence now with
  | some bound =>
      have stillHolds : bound.2.backlog.Holds bound.2.policy lanes := by
        unfold SequenceBatcher.bindFree? at isBound
        split at isBound
        · contradiction
        · cases isBound
          exact holds
      exact ⟨pushAt_mirrors stillHolds bound.1 _ now, rfl⟩
  | none =>
      dsimp only [Option.map_none]
      change Answer.Mirrors _ (if batcher.blocking then _ else _)
      split
      · exact pushBacklog_mirrors holds absent belongs now
      · exact ⟨mirrors_withBacklog holds, rfl⟩

theorem join_mirrors
    (holds : batcher.backlog.Holds batcher.policy lanes)
    {sequence : CorrelationId}
    {request : Request}
    (belongs : request.sequence? = some sequence)
    (now : Nat) :
    (batcher.join sequence request now).Mirrors
      ((batcher.withBacklog lanes).join sequence request now) := by
  unfold join SequenceBatcher.join
  have sameLane :
      (batcher.withBacklog lanes).lane? sequence =
        lanes.find? (fun lane => lane.sequence = sequence) :=
    rfl
  rw [sameLane]
  cases waits : lanes.find? (fun lane => lane.sequence = sequence) with
  | some lane =>
      obtain ⟨followed, isFollowed, stillHolds⟩ :=
        holds.follow?_some waits (batcher.entryFor request now)
      rw [isFollowed]
      exact ⟨⟨rfl, stillHolds⟩, rfl⟩
  | none =>
      rw [holds.follow?_none waits, SequenceBatcher.seat?_withBacklog]
      cases batcher.seat? sequence with
      | some seat =>
          change Answer.Mirrors (if batcher.isActive seat then _ else _)
            (if batcher.isActive seat then _ else _)
          by_cases active : batcher.isActive seat = true
          · rw [if_pos active, if_pos active]
            exact ⟨pushAt_mirrors holds seat _ now, rfl⟩
          · rw [if_neg active, if_neg active]
            cases request.starts with
            | true => exact pushBacklog_mirrors holds waits belongs now
            | false => exact ⟨mirrors_withBacklog holds, rfl⟩
      | none =>
          cases request.starts with
          | true => exact startSequence_mirrors holds waits belongs now
          | false => exact ⟨mirrors_withBacklog holds, rfl⟩

/-- What is let in and what is turned away is the same with a backlog and with its lanes. -/
theorem enqueue_mirrors
    (holds : batcher.backlog.Holds batcher.policy lanes)
    (request : Request)
    (now : Nat) :
    (batcher.enqueue request now).Mirrors
      ((batcher.withBacklog lanes).enqueue request now) := by
  have rejects :
      ∀ error, (Answer.rejected batcher request error).Mirrors
        (.rejected (batcher.withBacklog lanes) request error) :=
    fun error => ⟨mirrors_withBacklog holds, rfl⟩
  have sameMarks :
      ∀ sequence,
        (batcher.withBacklog lanes).isTimedOut sequence now = batcher.isTimedOut sequence now :=
    fun _ => rfl
  have sameInputs : (batcher.withBacklog lanes).inputs = batcher.inputs := rfl
  unfold enqueue SequenceBatcher.enqueue
  cases belongs : request.sequence? with
  | none => exact rejects _
  | some sequence =>
      simp only [sameMarks, sameInputs]
      cases !request.starts && batcher.isTimedOut sequence now with
      | true => exact rejects _
      | false =>
          cases inputMismatch? batcher.inputs request with
          | some mismatch => exact rejects _
          | none =>
              cases request.starts with
              | true =>
                  have unmarked :
                      { batcher with
                        timedOut := batcher.timedOut.erase sequence }.backlog.Holds
                        batcher.policy lanes :=
                    holds
                  exact join_mirrors unmarked belongs now
              | false => exact join_mirrors holds belongs now

end BacklogBatcher

end InferenceBatching
