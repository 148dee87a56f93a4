import InferenceBatching.Batcher.Basic
import InferenceBatching.Proofs.Dynamic.Conservation
import InferenceBatching.Proofs.Queue.Conservation
import InferenceBatching.Proofs.Run.Operation
import InferenceBatching.Proofs.Sequence.Admission

namespace InferenceBatching

/-!
# What a rejection leaves

A request that is turned away is handed back as it was submitted, and the batcher
is as it was before. There is one exception: a START with right inputs makes an
end of the timeout of its sequence when it arrives, not when it is let in, so the
mark is gone also if there is no room for it.
-/

namespace BacklogBatcher

/--
Whether a request takes the timeout mark off a sequence, whatever becomes of it:
a START with right inputs does so for its own sequence.
-/
def Unmarks
    (batcher : BacklogBatcher)
    (request : Request)
    (sequence : CorrelationId) :
    Prop :=
  request.sequence? = some sequence ∧
    request.starts = true ∧
    inputMismatch? batcher.inputs request = none ∧
    (batcher.timedOut.find? sequence).isSome = true

section Refusals

variable {batcher : BacklogBatcher}
variable {sequence : CorrelationId}
variable {request : Request}
variable {now : Nat}
variable {failure : Failure}

/-- A START that finds the backlog full leaves everything as it was. -/
theorem pushBacklog_rejected
    (rejected : (batcher.pushBacklog sequence request now).rejection? = some failure) :
    batcher.pushBacklog sequence request now = .rejected batcher request batcher.noRoom := by
  simp only [pushBacklog] at rejected ⊢
  split at rejected
  · contradiction
  · next refusal isRefused =>
      have isFull : refusal = { request := request, error := .queueFull } := by
        unfold Backlog.push at isRefused
        split at isRefused
        · contradiction
        · next isError =>
            rw [← Except.error.inj isRefused]
            exact PriorityQueue.enqueue_error isError
      rw [isFull]
      rfl

/-- A sequence that may not start leaves everything as it was. -/
theorem startSequence_rejected
    (rejected : (batcher.startSequence sequence request now).rejection? = some failure) :
    batcher.startSequence sequence request now = .rejected batcher request batcher.noRoom := by
  simp only [startSequence] at rejected ⊢
  split at rejected
  · contradiction
  · split at rejected
    · next waits =>
        rw [if_pos waits]
        exact pushBacklog_rejected rejected
    · next waitsNot =>
        rw [if_neg waitsNot, SequenceBatcher.noRoom, if_neg waitsNot]

/-- A request that may not join leaves everything as it was; a START is told of the want of room. -/
theorem join_rejected
    (rejected : (batcher.join sequence request now).rejection? = some failure) :
    batcher.join sequence request now =
      .rejected batcher request
        (if request.starts then batcher.noRoom else .sequenceNotFound sequence) := by
  simp only [join] at rejected ⊢
  split at rejected
  · contradiction
  · split at rejected
    · split at rejected
      · contradiction
      · next closed =>
          rw [if_neg closed]
          split at rejected
          · next starts =>
              rw [if_pos starts, if_pos starts]
              exact pushBacklog_rejected rejected
          · next continues =>
              rw [if_neg continues, if_neg continues]
    · split at rejected
      · next starts =>
          rw [if_pos starts, if_pos starts]
          exact startSequence_rejected rejected
      · next continues =>
          rw [if_neg continues, if_neg continues]

/-- A request that is turned away is handed back and takes at most the mark off its sequence. -/
theorem enqueue_turned_away
    (rejected : (batcher.enqueue request now).rejection? = some failure) :
    failure.request = request ∧
      (∀ sequence,
        batcher.Unmarks request sequence →
          failure.error = batcher.noRoom ∧
            (batcher.enqueue request now).batcher =
              { batcher with timedOut := batcher.timedOut.erase sequence }) ∧
      ((∀ sequence, ¬ batcher.Unmarks request sequence) →
        (batcher.enqueue request now).batcher = batcher) := by
  simp only [enqueue] at rejected ⊢
  split at rejected
  · next alone =>
      rw [← Option.some.inj rejected]
      simp [Unmarks, alone, Answer.rejected]
  · next sequence belongs =>
      split at rejected
      · next late =>
          rw [if_pos late, ← Option.some.inj rejected]
          rw [Bool.and_eq_true, Bool.not_eq_true'] at late
          simp [Unmarks, late.1, Answer.rejected]
      · next inTime =>
          rw [if_neg inTime]
          split at rejected
          · next mismatch isMismatch =>
              rw [← Option.some.inj rejected]
              simp [Unmarks, isMismatch, Answer.rejected]
          · next fits =>
              split at rejected
              · next starts =>
                  rw [if_pos starts]
                  have isRefusal := join_rejected rejected
                  rw [isRefusal, if_pos starts] at rejected ⊢
                  rw [← Option.some.inj rejected]
                  refine ⟨rfl, ?_, ?_⟩
                  · intro other unmarks
                    have same : sequence = other :=
                      Option.some.inj (belongs.symm.trans unmarks.1)
                    rw [same]
                    exact ⟨rfl, rfl⟩
                  · intro unmarksNone
                    have absent : batcher.timedOut.find? sequence = none := by
                      rw [← Option.not_isSome_iff_eq_none]
                      exact fun marked => unmarksNone sequence ⟨belongs, starts, fits, marked⟩
                    simp only [Answer.rejected, Directory.erase_of_absent absent]
              · next continues =>
                  rw [if_neg continues]
                  have isRefusal := join_rejected rejected
                  rw [isRefusal, if_neg continues] at rejected ⊢
                  rw [← Option.some.inj rejected]
                  simp [Unmarks, continues, Answer.rejected]

end Refusals

/-- The mark of a sequence is gone although the START that came for it found no slot. -/
theorem mark_gone_after_refused_start :
    let config : ModelConfig :=
      { name := "model"
        sequenceBatching? := some
          { maxSequences := 1, blocking := false, policy := { allowsOverride := true } } }
    let batcher := (ofConfig config 0).after
      [.enqueue { id := 1, sequence? := some 7, starts := true, timeout? := some 5 } 0,
        .form 0 5,
        .enqueue { id := 2, sequence? := some 8, starts := true } 5]
    let newcomer : Request := { id := 3, sequence? := some 7, starts := true }
    let answer := batcher.enqueue newcomer 5
    config.problem? = none ∧
      answer.rejection? = some { request := newcomer, error := .noAvailableSlot } ∧
      batcher.timedOut.find? 7 = some 5 ∧
      answer.batcher.timedOut.find? 7 = none ∧
      answer.batcher ≠ batcher := by
  decide

end BacklogBatcher

namespace Batcher

/--
Turning a request away changes nothing, apart from the mark of a sequence for
which a START with right inputs came.
-/
theorem turned_away
    {batcher : Batcher}
    {request : Request}
    {now : Nat}
    {failure : Failure}
    (rejected : (batcher.enqueue request now).rejection? = some failure) :
    failure.request = request ∧
      match batcher with
      | .dynamic _ => (batcher.enqueue request now).batcher = batcher
      | .sequence held =>
          (∀ sequence,
            held.Unmarks request sequence →
              failure.error = (if held.blocking then .queueFull else .noAvailableSlot) ∧
                (batcher.enqueue request now).batcher =
                  .sequence { held with timedOut := held.timedOut.erase sequence }) ∧
          ((∀ sequence, ¬ held.Unmarks request sequence) →
            (batcher.enqueue request now).batcher = batcher) := by
  cases batcher with
  | dynamic held =>
      obtain ⟨same, unchanged⟩ := DynamicBatcher.enqueue_rejected rejected
      exact ⟨same, congrArg Batcher.dynamic unchanged⟩
  | sequence held =>
      obtain ⟨same, unmarked, unchanged⟩ := BacklogBatcher.enqueue_turned_away rejected
      refine ⟨same, ?_, ?_⟩
      · intro sequence unmarks
        obtain ⟨isError, isAfter⟩ := unmarked sequence unmarks
        exact ⟨isError, congrArg Batcher.sequence isAfter⟩
      · intro unmarksNone
        exact congrArg Batcher.sequence (unchanged unmarksNone)

/-- A START that finds the backlog full takes its sequence's mark with it, and nothing else. -/
theorem turned_away_of_marked_start :
    let config : ModelConfig :=
      { name := "model"
        sequenceBatching? := some
          { maxSequences := 1, policy := { capacity := 1, allowsOverride := true } } }
    let held := (BacklogBatcher.ofConfig config 0).after
      [.enqueue { id := 1, sequence? := some 7, starts := true, timeout? := some 5 } 0,
        .form 0 5,
        .enqueue { id := 2, sequence? := some 8, starts := true } 5,
        .enqueue { id := 3, sequence? := some 9, starts := true } 5]
    let newcomer : Request := { id := 4, sequence? := some 7, starts := true }
    let answer := (Batcher.sequence held).enqueue newcomer 5
    answer.rejection? = some { request := newcomer, error := .queueFull } ∧
      held.Unmarks newcomer 7 ∧
      answer.batcher = .sequence { held with timedOut := held.timedOut.erase 7 } := by
  intro config held newcomer answer
  have rejected : answer.rejection? = some { request := newcomer, error := .queueFull } := by
    decide
  have unmarks : held.Unmarks newcomer 7 := by
    simp only [BacklogBatcher.Unmarks]
    decide
  exact ⟨rejected, unmarks, ((turned_away rejected).2.1 7 unmarks).2⟩

end Batcher

end InferenceBatching
