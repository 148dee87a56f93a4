import InferenceBatching.Proofs.Run.Ledger
import InferenceBatching.Proofs.Sequence.Waiting

namespace InferenceBatching

/-!
# Reject deadlines

Trying to form a batch first gives up what is late: whatever is dispatched then, or
waits on afterwards, has time left. A request fails for being late only if it is
late itself or waits in one place with a late request of its sequence.
-/

namespace Selection

variable {inputs : List InputSpec}

/-- Considering an entry fails it for nothing but its inputs. -/
theorem failed_consider
    (selection : Selection)
    (entry : QueueEntry) :
    ∀ failure ∈ (consider inputs selection entry).failed,
      failure ∈ selection.failed ∨ ∃ message, failure.error = .invalidRequest message := by
  intro failure member
  unfold consider at member
  split at member
  · rcases List.mem_append.mp member with before | isNew
    · exact Or.inl before
    · rw [List.mem_singleton.mp isNew]
      exact Or.inr ⟨_, rfl⟩
  · split at member
    · exact Or.inl member
    · exact Or.inl member

end Selection

namespace DynamicBatcher

variable (batcher : DynamicBatcher)
variable (now : Nat)

theorem failed_select
    (limit : Nat) :
    ∀ failure ∈ (batcher.select limit now).failed,
      ∃ message, failure.error = .invalidRequest message := by
  refine select_induction (motive := fun selection =>
    ∀ failure ∈ selection.failed, ∃ message, failure.error = .invalidRequest message) ?_ ?_ now
  · intro failure member
    contradiction
  · intro selection queue entry level _ _ before failure member
    rcases Selection.failed_consider _ entry failure member with already | isInvalid
    · exact before failure already
    · exact isInvalid

/-- What is taken out as late is late. -/
theorem late_takeExpired :
    ∀ request ∈ (batcher.takeExpired now).requests,
      ∃ entry ∈ batcher.pendingEntries,
        entry.request = request ∧ entry.isRejectable now = true := by
  intro request member
  have isTaken : (batcher.takeExpired now).requests = requestsOf _ :=
    congrArg requestsOf (batcher.queue.entries_removeWhere _).1
  rw [isTaken] at member
  obtain ⟨entry, isLate, isRequest⟩ := List.mem_map.mp member
  obtain ⟨waits, late⟩ := List.mem_filter.mp isLate
  exact ⟨entry, waits, isRequest, late⟩

/-- A formation dispatches nothing that is late, and leaves nothing late. -/
theorem formBatch_inTime
    (instanceIndex : Nat) :
    let formation := batcher.formBatch instanceIndex now
    (∀ batch ∈ formation.batch?, ∀ entry ∈ batch.queueEntries,
        entry.isRejectable now = false) ∧
      ∀ entry ∈ formation.batcher.pendingEntries, entry.isRejectable now = false := by
  have inTime := batcher.inTime_takeExpired now
  refine formBatch_cases
    (motive := fun formation =>
      (∀ batch ∈ formation.batch?, ∀ entry ∈ batch.queueEntries,
          entry.isRejectable now = false) ∧
        ∀ entry ∈ formation.batcher.pendingEntries, entry.isRejectable now = false) ?_ ?_
  · intro phase wakeAt?
    exact ⟨by simp [Formation.idle], inTime⟩
  · intro limit
    obtain ⟨failed, _, isSplit⟩ :=
      (batcher.takeExpired now).batcher.accounts_select limit now
    obtain ⟨remaining, dispatched, _⟩ :=
      (batcher.takeExpired now).batcher.close_eq instanceIndex limit
        (Failure.all (batcher.takeExpired now).requests .timeoutExpired) now
    constructor
    · intro batch formed entry member
      apply inTime entry (isSplit.mem_iff.mpr _)
      rw [Option.mem_def.mp formed, Option.toList_some, List.flatMap_singleton] at dispatched
      simp [← dispatched, member]
    · intro entry member
      apply inTime entry (isSplit.mem_iff.mpr _)
      rw [remaining] at member
      simp [member]

/-- A formation fails a request for its inputs, or for being late. -/
theorem failed_formBatch
    (instanceIndex : Nat) :
    ∀ failure ∈ (batcher.formBatch instanceIndex now).failed,
      (∃ message, failure.error = .invalidRequest message) ∨
        failure.IsDue (batcher.pendingEntries.map (fun entry => [entry])) now := by
  have expired :
      ∀ failure ∈ Failure.all (batcher.takeExpired now).requests .timeoutExpired,
        failure.IsDue (batcher.pendingEntries.map (fun entry => [entry])) now := by
    intro failure member
    obtain ⟨request, isTaken, isFailure⟩ := List.mem_map.mp member
    obtain ⟨entry, waits, isRequest, late⟩ := batcher.late_takeExpired now request isTaken
    refine ⟨[entry], List.mem_map_of_mem waits, entry, List.mem_singleton_self entry, ?_, ?_⟩
    · rw [isRequest, ← isFailure]
    · exact Or.inl ⟨by rw [← isFailure], late⟩
  refine formBatch_cases
    (motive := fun formation =>
      ∀ failure ∈ formation.failed,
        (∃ message, failure.error = .invalidRequest message) ∨
          failure.IsDue (batcher.pendingEntries.map (fun entry => [entry])) now) ?_ ?_
  · intro phase wakeAt? failure member
    exact Or.inr (expired failure member)
  · intro limit failure member
    rw [((batcher.takeExpired now).batcher.close_eq instanceIndex limit _ now).2.2] at member
    rcases List.mem_append.mp member with isLate | isInvalid
    · exact Or.inr (expired failure isLate)
    · exact Or.inl (failed_select _ now limit failure isInvalid)

end DynamicBatcher

namespace BacklogBatcher

/-- What waits together where it can still be run: each lane, and what is pending on each slot. -/
def liveGroups
    (batcher : BacklogBatcher) :
    List (List QueueEntry) :=
  batcher.lanes.liveGroups

/-- All that waits where it can still be run: in the backlog and on slots of live instances. -/
def liveEntries
    (batcher : BacklogBatcher) :
    List QueueEntry :=
  batcher.backlog.entries ++ batcher.liveSlots.flatMap Slot.pending

/-- All that the backlog has, in its queue or its directory, waits in some of the groups. -/
theorem Coherent.liveGroups_perm
    {batcher : BacklogBatcher}
    (coherent : batcher.Coherent) :
    batcher.liveGroups.flatten.Perm batcher.liveEntries := by
  have waiting := coherent.mirrors.holds.entries_perm
  rw [liveGroups, SequenceBatcher.liveGroups, List.flatten_append, ← List.flatMap_def,
    ← List.flatMap_def]
  exact waiting.symm.append_right _

end BacklogBatcher

namespace Batcher

/-- Whether an instance may be given batches. Those of a dynamic batcher always may. -/
def isLive
    (batcher : Batcher)
    (instanceIndex : Nat) :
    Bool :=
  match batcher with
  | .dynamic _ => true
  | .sequence batcher => (batcher.live? instanceIndex).isSome

/-- What waits together where it can still be run; independent requests wait each for itself. -/
def liveGroups :
    Batcher →
    List (List QueueEntry)
  | .dynamic batcher => batcher.pendingEntries.map (fun entry => [entry])
  | .sequence batcher => batcher.liveGroups

/-- All that waits where it can still be run. -/
def liveEntries :
    Batcher →
    List QueueEntry
  | .dynamic batcher => batcher.pendingEntries
  | .sequence batcher => batcher.liveEntries

theorem Coherent.mem_liveEntries
    {batcher : Batcher}
    (coherent : batcher.Coherent)
    {entry : QueueEntry} :
    entry ∈ batcher.liveEntries ↔ ∃ group ∈ batcher.liveGroups, entry ∈ group := by
  cases batcher with
  | dynamic batcher => simp [liveEntries, liveGroups]
  | sequence batcher =>
      have covered := (BacklogBatcher.Coherent.liveGroups_perm coherent).mem_iff (a := entry)
      exact covered.symm.trans List.mem_flatten

/-- An attempt on a live instance dispatches nothing late, leaves nothing late, and fails as due. -/
theorem attempt_deadlines
    {batcher : Batcher}
    (coherent : batcher.Coherent)
    {instanceIndex : Nat}
    (live : batcher.isLive instanceIndex = true)
    (now : Nat) :
    let formation := batcher.attempt instanceIndex now
    (∀ batch ∈ formation.batch?, ∀ entry ∈ batch.queueEntries,
        entry.isRejectable now = false) ∧
      (∀ group ∈ formation.batcher.liveGroups, ∀ entry ∈ group,
        entry.isRejectable now = false) ∧
      ∀ failure ∈ formation.failed,
        (∃ message, failure.error = .invalidRequest message) ∨
          failure.IsDue batcher.liveGroups now := by
  have singly :
      ∀ entries : List QueueEntry,
        (∀ entry ∈ entries, entry.isRejectable now = false) →
          ∀ group ∈ entries.map (fun entry => [entry]), ∀ entry ∈ group,
            entry.isRejectable now = false := by
    intro entries inTime group isGroup entry member
    obtain ⟨waiting, waits, isSingle⟩ := List.mem_map.mp isGroup
    rw [← isSingle] at member
    exact List.mem_singleton.mp member ▸ inTime waiting waits
  cases batcher with
  | sequence batcher =>
      have held : batcher.Coherent := coherent
      have mirrors := held.formBatch instanceIndex now
      have lanesLive : (batcher.lanes.live? instanceIndex).isSome = true := live
      obtain ⟨dispatched, left⟩ := SequenceBatcher.formBatch_inTime held.lanes lanesLive
      rw [← mirrors.batch] at dispatched
      rw [← mirrors.batcher.lanes_eq] at left
      refine ⟨dispatched, fun group isGroup => left.of_mem isGroup, ?_⟩
      intro failure member
      have fails := mirrors.failed.mem_iff.mp member
      rw [SequenceBatcher.failed_formBatch lanesLive] at fails
      exact Or.inr (SequenceBatcher.failed_expire_isDue held.lanes now failure fails)
  | dynamic batcher =>
      cases overreaches : batcher.overreach? now with
      | some lost =>
          have inTime := batcher.inTime_takeExpired now
          rw [DynamicBatcher.takeExpired_of_overreach overreaches] at inTime
          rw [attempt_of_overreach overreaches]
          exact ⟨by simp [Formation.idle], singly _ inTime, by simp [Formation.idle]⟩
      | none =>
          obtain ⟨dispatched, left⟩ := batcher.formBatch_inTime now instanceIndex
          rw [attempt_of_room overreaches]
          exact ⟨dispatched, singly _ left, batcher.failed_formBatch now instanceIndex⟩

/--
In every run, an attempt to form a batch on a live instance dispatches no request
that is past a deadline at which it is to be rejected, and leaves none waiting where
it can still be run. It fails a request for its inputs, or for being past such a
deadline, or because of one of its sequence that is and waits in the same place; so
requests that are to be delayed, or have no deadline, are never late themselves.
-/
theorem reject_deadlines
    (config : ModelConfig)
    (start : Nat)
    (kind : BatchKind)
    (operations : List Operation)
    (instanceIndex now : Nat)
    (live : ((ofKind config start kind).after operations).isLive instanceIndex = true) :
    let batcher := (ofKind config start kind).after operations
    let formation := batcher.attempt instanceIndex now
    let isLate := fun entry : QueueEntry =>
      entry.timeoutAction = .reject ∧ ∃ deadline ∈ entry.deadline?, deadline ≤ now
    (∀ batch ∈ formation.batch?, ∀ entry ∈ batch.queueEntries, ¬ isLate entry) ∧
      (∀ entry ∈ formation.batcher.liveEntries, ¬ isLate entry) ∧
      (∀ group ∈ formation.batcher.liveGroups, ∀ entry ∈ group, ¬ isLate entry) ∧
      ∀ failure ∈ formation.failed,
        (∃ message, failure.error = .invalidRequest message) ∨
          ∃ group ∈ batcher.liveGroups, ∃ entry ∈ group,
            entry.request = failure.request ∧
              (failure.error = .timeoutExpired ∧ isLate entry ∨
                ∃ sequence, ∃ late ∈ group,
                  failure.error = .sequenceTimeout sequence ∧
                    late.request.sequence? = some sequence ∧
                    isLate late) := by
  intro batcher formation isLate
  have isLate_iff : ∀ entry : QueueEntry, isLate entry ↔ entry.isRejectable now = true := by
    intro entry
    simp only [isLate, QueueEntry.isRejectable, QueueEntry.isExpired]
    cases entry.deadline? <;> simp
  have notLate : ∀ entry : QueueEntry, ¬ isLate entry ↔ entry.isRejectable now = false := by
    intro entry
    rw [isLate_iff, Bool.not_eq_true]
  simp only [notLate]
  simp only [isLate_iff]
  have coherent : batcher.Coherent := (coherent_ofKind config start kind _).after operations
  have formed : formation.batcher.Coherent := coherent.perform (.form instanceIndex now)
  obtain ⟨dispatched, left, failed⟩ := attempt_deadlines coherent live now
  refine ⟨dispatched, ?_, left, failed⟩
  intro entry waits
  obtain ⟨group, isGroup, member⟩ := formed.mem_liveEntries.mp waits
  exact left group isGroup entry member

/-- A late request takes along the one before it of its sequence; another sequence goes on. -/
theorem reject_deadlines_of_two_sequences :
    let config : ModelConfig :=
      { name := "model"
        sequenceBatching? := some { maxSequences := 2, policy := { allowsOverride := true } } }
    let operations : List Operation :=
      [.enqueue { id := 1, sequence? := some 7, starts := true } 0,
        .enqueue { id := 2, sequence? := some 7, timeout? := some 5 } 0,
        .enqueue { id := 3, sequence? := some 8, starts := true } 1]
    let batcher := (ofKind config 0 .sequence).after operations
    let formation := batcher.attempt 0 5
    batcher.isLive 0 = true ∧
      formation.failed.map (fun failure => failure.request.id) = [1, 2] ∧
      (formation.batch?.toList.flatMap Batch.queueEntries).map
          (fun entry => entry.request.id) = [3] ∧
      ∀ batch ∈ formation.batch?, ∀ entry ∈ batch.queueEntries,
        ¬ (entry.timeoutAction = .reject ∧ ∃ deadline ∈ entry.deadline?, deadline ≤ 5) := by
  intro config operations batcher formation
  refine ⟨by decide, by decide, by decide, ?_⟩
  exact (reject_deadlines config 0 .sequence operations 0 5 (by decide)).1

end Batcher

end InferenceBatching
