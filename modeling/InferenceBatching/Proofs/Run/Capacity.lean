import Mathlib.Data.List.Perm.Subperm
import InferenceBatching.Proofs.Backlog.Conservation
import InferenceBatching.Proofs.Queue.Capacity
import InferenceBatching.Proofs.Run.Order

namespace InferenceBatching

/-!
# Capacity over runs

Whatever is done to a batcher, no level and no backlog holds more than its policy allows,
although what a batch cannot take is put back without asking for room. Letting a request
in is the only operation that adds to a queue, and it never takes anything out.
-/

/-- The layout of the queues of independent requests: one level if grouping is not described. -/
def ModelConfig.queueLayout
    (config : ModelConfig) :
    QueueLayout :=
  (config.dynamicBatching?.map DynamicBatching.layout).getD {}

/-- Deciding about an entry that has been popped keeps the layout of the queue. -/
private theorem Selection.hasLayout_consider
    {selection : Selection}
    {layout : QueueLayout}
    {inputs : List InputSpec}
    {queue : PriorityQueue}
    {entry : QueueEntry}
    (hasLayout : queue.HasLayout layout) :
    (consider inputs { selection with queue := queue } entry).queue.HasLayout layout := by
  unfold consider
  split
  · exact hasLayout
  · split
    · exact hasLayout
    · exact hasLayout.perform (.pushFront entry)

namespace DynamicBatcher

variable {batcher : DynamicBatcher}
variable {layout : QueueLayout}

theorem queue_ofConfig
    (config : ModelConfig) :
    (ofConfig config).queue = .ofLayout config.queueLayout := by
  unfold ofConfig ModelConfig.queueLayout
  cases config.dynamicBatching? <;> rfl

theorem hasLayout_attempt
    (hasLayout : batcher.queue.HasLayout layout)
    (instanceIndex now : Nat) :
    (batcher.attempt instanceIndex now).batcher.queue.HasLayout layout := by
  have expires : (batcher.takeExpired now).batcher.queue.HasLayout layout :=
    hasLayout.perform (.takeExpired now)
  have selects :
      ∀ limit, ((batcher.takeExpired now).batcher.select limit now).queue.HasLayout layout := by
    intro limit
    refine select_induction
      (motive := fun selection => selection.queue.HasLayout layout) ?_ ?_ now
    · exact expires
    · intro selection queue entry level _ popped before
      exact Selection.hasLayout_consider (before.popLevel? popped)
  refine attempt_cases
    (motive := fun formation => formation.batcher.queue.HasLayout layout) ?_ ?_ expires
  · intro phase wakeAt?
    exact expires
  · intro limit
    simp only [close]
    split <;> exact selects limit

/-- No operation on a batcher changes the layout of its queue. -/
theorem hasLayout_perform
    (hasLayout : batcher.queue.HasLayout layout)
    (operation : Operation) :
    (batcher.perform operation).queue.HasLayout layout := by
  cases operation with
  | enqueue request now =>
      have performed := hasLayout.perform (.enqueue request now)
      simp only [PriorityQueue.perform] at performed
      simp only [perform, enqueue]
      cases answered : batcher.queue.enqueue request now with
      | ok grown => rwa [answered] at performed
      | error failure => exact hasLayout
  | form instanceIndex now => exact hasLayout_attempt hasLayout instanceIndex now
  | complete instanceIndex records now => exact hasLayout
  | halt instanceIndex => exact hasLayout
  | drain => exact hasLayout.perform .drain

/-- Every operation leaves all levels within their capacity. -/
theorem withinCapacity_perform
    (hasLayout : batcher.queue.HasLayout layout)
    (within : batcher.queue.WithinCapacity layout)
    (operation : Operation) :
    (batcher.perform operation).queue.WithinCapacity layout := by
  have inOrder := inOrder_perform hasLayout.filed operation
  cases operation with
  | enqueue request now =>
      simp only [perform, enqueue]
      cases answered : batcher.queue.enqueue request now with
      | ok grown => exact hasLayout.withinCapacity_enqueue within answered
      | error failure => exact within
  | form | complete | halt | drain => exact within.of_inOrder inOrder

theorem withinCapacity_after
    (hasLayout : batcher.queue.HasLayout layout)
    (within : batcher.queue.WithinCapacity layout)
    (operations : List Operation) :
    (batcher.after operations).queue.HasLayout layout ∧
      (batcher.after operations).queue.WithinCapacity layout := by
  induction operations generalizing batcher with
  | nil => exact ⟨hasLayout, within⟩
  | cons operation operations inductionHypothesis =>
      exact inductionHypothesis (hasLayout_perform hasLayout operation)
        (withinCapacity_perform hasLayout within operation)

/-- A request is turned away if and only if its level is full. -/
theorem rejection?_enqueue
    (hasLayout : batcher.queue.HasLayout layout)
    (within : batcher.queue.WithinCapacity layout)
    (request : Request)
    (now : Nat) :
    let isFull := batcher.queue.IsFull (batcher.queue.resolveLevel request.priority)
    let rejection? := (batcher.enqueue request now).rejection?
    (rejection? = some { request := request, error := .queueFull } ↔ isFull) ∧
      (rejection? = none ↔ ¬isFull) := by
  simp only [enqueue]
  rcases hasLayout.enqueue_eq within request now with
    ⟨isFull, refused⟩ | ⟨notFull, grown, accepted⟩
  · rw [refused]
    simp [Answer.rejected, isFull]
  · rw [accepted]
    simp [Answer.accepted, notFull]

/-- Letting a request in, or turning it away, leaves all that waits where it was. -/
theorem entriesAt_enqueue_prefix
    (batcher : DynamicBatcher)
    (request : Request)
    (now level : Nat) :
    batcher.queue.entriesAt level <+:
      (batcher.enqueue request now).batcher.queue.entriesAt level := by
  simp only [enqueue]
  cases answered : batcher.queue.enqueue request now with
  | ok grown =>
      have isGrown := (PriorityQueue.entriesAt_of_enqueue answered).2 level
      exact isGrown ▸ List.prefix_append _ _
  | error failure => exact List.prefix_refl _

end DynamicBatcher

namespace SequenceBatcher

/-- A backlog with a capacity holds no more sequences than that. -/
def WithinCapacity
    (batcher : SequenceBatcher) :
    Prop :=
  0 < batcher.policy.capacity → batcher.backlog.length ≤ batcher.policy.capacity

variable {batcher other : SequenceBatcher}

/-- A backlog that is no longer than before is within the same capacity. -/
theorem WithinCapacity.of_length_le
    (within : batcher.WithinCapacity)
    (samePolicy : other.policy = batcher.policy)
    (shorter : other.backlog.length ≤ batcher.backlog.length) :
    other.WithinCapacity := by
  intro bounded
  rw [samePolicy] at bounded ⊢
  exact shorter.trans (within bounded)

/-- Only a sequence that finds room opens a lane; no other move lengthens the backlog. -/
theorem WithinCapacity.move
    {now : Nat}
    {activity : Activity}
    {events : List Event}
    (within : batcher.WithinCapacity)
    (move : Move now batcher activity events other) :
    other.WithinCapacity := by
  have samePolicy := (SharesSettings.move move).policy
  cases move with
  | @follow sequence entry _ _ =>
      have sameSequences := congrArg List.length (follow_backlog batcher sequence entry)
      rw [List.length_map, List.length_map] at sameSequences
      exact within.of_length_le samePolicy sameSequences.le
  | openLane _ _ room _ _ =>
      intro bounded
      have before := within bounded
      rw [QueuePolicy.hasRoom_eq] at room
      simp only [Bool.not_eq_true', Bool.and_eq_false_iff, decide_eq_false_iff_not] at room
      rcases room with unbounded | fewer
      · contradiction
      · rw [List.length_append]
        exact Nat.lt_of_not_le fewer
  | expireLanes => exact within.of_length_le samePolicy (List.length_filter_le _ _)
  | @seatLane passed later lane _ _ isBacklog _ _ _ _ =>
      refine within.of_length_le samePolicy ?_
      change (passed ++ later).length ≤ _
      simp only [isBacklog, List.length_append, List.length_cons]
      omega
  | push | start | unmark | forget | tearDown | evict | reclaim | dispatch | land | release =>
      exact within.of_length_le samePolicy le_rfl

/-- Every run leaves the backlog within its capacity. -/
theorem WithinCapacity.after
    (coherent : batcher.Coherent)
    (within : batcher.WithinCapacity)
    (operations : List Operation) :
    (batcher.after operations).WithinCapacity := by
  refine related_after
    (fun before after => before.WithinCapacity → after.WithinCapacity)
    (fun _ before => before)
    (fun first second before => second (first before))
    (fun _ made before => before.move made) ?_ ?_ coherent operations within
  · intro reached instanceIndex before
    exact before.of_length_le (SharesSettings.halt reached instanceIndex).policy
      (backlog_halt reached instanceIndex ▸ le_rfl)
  · intro reached before
    exact before.of_length_le (SharesSettings.drain reached).policy (Nat.zero_le _)

end SequenceBatcher

namespace BacklogBatcher

variable {batcher : BacklogBatcher}

/--
The backlog of a run is within its capacity, as its lanes are. What a formation takes out
of the queue and puts back is among the lanes that it has not seated.
-/
theorem size_starts_after
    (config : ModelConfig)
    (start : Nat)
    (operations : List Operation) :
    let reached := (ofConfig config start).after operations
    reached.policy = (config.sequenceBatching?.getD .standard).policy ∧
      (0 < reached.policy.capacity → reached.backlog.starts.size ≤ reached.policy.capacity) := by
  intro reached
  have started := SequenceBatcher.coherent_ofConfig config start
  have mirrors := (mirrors_ofConfig config start).after started operations
  refine ⟨?_, ?_⟩
  · rw [mirrors.policy_eq]
    exact (SequenceBatcher.SharesSettings.after started operations).policy
  · rw [mirrors.holds.size_starts, mirrors.policy_eq]
    exact SequenceBatcher.WithinCapacity.after started (fun _ => Nat.zero_le _) operations

/-- Letting a request in, or turning it away, leaves everybody waiting who waited. -/
theorem pendingEntries_enqueue_subperm
    (coherent : batcher.Coherent)
    (request : Request)
    (now : Nat) :
    batcher.pendingEntries.Subperm (batcher.enqueue request now).batcher.pendingEntries := by
  cases answered : (batcher.enqueue request now).rejection? with
  | none =>
      have grown := coherent.enqueue_accepted answered
      exact (List.sublist_append_left _ _).subperm.trans grown.symm.subperm
  | some failure => exact (coherent.enqueue_rejected answered).2.symm.subperm

/-- The queue of the backlog has nothing but first requests in it. -/
theorem Coherent.starts_of_mem
    (coherent : batcher.Coherent)
    {entry : QueueEntry}
    (member : entry ∈ batcher.backlog.starts.entries) :
    entry.request.starts = true := by
  rw [coherent.mirrors.holds.entries_starts] at member
  obtain ⟨lane, isLane, isFirst⟩ := List.mem_map.mp member
  exact isFirst ▸ (coherent.lanes.lanes lane isLane).starts

end BacklogBatcher

namespace Batcher

/--
In every state that a run of a dynamic batcher reaches, each level is under the policy
that the configuration has for it, and if that has a capacity, holds no more entries. A
request is then handed back because the queue is full if and only if the level of its
priority has a capacity and holds exactly that many entries; otherwise it is let in. In
every state that a run of a sequence batcher reaches, the queue of the backlog holds no more
entries than the capacity of its policy, and each of them is a START. In both, letting a
request in takes nothing out of the queues.
-/
theorem queues_within_capacity
    (config : ModelConfig)
    (start : Nat)
    (operations : List Operation) :
    let dynamic := (DynamicBatcher.ofConfig config).after operations
    let sequence := (BacklogBatcher.ofConfig config start).after operations
    (∀ level held,
        dynamic.queue.level? level = some held →
          held.policy = config.queueLayout.policyFor level ∧
            (0 < held.policy.capacity → held.entries.length ≤ held.policy.capacity)) ∧
      (∀ request now,
        let answer := dynamic.enqueue request now
        let isFull := dynamic.queue.IsFull (dynamic.queue.resolveLevel request.priority)
        (answer.rejection? = some { request := request, error := .queueFull } ↔ isFull) ∧
          (answer.rejection? = none ↔ ¬isFull) ∧
          ∀ level, dynamic.queue.entriesAt level <+: answer.batcher.queue.entriesAt level) ∧
      sequence.policy = (config.sequenceBatching?.getD .standard).policy ∧
      (0 < sequence.policy.capacity →
        sequence.backlog.starts.size ≤ sequence.policy.capacity) ∧
      (∀ entry ∈ sequence.backlog.starts.entries, entry.request.starts = true) ∧
      ∀ request now,
        sequence.pendingEntries.Subperm
          (sequence.enqueue request now).batcher.pendingEntries := by
  intro dynamic sequence
  have isNew := DynamicBatcher.queue_ofConfig config
  obtain ⟨hasLayout, within⟩ : dynamic.queue.HasLayout config.queueLayout ∧
      dynamic.queue.WithinCapacity config.queueLayout :=
    DynamicBatcher.withinCapacity_after
      (isNew ▸ PriorityQueue.hasLayout_ofLayout config.queueLayout)
      (isNew ▸ PriorityQueue.withinCapacity_ofLayout config.queueLayout)
      operations
  have coherent : sequence.Coherent :=
    (BacklogBatcher.coherent_ofConfig config start).after operations
  obtain ⟨samePolicy, backlogWithin⟩ := BacklogBatcher.size_starts_after config start operations
  refine ⟨?_, ?_, samePolicy, backlogWithin, fun _ => coherent.starts_of_mem,
    BacklogBatcher.pendingEntries_enqueue_subperm coherent⟩
  · intro level held isHeld
    exact ⟨hasLayout.policy_of_level? isHeld, hasLayout.length_le_capacity within isHeld⟩
  · intro request now answer isFull
    obtain ⟨rejected, accepted⟩ := DynamicBatcher.rejection?_enqueue hasLayout within request now
    exact ⟨rejected, accepted, dynamic.entriesAt_enqueue_prefix request now⟩

/--
A request that does not fit the batch goes back, so one more fills the level again and the
next is handed back. A sequence whose predecessor is still in flight stays in the backlog
although a slot is free, and the backlog holds no more than this one.
-/
theorem queues_within_capacity_of_put_back :
    let alone : ModelConfig :=
      { name := "model"
        maxBatchSize := 4
        dynamicBatching? := some { defaultPolicy := { capacity := 2 } } }
    let sends := fun (id : RequestId) (elements : List Int) =>
      ({ id := id
         inputs := [{ name := "x", tensor := .ofElements [elements.length] .int64 elements }] } :
        Request)
    let arrivals : List Operation :=
      [.enqueue (sends 1 [5]) 0, .enqueue (sends 2 [6, 7]) 0, .form 0 1,
        .enqueue (sends 3 [8]) 1]
    let dynamic := (DynamicBatcher.ofConfig alone).after arrivals
    let grouped : ModelConfig :=
      { name := "model"
        maxBatchSize := 2
        sequenceBatching? := some { maxSequences := 2, policy := { capacity := 1 } } }
    let turns : List Operation :=
      [.enqueue { id := 1, sequence? := some 7, starts := true, ends := true } 0, .form 0 1,
        .enqueue { id := 2, sequence? := some 7, starts := true } 1, .form 0 2]
    let sequence := (BacklogBatcher.ofConfig grouped 0).after turns
    (alone.problem? = none ∧ grouped.problem? = none) ∧
      dynamic.queue.entries.map (fun entry => entry.request.id) = [2, 3] ∧
      (dynamic.queue.entriesAt 1).length ≤ 2 ∧
      (dynamic.enqueue (sends 4 [9]) 1).rejection? =
        some { request := sends 4 [9], error := .queueFull } ∧
      sequence.backlog.starts.entries.map (fun entry => entry.request.id) = [2] ∧
      sequence.backlog.starts.size ≤ 1 := by
  intro alone sends arrivals dynamic grouped turns sequence
  obtain ⟨bounds, answers, _⟩ := queues_within_capacity alone 0 arrivals
  obtain ⟨_, _, policy, backlogBound, _⟩ := queues_within_capacity grouped 0 turns
  let held : LevelQueue :=
    { level := 1
      policy := { capacity := 2 }
      entries :=
        [.enter (sends 2 [6, 7]) { capacity := 2 } 0, .enter (sends 3 [8]) { capacity := 2 } 1] }
  have isHeld : dynamic.queue.level? 1 = some held := by decide
  have isLevel : dynamic.queue.resolveLevel (sends 4 [9]).priority = 1 := by decide
  have isEntries : dynamic.queue.entriesAt 1 = held.entries := by
    rw [PriorityQueue.entriesAt, isHeld]
    rfl
  have isReached : (BacklogBatcher.ofConfig grouped 0).after turns = sequence := rfl
  have isCapacity : (grouped.sequenceBatching?.getD .standard).policy.capacity = 1 := rfl
  rw [policy, isCapacity, isReached] at backlogBound
  refine ⟨by decide, by decide, ?_, ?_, by decide, ?_⟩
  · rw [isEntries]
    exact (bounds 1 held isHeld).2 (by decide)
  · refine (answers (sends 4 [9]) 1).1.mpr ⟨held, ?_, by decide, rfl⟩
    rw [isLevel]
    exact isHeld
  · exact backlogBound Nat.one_pos

end Batcher

end InferenceBatching
