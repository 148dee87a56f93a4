import InferenceBatching.Proofs.Backlog.Admission
import InferenceBatching.Proofs.Backlog.Formation
import InferenceBatching.Proofs.Sequence.Settings

namespace InferenceBatching

/-!
# A backlog refines its lanes

A batcher with a backlog and one with lanes that start as new batchers of one
configuration mirror each other through every run, and give the same answers on the way.
So whatever is known of runs with lanes is known of runs with a backlog, of its queue and
of its directory.
-/

/-- Two reports come to the same, at batchers that mirror each other. -/
structure Settlement.Mirrors
    (settlement : Settlement BacklogBatcher)
    (other : Settlement SequenceBatcher) :
    Prop where
  batcher : settlement.batcher.Mirrors other.batcher
  verdict : settlement.verdict = other.verdict

/-- The same requests are handed over, in any order, by batchers that mirror each other. -/
structure Handover.Mirrors
    (handover : Handover BacklogBatcher)
    (other : Handover SequenceBatcher) :
    Prop where
  batcher : handover.batcher.Mirrors other.batcher
  requests : handover.requests.Perm other.requests

namespace BacklogBatcher

variable {batcher : BacklogBatcher}
variable {other : SequenceBatcher}

/-- What a step leaves alone and does the same with lanes keeps two batchers mirrors. -/
theorem Mirrors.of_step
    (mirrors : batcher.Mirrors other)
    {after : BacklogBatcher}
    {otherAfter : SequenceBatcher}
    (sameBacklog : after.withBacklog batcher.backlog = after)
    (same : after.withBacklog other.backlog = otherAfter)
    (shares : other.SharesSettings otherAfter) :
    after.Mirrors otherAfter := by
  have isBacklog : after.backlog = batcher.backlog := by
    rw [← sameBacklog]
    rfl
  have isPolicy : after.policy = batcher.policy := by
    rw [mirrors.policy_eq, ← shares.policy, ← same]
    rfl
  have isLanes : otherAfter.backlog = other.backlog := by
    rw [← same]
    rfl
  refine ⟨by rw [isLanes, same], ?_⟩
  rw [isBacklog, isPolicy, isLanes]
  exact mirrors.holds

/-- A report is settled with a backlog as it is with lanes. -/
theorem complete_mirrors
    (mirrors : batcher.Mirrors other)
    (coherent : other.Coherent)
    (instanceIndex : Nat)
    (records : List DispatchRecord)
    (now : Nat) :
    Settlement.Mirrors (batcher.complete instanceIndex records now)
      (other.complete instanceIndex records now) := by
  have sameBacklog :=
    batcher.complete_withBacklog batcher.backlog instanceIndex records now
  have same := batcher.complete_withBacklog other.backlog instanceIndex records now
  rw [mirrors.same] at same
  refine ⟨mirrors.of_step (congrArg Settlement.batcher sameBacklog).symm
    (congrArg Settlement.batcher same).symm ?_, (congrArg Settlement.verdict same).symm⟩
  exact SequenceBatcher.SharesSettings.perform coherent (.complete instanceIndex records now)

/-- An instance is halted with a backlog as it is with lanes. -/
theorem halt_mirrors
    (mirrors : batcher.Mirrors other)
    (instanceIndex : Nat) :
    Handover.Mirrors (batcher.halt instanceIndex) (other.halt instanceIndex) := by
  have sameBacklog := batcher.halt_withBacklog batcher.backlog instanceIndex
  have same := batcher.halt_withBacklog other.backlog instanceIndex
  rw [mirrors.same] at same
  refine ⟨mirrors.of_step (congrArg Handover.batcher sameBacklog).symm
    (congrArg Handover.batcher same).symm (.halt other instanceIndex), ?_⟩
  exact .of_eq (congrArg Handover.requests same).symm

/-- What waits in the backlog is handed over, and the backlog is empty afterwards. -/
theorem drain_mirrors
    (mirrors : batcher.Mirrors other) :
    batcher.drain.Mirrors other.drain := by
  have waiting := mirrors.holds.entries_perm
  have isStarts := mirrors.holds.starts
  unfold drain SequenceBatcher.drain
  rw [isStarts, PriorityQueue.drain_single, mirrors.instances_eq]
  refine ⟨⟨?_, ?_⟩, ?_⟩
  · rw [← mirrors.same]
    rfl
  · exact Backlog.holds_empty batcher.policy
  · rw [Backlog.entries, isStarts, PriorityQueue.entries_single] at waiting
    exact (waiting.append_right _).map QueueEntry.request

/-- Batchers that mirror each other still do so after any operation. -/
theorem Mirrors.perform
    (mirrors : batcher.Mirrors other)
    (coherent : other.Coherent)
    (operation : Operation) :
    (batcher.perform operation).Mirrors (other.perform operation) := by
  cases operation with
  | enqueue request now =>
      rw [← mirrors.same]
      exact (enqueue_mirrors mirrors.holds request now).batcher
  | form instanceIndex now =>
      exact (formBatch_mirrors mirrors coherent instanceIndex now).batcher
  | complete instanceIndex records now =>
      exact (complete_mirrors mirrors coherent instanceIndex records now).batcher
  | halt instanceIndex => exact (halt_mirrors mirrors instanceIndex).batcher
  | drain => exact (drain_mirrors mirrors).batcher

theorem Mirrors.after
    (mirrors : batcher.Mirrors other)
    (coherent : other.Coherent)
    (operations : List Operation) :
    (batcher.after operations).Mirrors (other.after operations) := by
  induction operations generalizing batcher other with
  | nil => exact mirrors
  | cons operation operations inductionHypothesis =>
      exact inductionHypothesis (mirrors.perform coherent operation) (coherent.perform operation)

/-- A batcher with a backlog is coherent if its two places agree on lanes of a coherent one. -/
structure Coherent
    (batcher : BacklogBatcher) :
    Prop where
  mirrors : batcher.Mirrors batcher.lanes
  lanes : batcher.lanes.Coherent

theorem Mirrors.coherent
    (mirrors : batcher.Mirrors other)
    (coherent : other.Coherent) :
    batcher.Coherent := by
  refine ⟨?_, ?_⟩ <;> rw [mirrors.lanes_eq]
  · exact mirrors
  · exact coherent

theorem coherent_ofConfig
    (config : ModelConfig)
    (start : Nat) :
    (ofConfig config start).Coherent :=
  (mirrors_ofConfig config start).coherent (SequenceBatcher.coherent_ofConfig config start)

namespace Coherent

variable (coherent : batcher.Coherent)

include coherent

theorem enqueue
    (request : Request)
    (now : Nat) :
    (batcher.enqueue request now).Mirrors (batcher.lanes.enqueue request now) := by
  have mirrors := enqueue_mirrors coherent.mirrors.holds request now
  rwa [coherent.mirrors.same] at mirrors

theorem formBatch
    (instanceIndex now : Nat) :
    (batcher.formBatch instanceIndex now).Mirrors
      (batcher.lanes.formBatch instanceIndex now) :=
  formBatch_mirrors coherent.mirrors coherent.lanes instanceIndex now

theorem complete
    (instanceIndex : Nat)
    (records : List DispatchRecord)
    (now : Nat) :
    Settlement.Mirrors (batcher.complete instanceIndex records now)
      (batcher.lanes.complete instanceIndex records now) :=
  complete_mirrors coherent.mirrors coherent.lanes instanceIndex records now

theorem halt
    (instanceIndex : Nat) :
    Handover.Mirrors (batcher.halt instanceIndex) (batcher.lanes.halt instanceIndex) :=
  halt_mirrors coherent.mirrors instanceIndex

theorem drain :
    batcher.drain.Mirrors batcher.lanes.drain :=
  drain_mirrors coherent.mirrors

/-- The lanes after an operation are those of the lanes after it. -/
theorem lanes_perform
    (operation : Operation) :
    (batcher.perform operation).lanes = batcher.lanes.perform operation :=
  (coherent.mirrors.perform coherent.lanes operation).lanes_eq

theorem lanes_after
    (operations : List Operation) :
    (batcher.after operations).lanes = batcher.lanes.after operations :=
  (coherent.mirrors.after coherent.lanes operations).lanes_eq

theorem perform
    (operation : Operation) :
    (batcher.perform operation).Coherent :=
  (coherent.mirrors.perform coherent.lanes operation).coherent (coherent.lanes.perform operation)

theorem after
    (operations : List Operation) :
    (batcher.after operations).Coherent :=
  (coherent.mirrors.after coherent.lanes operations).coherent (coherent.lanes.after operations)

end Coherent

/-- The lanes of a new batcher after a run are those that a run with lanes reaches. -/
theorem lanes_after_ofConfig
    (config : ModelConfig)
    (start : Nat)
    (operations : List Operation) :
    ((ofConfig config start).after operations).lanes =
      (SequenceBatcher.ofConfig config start).after operations := by
  rw [(coherent_ofConfig config start).lanes_after, (mirrors_ofConfig config start).lanes_eq]

/--
Through every run, a batcher with a backlog mirrors the one with lanes: its queue holds
the first requests of the lanes in their order, its directory what came behind each of
them and nothing else, and slots, bindings and marks are the same. Whatever is done next,
both let in, turn away, dispatch, fail and hand over the same requests.
-/
theorem runs_mirror
    (config : ModelConfig)
    (start : Nat)
    (operations : List Operation) :
    let batcher := (ofConfig config start).after operations
    let other := (SequenceBatcher.ofConfig config start).after operations
    batcher.Mirrors other ∧
      (∀ request now,
        (batcher.enqueue request now).Mirrors (other.enqueue request now)) ∧
      (∀ instanceIndex now,
        (batcher.formBatch instanceIndex now).Mirrors (other.formBatch instanceIndex now)) ∧
      (∀ instanceIndex records now,
        Settlement.Mirrors (batcher.complete instanceIndex records now)
          (other.complete instanceIndex records now)) ∧
      (∀ instanceIndex,
        Handover.Mirrors (batcher.halt instanceIndex) (other.halt instanceIndex)) ∧
      batcher.drain.Mirrors other.drain := by
  intro batcher other
  have coherent : batcher.Coherent := (coherent_ofConfig config start).after operations
  have isOther : batcher.lanes = other := lanes_after_ofConfig config start operations
  rw [← isOther]
  exact ⟨coherent.mirrors, coherent.enqueue, coherent.formBatch, coherent.complete,
    coherent.halt, coherent.drain⟩

end BacklogBatcher

end InferenceBatching
